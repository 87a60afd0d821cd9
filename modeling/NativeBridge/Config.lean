/-!
Options that shape a generated binding type.

The lowering and nullable stages can be switched off; the disposal guard follows
`disposalChecks`, and the direct call is always there. Two requests with equal
configurations for the same interface may share one generated type.
-/

namespace NativeBridge

inductive OptionalStage where
  | lowering
  | nullable
  deriving DecidableEq, Inhabited, Repr

def OptionalStage.display : OptionalStage → String
  | .lowering => "Lowering"
  | .nullable => "Nullable"

structure StageSet where
  lowering : Bool
  nullable : Bool
  deriving DecidableEq, Inhabited, Repr

namespace StageSet

def empty : StageSet := ⟨false, false⟩

def all : StageSet := ⟨true, true⟩

def contains (s : StageSet) : OptionalStage → Bool
  | .lowering => s.lowering
  | .nullable => s.nullable

def with_ (s : StageSet) : OptionalStage → StageSet
  | .lowering => { s with lowering := true }
  | .nullable => { s with nullable := true }

def without (s : StageSet) : OptionalStage → StageSet
  | .lowering => { s with lowering := false }
  | .nullable => { s with nullable := false }

def debug (s : StageSet) : String :=
  let names := ([OptionalStage.lowering, .nullable].filter s.contains).map OptionalStage.display
  "\x7b" ++ ", ".intercalate names ++ "\x7d"

end StageSet

/-- Options that change the shape of a generated binding type. -/
structure BindingConfig where
  lazyBinding : Bool := false
  disposalChecks : Bool := true
  stages : StageSet := .all
  deriving DecidableEq, Inhabited, Repr

namespace BindingConfig

def debug (c : BindingConfig) : String :=
  "BindingConfig \x7b lazy_binding: " ++ toString c.lazyBinding ++ ", disposal_checks: "
    ++ toString c.disposalChecks ++ ", stages: " ++ c.stages.debug ++ " \x7d"

def isWhiteSpace (c : Char) : Bool :=
  let n := c.toNat
  (0x09 ≤ n ∧ n ≤ 0x0D) ∨ n = 0x20 ∨ n = 0x85 ∨ n = 0xA0 ∨ n = 0x1680 ∨
    (0x2000 ≤ n ∧ n ≤ 0x200A) ∨ n = 0x2028 ∨ n = 0x2029 ∨ n = 0x202F ∨ n = 0x205F ∨ n = 0x3000

def settingIsTrue (value : String) : Bool :=
  let trimmed := String.ofList ((value.toList.dropWhile isWhiteSpace).reverse.dropWhile isWhiteSpace).reverse
  !trimmed.isEmpty && !(["0", "false", "FALSE", "False"].contains trimmed)

def flag (setting : Option String) (default : Bool) : Bool :=
  (setting.map settingIsTrue).getD default

/-- The configuration from four settings, each possibly absent: lazy binding,
disposal checks, and the two switches that turn a stage off. -/
def ofSettings (lazy disposal disableLowering disableNullable : Option String) : BindingConfig :=
  let stages := StageSet.all
  let stages := if flag disableLowering false then stages.without .lowering else stages
  let stages := if flag disableNullable false then stages.without .nullable else stages
  { lazyBinding := flag lazy false, disposalChecks := flag disposal true, stages }

end BindingConfig

end NativeBridge
