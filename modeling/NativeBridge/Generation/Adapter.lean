import NativeBridge.Decl
import NativeBridge.Native.Signature
import NativeBridge.Text.Quote

/-!
The parts of a generated adapter type: methods with fixed body shapes, and the
native symbol slots they call through.

A method is declared (named) before its body is defined, so that a stage can
forward to a method a later stage emits. `TypeBuilder` enforces that names are
unique, that each body is defined once, and that every declared method has a
body when the type is finished.
-/

namespace NativeBridge

structure NullableMarshal where
  underlying : NativeType
  ownership : Ownership
  deriving DecidableEq, Inhabited, Repr

def NullableMarshal.debug (m : NullableMarshal) : String :=
  "NullableMarshal \x7b underlying: " ++ m.underlying.debugName ++ ", ownership: " ++ m.ownership.display ++ " \x7d"

def debugOption (f : α → String) : Option α → String
  | some a => "Some(" ++ f a ++ ")"
  | none => "None"

/-- The body of a generated method. Targets are method numbers; the lowered
body names, for each parameter and the return value, the key of the complex type
it converts, if any. -/
inductive AdapterBody where
  | guard (inner : Nat)
  | lowered (target : Nat) (params : List (Option String)) (ret : Option String)
  | nullable (target : Nat) (params : List (Option NullableMarshal)) (ret : Option NullableMarshal)
  | native (slot : Nat) (signature : NativeSignature)
  deriving DecidableEq, Inhabited, Repr

namespace AdapterBody

def shape : AdapterBody → String
  | .guard _ => "disposal-guard"
  | .lowered .. => "lowered"
  | .nullable .. => "nullable-marshal"
  | .native .. => "native"

def target? : AdapterBody → Option Nat
  | .guard inner => some inner
  | .lowered target .. | .nullable target .. => some target
  | .native .. => none

def marked (xs : List (Option α)) : List Nat :=
  (xs.zipIdx.filter (·.1.isSome)).map (·.2)

def debugNats (xs : List Nat) : String := "[" ++ ", ".intercalate (xs.map toString) ++ "]"

def debug : AdapterBody → String
  | .guard inner => "DisposalGuard \x7b inner: MethodId(" ++ toString inner ++ ") \x7d"
  | .lowered target params ret =>
    "Lowered \x7b target: MethodId(" ++ toString target ++ "), lowered_params: " ++ debugNats (marked params)
      ++ ", lowered_return: " ++ toString ret.isSome ++ " \x7d"
  | .nullable target params ret =>
    "Nullable \x7b target: MethodId(" ++ toString target ++ "), params: ["
      ++ ", ".intercalate (params.map (debugOption NullableMarshal.debug)) ++ "], ret: "
      ++ debugOption NullableMarshal.debug ret ++ " \x7d"
  | .native slot signature =>
    "Native \x7b slot: SlotId(" ++ toString slot ++ "), signature: " ++ Text.debugQuote signature.display ++ " \x7d"

end AdapterBody

structure MethodDef where
  name : String
  member : Nat
  decl : MemberDecl
  body : AdapterBody
  deriving DecidableEq, Inhabited, Repr

structure SlotDef where
  symbol : String
  member : String
  signature : NativeSignature
  lazy : Bool
  deriving DecidableEq, Inhabited, Repr

structure PendingMethod where
  name : String
  member : Nat
  definition : Option (MemberDecl × AdapterBody) := none
  deriving DecidableEq, Inhabited, Repr

/-- A type under construction: the declared methods, the set of their names, and the slots. -/
structure TypeBuilder where
  methods : List PendingMethod := []
  names : List String := []
  slots : List SlotDef := []
  deriving DecidableEq, Inhabited, Repr

namespace TypeBuilder

def insertName (names : List String) (name : String) : Bool × List String :=
  if names.contains name then (false, names) else (true, names ++ [name])

theorem insertName_of_mem {names : List String} {name : String} (h : name ∈ names) :
    insertName names name = (false, names) := by
  simp [insertName, h]

theorem insertName_of_not_mem {names : List String} {name : String} (h : name ∉ names) :
    insertName names name = (true, names ++ [name]) := by
  simp [insertName, h]

/-- Declare a method; its number is its position. The name goes into the set of names first, and
a name the set already holds is refused. -/
def declare (b : TypeBuilder) (name : String) (member : Nat) : Except Error Nat × TypeBuilder :=
  let (fresh, names) := insertName b.names name
  let b := { b with names }
  if fresh then (.ok b.methods.length, { b with methods := b.methods ++ [{ name, member }] })
  else (.error (.configuration name "generated method name collides with an existing method"), b)

theorem declare_of_not_mem {b : TypeBuilder} {name : String} (h : name ∉ b.names) (member : Nat) :
    b.declare name member =
      (.ok b.methods.length, { b with methods := b.methods ++ [{ name, member }], names := b.names ++ [name] }) := by
  simp [declare, insertName_of_not_mem h]

theorem declare_of_mem {b : TypeBuilder} {name : String} (h : name ∈ b.names) (member : Nat) :
    b.declare name member =
      (.error (.configuration name "generated method name collides with an existing method"), b) := by
  simp [declare, insertName_of_mem h]

def define (b : TypeBuilder) (id : Nat) (decl : MemberDecl) (body : AdapterBody) : Except Error Unit × TypeBuilder :=
  match b.methods[id]? with
  | none => (.error (.generic ("method MethodId(" ++ toString id ++ ") was never declared")), b)
  | some m =>
    if m.definition.isSome then (.error (.configuration m.name "method body emitted twice"), b)
    else (.ok (), { b with methods := b.methods.set id { m with definition := some (decl, body) } })

def propagate : Except Error α × TypeBuilder → Except Error (α × TypeBuilder)
  | (.ok a, b) => .ok (a, b)
  | (.error e, _) => .error e

@[simp]
theorem propagate_ok (a : α) (b : TypeBuilder) : propagate (.ok a, b) = .ok (a, b) := rfl

@[simp]
theorem propagate_error (e : Error) (b : TypeBuilder) : propagate (.error e, b) = (.error e : Except Error (α × TypeBuilder)) :=
  rfl

def addSlot (b : TypeBuilder) (slot : SlotDef) : Nat × TypeBuilder :=
  (b.slots.length, { b with slots := b.slots ++ [slot] })

@[simp]
theorem addSlot_fst (b : TypeBuilder) (slot : SlotDef) : (b.addSlot slot).1 = b.slots.length := rfl

@[simp]
theorem slots_addSlot (b : TypeBuilder) (slot : SlotDef) :
    (b.addSlot slot).2.slots = b.slots ++ [slot] := rfl

def finishMethods : List PendingMethod → Except Error (List MethodDef)
  | [] => .ok []
  | m :: ms =>
    match m.definition with
    | none => .error (.configuration m.name "method was declared but no stage emitted its body")
    | some (decl, body) => do
      let rest ← finishMethods ms
      pure (⟨m.name, m.member, decl, body⟩ :: rest)

def finish (b : TypeBuilder) : Except Error (List MethodDef × List SlotDef) := do
  pure (← finishMethods b.methods, b.slots)

end TypeBuilder

end NativeBridge
