import NativeBridge.Generation.Adapter
import NativeBridge.Config

/-!
The generator stages and the work they are given.

A work unit is one interface member on its way through the stages: the shape the
current method must implement and the method whose body comes next. Each stage
either declines a unit or emits that body and forwards to at most one helper
method, which later stages implement in turn:

* the disposal guard wraps each member's entry point in a check of the
  instance's disposed flag;
* lowering replaces complex types by their transformers' lowered types;
* nullable marshalling passes optional values as pointers to scratch buffers;
* the direct call binds a directly passable shape to a native symbol slot.
-/

namespace NativeBridge

/-- One interface member moving through the stages. Derived units keep the
member's symbol, base name and number; only the shape and method change. -/
structure WorkUnit where
  decl : MemberDecl
  memberIndex : Nat
  symbolName : String
  baseName : String
  uniqueId : Nat
  method : Nat
  deriving DecidableEq, Inhabited, Repr

namespace WorkUnit

def generatedName (u : WorkUnit) (suffix : String) : String :=
  u.baseName ++ "_" ++ suffix ++ "_" ++ toString u.uniqueId

def isEntry (u : WorkUnit) : Bool := u.decl.name == u.baseName

end WorkUnit

structure Complexity where
  memberType : Bool := false
  parameters : Bool := false
  ret : Bool := false
  helper : Bool := false
  deriving DecidableEq, Inhabited, Repr

def Complexity.display (c : Complexity) : String :=
  let names := [(c.memberType, "member-type"), (c.parameters, "parameters"), (c.ret, "return"),
    (c.helper, "helper")].filterMap fun (set, name) => if set then some name else none
  if names.isEmpty then "none" else "+".intercalate names

structure GenerationInput where
  config : BindingConfig
  lowering : String → Option TypeRef

inductive Stage where
  | disposalGuard
  | lowered
  | nullable
  | directCall
  deriving DecidableEq, Inhabited, Repr

namespace Stage

def standard : List Stage := [.disposalGuard, .lowered, .nullable, .directCall]

def name : Stage → String
  | .disposalGuard => "disposal-guard"
  | .lowered => "lowered"
  | .nullable => "nullable"
  | .directCall => "direct-call"

def ofName? (s : String) : Option Stage := [Stage.disposalGuard, .lowered, .nullable, .directCall].find? (·.name == s)

def complexity : Stage → Complexity
  | .disposalGuard => { helper := true }
  | .lowered | .nullable => ⟨true, true, true, true⟩
  | .directCall => { memberType := true }

def applies (input : GenerationInput) (u : WorkUnit) : Stage → Bool
  | .disposalGuard => input.config.disposalChecks && u.isEntry
  | .lowered =>
    input.config.stages.contains .lowering && u.decl.types.any TypeRef.isNamed
      && u.decl.types.all fun t => match t with
        | .named k => (input.lowering k).isSome
        | _ => true
  | .nullable =>
    input.config.stages.contains .nullable && u.decl.types.any TypeRef.isNullable && !u.decl.types.any TypeRef.isNamed
  | .directCall => u.decl.isDirectlyPassable

def derive (b : TypeBuilder) (u : WorkUnit) (decl : MemberDecl) (suffix : String) :
    Except Error (WorkUnit × TypeBuilder) := do
  let name := u.generatedName suffix
  let (method, b) ← TypeBuilder.propagate (b.declare name u.memberIndex)
  pure ({ u with decl := { decl with name }, method }, b)

def lowerType (input : GenerationInput) (member : String) : TypeRef → Except Error (Option String × TypeRef)
  | .named k => match input.lowering k with
    | some t => .ok (some k, t)
    | none => .error (.configuration member ("no transformer registered for `" ++ k ++ "`"))
  | t => .ok (none, t)

def asPointer (ownership : Ownership) : TypeRef → Option NullableMarshal × TypeRef
  | .nullable t => (some ⟨t, ownership⟩, .native .pointer)
  | t => (none, t)

def reshape (d : MemberDecl) (params : List TypeRef) (ret : TypeRef) : MemberDecl :=
  { d with params := (d.params.zip params).map fun (p, t) => { p with ty := t },
           ret := { d.ret with ty := ret } }

/-- Emit the body of the unit's method; the unit of the helper it forwards to,
if any. -/
def emit (input : GenerationInput) (u : WorkUnit) (b : TypeBuilder) :
    Stage → Except Error (Option WorkUnit × TypeBuilder)
  | .disposalGuard => do
    let (inner, b) ← derive b u u.decl "guarded"
    let ((), b) ← TypeBuilder.propagate (b.define u.method u.decl (.guard inner.method))
    pure (some inner, b)
  | .lowered => do
    let params ← u.decl.params.mapM fun p => lowerType input u.baseName p.ty
    let ret ← lowerType input u.baseName u.decl.ret.ty
    let (target, b) ← derive b u (reshape u.decl (params.map (·.2)) ret.2) "lowered"
    let ((), b) ← TypeBuilder.propagate (b.define u.method u.decl (.lowered target.method (params.map (·.1)) ret.1))
    pure (some target, b)
  | .nullable => do
    let params := u.decl.params.map fun p => asPointer p.ownership p.ty
    let ret := asPointer u.decl.ret.ownership u.decl.ret.ty
    let (target, b) ← derive b u (reshape u.decl (params.map (·.2)) ret.2) "marshalled"
    let ((), b) ← TypeBuilder.propagate (b.define u.method u.decl (.nullable target.method (params.map (·.1)) ret.1))
    pure (some target, b)
  | .directCall => do
    let conv := u.decl.callingConvention
    if !conv.isSupported then
      throw (.configuration u.baseName
        ("calling convention " ++ conv.display ++ " is not supported on this target"))
    let some params := u.decl.params.mapM (·.ty.asNative?)
      | throw (.configuration u.baseName ("`" ++ u.decl.signature ++ "` is not directly passable"))
    let some ret := u.decl.ret.ty.asNative?
      | throw (.configuration u.baseName
          ("return type " ++ u.decl.ret.ty.display ++ " is not directly passable"))
    let signature : NativeSignature := ⟨params, ret, conv⟩
    let (slot, b) := b.addSlot ⟨u.symbolName, u.baseName, signature, input.config.lazyBinding⟩
    let ((), b) ← TypeBuilder.propagate (b.define u.method u.decl (.native slot signature))
    pure (none, b)

end Stage

end NativeBridge
