import NativeBridge.Generation.Pipeline
import NativeBridge.Transform

/-!
Activated bindings and how their members are called.

An instance holds the entry of each native symbol slot of its type: resolved at
activation for an eager slot, on first use for a lazy one, where only a success
is kept so that a later call asks again. Disposal is a flag that guarded members
check before anything else.

A call checks the arguments against the member's declaration, then runs the
member's methods: a guard checks the flag, a lowered method converts the complex
values around the call it forwards to, a nullable method passes optional values
through scratch buffers, and a native method calls its slot's entry. Lowered and
nullable methods run as activations of their own: what they allocate for the
call is released when it ends, except buffers handed to native code by a call
that completed.
-/

namespace NativeBridge

/-- An activated binding: its type, the entry of each slot once resolved, and
whether it is disposed. -/
structure Binding (ε : Type) where
  type : BindingType
  slots : List (Option ε)
  disposed : Bool := false

def SlotDef.resolve (host : Host σ ε) (slot : SlotDef) : Call σ ε ε := do
  match ← Call.ask (host.resolve slot.symbol) with
  | .ok e => pure e
  | .error reason => throw (.symbolNotFound slot.symbol slot.member reason)

def SlotDef.activate (host : Host σ ε) : List SlotDef → Call σ ε (List (Option ε))
  | [] => pure []
  | s :: rest => do
    let e ← if s.lazy then pure none else some <$> s.resolve host
    pure (e :: (← activate host rest))

def BindingType.instantiate (host : Host σ ε) (t : BindingType) : Call σ ε (Binding ε) := do
  pure ⟨t, ← SlotDef.activate host t.slots, false⟩

def MemberDecl.checkArguments (decl : MemberDecl) (args : List Value) : Except Error Unit := do
  if args.length != decl.params.length then
    throw (.argumentMismatch decl.name ("expected " ++ toString decl.params.length ++ " arguments, got "
      ++ toString args.length))
  for (p, v) in decl.params.zip args do
    if !v.conformsTo p.ty then
      throw (.argumentMismatch decl.name ("parameter `" ++ p.name ++ "` expects " ++ p.ty.display
        ++ ", got " ++ v.kind))

def MemberDecl.checked (decl : MemberDecl) (args : List Value) (k : Call σ ε α) : Call σ ε α :=
  match decl.checkArguments args with
  | .error e => throw e
  | .ok () => k

namespace Binding

def dispose (b : Binding ε) : Bool × Binding ε := (!b.disposed, { b with disposed := true })

@[simp]
theorem dispose_fst (b : Binding ε) : b.dispose.1 = !b.disposed := rfl

@[simp]
theorem disposed_dispose (b : Binding ε) : b.dispose.2.disposed = true := rfl

theorem dispose_dispose (b : Binding ε) : b.dispose.2.dispose.1 = false := rfl

def isFullyResolved (b : Binding ε) : Bool := b.slots.all Option.isSome

def debug (b : Binding ε) (resolver : String) : String :=
  "Binding \x7b interface: " ++ Text.debugQuote b.type.interface.name ++ ", resolver: "
    ++ Text.debugQuote resolver ++ ", disposed: " ++ toString b.disposed ++ " \x7d"

end Binding

def SlotDef.entry (host : Host σ ε) (i : Nat) (s : SlotDef) : Call σ ε ε := do
  match (← get).slots[i]? with
  | some (some e) => pure e
  | _ =>
    let e ← s.resolve host
    modify fun st => { st with slots := st.slots.set i (some e) }
    pure e

def slotEntry (host : Host σ ε) (t : BindingType) (slot : Nat) : Call σ ε ε :=
  match t.slots[slot]? with
  | some def_ => def_.entry host slot
  | none => do
    match (← get).slots[slot]? with
    | some (some e) => pure e
    | _ => throw (.generic ("slot " ++ toString slot ++ " does not exist"))

def callEntry (host : Host σ ε) (member : String) (e : ε) (sig : NativeSignature) (args : List Value) :
    Call σ ε Value := do
  match sig.check member args with
  | .error err => throw err
  | .ok () => Call.ask (host.invoke e sig args)

def marshalIn (host : Host σ ε) (member name : String) (v : Value) (m : NullableMarshal) : Call σ ε Value := do
  match v with
  | .optional none => pure Value.null
  | .optional (some inner) =>
    let size := m.underlying.size
    let buf ← Call.ask (host.allocate size)
    if buf == 0 then
      throw (.marshalling member ("failed to allocate " ++ toString size ++ " bytes for parameter `" ++ name ++ "`"))
    if m.ownership.byCaller then Call.scratch (·.track buf) else Call.scratch (·.transfer buf)
    match inner.encode? m.underlying with
    | some bytes => Call.world (host.store buf bytes); pure (.pointer buf)
    | none =>
      throw (.marshalling member ("parameter `" ++ name ++ "` expects " ++ m.underlying.name ++ ", got "
        ++ inner.kind))
  | other =>
    throw (.marshalling member ("parameter `" ++ name ++ "` expects an optional " ++ m.underlying.name
      ++ ", got " ++ other.kind))

def marshalOut (host : Host σ ε) (member : String) (v : Value) (m : NullableMarshal) : Call σ ε Value := do
  match v.asPointer? with
  | none => throw (.marshalling member ("expected a pointer result, got " ++ v.kind))
  | some p =>
    if p == 0 then pure (.optional none)
    else
      let inner := Value.decode m.underlying (← Call.look (host.load p m.underlying.size))
      if m.ownership.byCaller then Call.world (host.release p)
      pure (.optional (some inner))

def convertArguments (f : Nat → Value → α → Call σ ε Value) :
    Nat → List Value → List (Option α) → Call σ ε (List Value)
  | i, v :: vs, c :: cs => do
    let w ← match c with
      | some a => f i v a
      | none => pure v
    pure (w :: (← convertArguments f (i + 1) vs cs))
  | _, _, _ => pure []

def lowerThrough (host : Host σ ε) (reg : Registry σ ε) (member : String) (decl : MemberDecl)
    (params : List (Option String)) (ret : Option String) (inner : List Value → Call σ ε Value)
    (args : List Value) : Call σ ε Value := Call.activation host do
  let transformer (key : String) : Call σ ε (Transformer σ ε) :=
    match reg.get? key with
    | some tr => pure tr
    | none => throw (.marshalling member ("no transformer registered for `" ++ key ++ "`"))
  let lowered ← convertArguments (fun i v key => do
      let p := decl.params[i]?
      let ctx : MarshalContext :=
        ⟨member, .param i ((p.map (·.name)).getD ""), (p.map (·.ownership)).getD .nativeFrees⟩
      (← transformer key).lower host ctx v) 0 args params
  let result ← inner lowered
  Call.scratch Scratch.commit
  match ret with
  | some key => (← transformer key).raise host ⟨member, .ret, decl.ret.ownership⟩ result
  | none => pure result

def marshalThrough (host : Host σ ε) (member : String) (decl : MemberDecl)
    (params : List (Option NullableMarshal)) (ret : Option NullableMarshal)
    (inner : List Value → Call σ ε Value) (args : List Value) : Call σ ε Value :=
  Call.activation host do
    let marshalled ← convertArguments (fun i v mar =>
        marshalIn host member ((decl.params[i]?.map (·.name)).getD "") v mar) 0 args params
    let result ← inner marshalled
    Call.scratch Scratch.commit
    match ret with
    | some mar => marshalOut host member result mar
    | none => pure result

def callSlot (host : Host σ ε) (t : BindingType) (member : String) (slot : Nat) (sig : NativeSignature)
    (args : List Value) : Call σ ε Value := do
  let e ← slotEntry host t slot
  callEntry host member e sig args

def execute (host : Host σ ε) (reg : Registry σ ε) (b : Binding ε) (id : Nat) (args : List Value) :
    Call σ ε Value :=
  if hid : id < b.type.methods.length then
    let m := b.type.methods[id]
    let member := (b.type.interface.members[m.member]?.map (·.name)).getD ""
    let forward (target : Nat) (args : List Value) : Call σ ε Value :=
      if id < target then execute host reg b target args
      else throw (.generic ("method " ++ m.name ++ " forwards to an earlier method"))
    match m.body with
    | .guard inner => do
      if b.disposed then throw (.disposedAccess b.type.interface.name member)
      forward inner args
    | .lowered target params ret => lowerThrough host reg member m.decl params ret (forward target) args
    | .nullable target params ret => marshalThrough host member m.decl params ret (forward target) args
    | .native slot sig => callSlot host b.type member slot sig args
  else throw (.generic ("method " ++ toString id ++ " does not exist"))
termination_by b.type.methods.length - id

namespace Binding

def invokeIndex (host : Host σ ε) (reg : Registry σ ε) (b : Binding ε) (index : Nat) (args : List Value) :
    Call σ ε Value := do
  let t := b.type
  let some decl := t.interface.members[index]?
    | throw (.unknownMember t.interface.name ("#" ++ toString index))
  let entry := t.entries[index]?.getD 0
  match t.methods[entry]?.map MethodDef.body with
  | some (AdapterBody.guard inner) =>
    if b.disposed then throw (.disposedAccess t.interface.name decl.name)
    decl.checked args (execute host reg b inner args)
  | _ => decl.checked args (execute host reg b entry args)

/-- Call the member with this name. -/
def invoke (host : Host σ ε) (reg : Registry σ ε) (b : Binding ε) (member : String) (args : List Value) :
    Call σ ε Value :=
  match b.type.interface.find? member with
  | some (index, _) => invokeIndex host reg b index args
  | none => throw (.unknownMember b.type.interface.name member)

end Binding

end NativeBridge
