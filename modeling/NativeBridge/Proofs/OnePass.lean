import NativeBridge.Factory
import NativeBridge.Native.Host
import NativeBridge.Proofs.Execution

/-!
A member called in one pass from its declaration.

`MemberDecl.callOnePass` computes a call from the member's declaration and the registry
alone: check the arguments; lower each complex argument with its transformer; pass each
optional argument of the lowered shape through a scratch buffer; call the native entry of
the member's slot with the signature of the shape that crosses; read an optional result
back; raise a complex one. The lowering and the marshalling each run as an activation of
their own, and only when the shape has such types.

A generated type runs the same call as a chain of up to four methods, each with its own
per-parameter vectors. `invoke_eq_callOnePass` says the two are the same computation, effects
on the process and the instance included, for every member of a type the standard stages
generate, on an instance that is live or not guarded. Its proof goes down the chain one
stage at a time (`execute_lowering`, `execute_marshalling`, `execute_directCall`).
-/

namespace NativeBridge

variable {σ ε : Type}

def Registry.lowerRef (reg : Registry σ ε) : TypeRef → TypeRef
  | .named k => ((reg.get? k).map (·.lowered)).getD (.named k)
  | t => t

@[simp]
theorem Factory.input_lowerRef (f : Factory σ ε) (config : BindingConfig) :
    (f.input config).lowerRef = f.registry.lowerRef := by
  funext t
  cases t <;> rfl

theorem Registry.lowerRef_of_not_named {reg : Registry σ ε} {t : TypeRef} (h : t.isNamed = false) :
    reg.lowerRef t = t := by
  cases t <;> simp_all [TypeRef.isNamed, Registry.lowerRef]

namespace MemberDecl

def loweredBy (m : MemberDecl) (reg : Registry σ ε) : MemberDecl := m.mapTypes reg.lowerRef

/-- The shape the native call sees: complex types lowered, then optional values as pointers. -/
def crossing (m : MemberDecl) (reg : Registry σ ε) : MemberDecl := (m.loweredBy reg).mapTypes TypeRef.asPointer

theorem loweredBy_of_not_named {d : MemberDecl} {reg : Registry σ ε} (hn : d.types.any TypeRef.isNamed = false) :
    d.loweredBy reg = d :=
  mapTypes_eq_self_of_any hn fun _ => Registry.lowerRef_of_not_named

end MemberDecl

namespace OnePass

def eachArg (step : Nat → ParamDecl → Value → Call σ ε Value) :
    Nat → List ParamDecl → List Value → Call σ ε (List Value)
  | i, p :: ps, v :: vs => do
    let w ← step i p v
    pure (w :: (← eachArg step (i + 1) ps vs))
  | _, _, _ => pure []

def lowerArg (host : Host σ ε) (reg : Registry σ ε) (member : String) (i : Nat) (p : ParamDecl) (v : Value) :
    Call σ ε Value :=
  match p.ty with
  | .named k => match reg.get? k with
    | some tr => tr.lower host ⟨member, .param i p.name, p.ownership⟩ v
    | none => throw (.marshalling member ("no transformer registered for `" ++ k ++ "`"))
  | _ => pure v

def marshalArg (host : Host σ ε) (member : String) (p : ParamDecl) (v : Value) : Call σ ε Value :=
  match p.ty with
  | .nullable t => marshalIn host member p.name v ⟨t, p.ownership⟩
  | _ => pure v

def raiseResult (host : Host σ ε) (reg : Registry σ ε) (member : String) (ret : ReturnDecl) (v : Value) :
    Call σ ε Value :=
  match ret.ty with
  | .named k => match reg.get? k with
    | some tr => tr.raise host ⟨member, .ret, ret.ownership⟩ v
    | none => throw (.marshalling member ("no transformer registered for `" ++ k ++ "`"))
  | _ => pure v

def unmarshalResult (host : Host σ ε) (member : String) (ret : ReturnDecl) (v : Value) : Call σ ε Value :=
  match ret.ty with
  | .nullable t => marshalOut host member v ⟨t, ret.ownership⟩
  | _ => pure v

def lowering (host : Host σ ε) (reg : Registry σ ε) (d : MemberDecl) (member : String)
    (inner : List Value → Call σ ε Value) (args : List Value) : Call σ ε Value :=
  if d.types.any TypeRef.isNamed then
    Call.activation host do
      let lowered ← eachArg (lowerArg host reg member) 0 d.params args
      let result ← inner lowered
      Call.scratch Scratch.commit
      raiseResult host reg member d.ret result
  else inner args

def marshalling (host : Host σ ε) (d : MemberDecl) (member : String)
    (inner : List Value → Call σ ε Value) (args : List Value) : Call σ ε Value :=
  if d.types.any TypeRef.isNullable then
    Call.activation host do
      let marshalled ← eachArg (fun _ => marshalArg host member) 0 d.params args
      let result ← inner marshalled
      Call.scratch Scratch.commit
      unmarshalResult host member d.ret result
  else inner args

def callNative (host : Host σ ε) (member : String) (i : Nat) (s : SlotDef) (args : List Value) :
    Call σ ε Value := do
  let e ← s.entry host i
  callEntry host member e s.signature args

end OnePass

open OnePass in
/-- Member `m`, whose native call is slot `i`, called in one pass from its declaration: the
arguments are checked; the complex values are lowered; the optional values of the lowered
shape are passed through scratch buffers; the native entry is called with the signature of
the crossing shape; and the result is read back and raised. -/
def MemberDecl.callOnePass (host : Host σ ε) (reg : Registry σ ε) (config : BindingConfig) (i : Nat)
    (m : MemberDecl) (args : List Value) : Call σ ε Value :=
  m.checked args <|
    lowering host reg m m.name (marshalling host (m.loweredBy reg) m.name
      (callNative host m.name i ⟨m.symbolName, m.name, (m.crossing reg).nativeSignature, config.lazyBinding⟩)) args

namespace OnePass

variable {host : Host σ ε} {reg : Registry σ ε} {member : String}

theorem convertArguments_eq_eachArg {α : Type} (step : Nat → ParamDecl → Value → Call σ ε Value)
    {f : Nat → Value → α → Call σ ε Value} {g : ParamDecl → Option α} {ps : List ParamDecl}
    (h : ∀ i p v, ps[i]? = some p → (match g p with | some a => f i v a | none => pure v) = step i p v) :
    ∀ (qs : List ParamDecl) (k : Nat) (args : List Value), ps.drop k = qs →
      convertArguments f k args (qs.map g) = eachArg step k qs args := by
  intro qs
  induction qs with
  | nil => intro k args _; cases args <;> rfl
  | cons q qs ih =>
    intro k args hq
    have hk : ps[k]? = some q := by rw [← List.head?_drop, hq]; rfl
    have hrest : ps.drop (k + 1) = qs := by rw [← List.drop_drop, hq]; rfl
    cases args with
    | nil => rfl
    | cons v vs =>
      simp only [List.map_cons, convertArguments, eachArg, ih (k + 1) vs hrest, ← h k q v hk]
      cases g q <;> rfl

theorem lowerThrough_eq {d : MemberDecl} (hn : d.types.any TypeRef.isNamed = true)
    (inner : List Value → Call σ ε Value) :
    lowerThrough host reg member d (d.params.map (·.ty.key?)) d.ret.ty.key? inner = lowering host reg d member inner := by
  funext args
  unfold lowerThrough lowering
  dsimp only
  rw [if_pos hn, convertArguments_eq_eachArg (lowerArg host reg member) ?_ d.params 0 args rfl]
  · cases hret : d.ret.ty with
    | named k => cases hk : reg.get? k <;> simp [TypeRef.key?, raiseResult, hret, hk]
    | _ => simp [TypeRef.key?, raiseResult, hret]
  · intro i p v hp
    cases hty : p.ty with
    | named k =>
      cases hk : reg.get? k <;> simp [TypeRef.key?, hty, hp, hk, lowerArg]
    | _ => simp [TypeRef.key?, hty, lowerArg]

theorem marshalThrough_eq {d : MemberDecl} (hn : d.types.any TypeRef.isNullable = true)
    (inner : List Value → Call σ ε Value) :
    marshalThrough host member d (d.params.map fun p => p.ty.marshal? p.ownership)
      (d.ret.ty.marshal? d.ret.ownership) inner = marshalling host d member inner := by
  funext args
  unfold marshalThrough marshalling
  rw [if_pos hn, convertArguments_eq_eachArg (fun _ => marshalArg host member) ?_ d.params 0 args rfl]
  · cases hret : d.ret.ty <;> simp [TypeRef.marshal?, unmarshalResult, hret]
  · intro i p v hp
    cases hty : p.ty <;> simp [TypeRef.marshal?, hty, hp, marshalArg]

theorem lowering_of_not_named {d : MemberDecl} (hn : d.types.any TypeRef.isNamed = false)
    (inner : List Value → Call σ ε Value) : lowering host reg d member inner = inner := by
  funext args
  simp [lowering, hn]

theorem marshalling_of_not_nullable {d : MemberDecl} (hn : d.types.any TypeRef.isNullable = false)
    (inner : List Value → Call σ ε Value) : marshalling host d member inner = inner := by
  funext args
  simp [marshalling, hn]

theorem callSlot_eq {t : BindingType} {i : Nat} {s : SlotDef} (h : t.slots[i]? = some s) :
    callSlot host t member i s.signature = callNative host member i s := by
  funext args
  simp only [callSlot, callNative, slotEntry, h]

@[simp]
theorem lowering_rename (d : MemberDecl) (n : String) :
    lowering host reg { d with name := n } member = lowering host reg d member := rfl

@[simp]
theorem marshalling_rename (d : MemberDecl) (n : String) :
    marshalling host { d with name := n } member = marshalling host d member := rfl

end OnePass

namespace Placed

open Stage

variable {t : BindingType} {input : GenerationInput} {w : WorkUnit}

theorem not_named (hp : Placed t input [nullable, directCall] w) : w.decl.types.any TypeRef.isNamed = false := by
  cases happ : nullable.applies input w
  · exact (MemberDecl.directlyPassable_types (hp.skip happ).applies_directCall).1
  · simp only [applies, Bool.and_eq_true, Bool.not_eq_true'] at happ
    exact happ.2

end Placed

open Stage OnePass

variable {host : Host σ ε} {reg : Registry σ ε} {b : Binding ε} {m : MemberDecl} {input : GenerationInput}
  {w : WorkUnit}

theorem execute_directCall (hp : Placed b.type input [directCall] w)
    (hm : b.type.interface.members[w.memberIndex]? = some m) :
    execute host reg b w.method = callNative host m.name w.memberIndex
      ⟨w.symbolName, w.baseName, w.decl.nativeSignature, input.config.lazyBinding⟩ := by
  have happ := hp.applies_directCall
  rw [execute_native (hp.getElem?_method happ) hm rfl]
  exact callSlot_eq (by rw [hp.slot, slotOf_directCall happ])

theorem execute_marshalling (hp : Placed b.type input [nullable, directCall] w)
    (hm : b.type.interface.members[w.memberIndex]? = some m) :
    execute host reg b w.method = marshalling host w.decl m.name (callNative host m.name w.memberIndex
      ⟨w.symbolName, w.baseName, (w.decl.mapTypes TypeRef.asPointer).nativeSignature, input.config.lazyBinding⟩) := by
  cases happ : nullable.applies input w
  · have hd := hp.skip happ
    have hdirect := MemberDecl.directlyPassable_types hd.applies_directCall
    have hsame : w.decl.mapTypes TypeRef.asPointer = w.decl :=
      MemberDecl.mapTypes_eq_self_of_any hdirect.2 fun _ => TypeRef.asPointer_of_not_nullable
    rw [execute_directCall hd hm, marshalling_of_not_nullable hdirect.2, hsame]
  · have hv := hp.helper happ rfl
    obtain ⟨hidx, hsym, hbase, -, hvm, -⟩ := helper_fields (rfl : nullable.helper input w = _)
    have hn : w.decl.types.any TypeRef.isNullable = true := by
      simp only [applies, Bool.and_eq_true] at happ
      exact happ.1.2
    rw [execute_nullable (hp.getElem?_method happ) hm rfl, ← hvm, execute_directCall hv (hidx ▸ hm),
      WorkUnit.finished_decl, marshalThrough_eq hn, hidx, hsym, hbase]
    simp [WorkUnit.helper]

theorem execute_lowering (hp : Placed b.type input [lowered, nullable, directCall] w)
    (hm : b.type.interface.members[w.memberIndex]? = some m) (hlow : input.lowerRef = reg.lowerRef) :
    execute host reg b w.method = lowering host reg w.decl m.name (marshalling host (w.decl.mapTypes reg.lowerRef) m.name
      (callNative host m.name w.memberIndex ⟨w.symbolName, w.baseName,
        ((w.decl.mapTypes reg.lowerRef).mapTypes TypeRef.asPointer).nativeSignature, input.config.lazyBinding⟩)) := by
  cases happ : lowered.applies input w
  · have hd := hp.skip happ
    have hnn := hd.not_named
    have hsame : w.decl.mapTypes reg.lowerRef = w.decl := MemberDecl.loweredBy_of_not_named hnn
    rw [execute_marshalling hd hm, lowering_of_not_named hnn, hsame]
  · have hv := hp.helper happ rfl
    obtain ⟨hidx, hsym, hbase, -, hvm, -⟩ := helper_fields (rfl : lowered.helper input w = _)
    have hn : w.decl.types.any TypeRef.isNamed = true := by
      simp only [applies, Bool.and_eq_true] at happ
      exact happ.1.2
    rw [execute_lowered (hp.getElem?_method happ) hm rfl, ← hvm, execute_marshalling hv (hidx ▸ hm),
      WorkUnit.finished_decl, lowerThrough_eq hn, hidx, hsym, hbase]
    simp [WorkUnit.helper, hlow]

theorem Binding.invoke_standard (hlow : input.lowerRef = reg.lowerRef) {I : InterfaceDecl} {t : BindingType}
    (hgen : BindingType.generate Stage.standard input I = .ok t) (hb : b.type = t)
    (hlive : b.disposed = false ∨ input.config.disposalChecks = false) {i : Nat}
    (hm : I.members[i]? = some m) (args : List Value) :
    b.invoke host reg m.name args = m.callOnePass host reg input.config i args := by
  subst hb
  obtain ⟨-, -, e, he, hp⟩ := BindingType.generate_layout hgen hm
  obtain ⟨hmi, hfind⟩ := BindingType.find?_of_generate hgen hm
  simp only [Binding.invoke, hfind, MemberDecl.callOnePass]
  cases hchecks : input.config.disposalChecks
  · -- no guard: the entry method starts the lowering
    have happ : disposalGuard.applies input (WorkUnit.entry m i i e) = false := by
      simp [Stage.applies, hchecks]
    have hp' := hp.skip happ
    obtain ⟨s, hs, -, hhead⟩ := hp'.exists_head
    have hg : ∀ k, b.type.methods[e]?.map MethodDef.body ≠ some (.guard k) := by
      intro k
      rw [show e = (WorkUnit.entry m i i e).method from rfl, hhead]
      simp only [List.mem_cons, List.not_mem_nil, or_false] at hs
      rcases hs with rfl | rfl | rfl <;> simp [WorkUnit.finished, Stage.body]
    have h : execute host reg b e = _ := execute_lowering hp' hmi hlow
    dsimp only [WorkUnit.entry] at h
    rw [Binding.invokeIndex_of_not_guard hmi he hg, h]
    rfl
  · -- the guard passes: the guarded method starts the lowering
    have hd : b.disposed = false := hlive.resolve_right (by simp [hchecks])
    have happ : disposalGuard.applies input (WorkUnit.entry m i i e) = true := by
      simp [Stage.applies, hchecks, WorkUnit.isEntry, WorkUnit.entry]
    have hg : b.type.methods[e]?.map MethodDef.body = some (.guard (e + 1)) := by
      rw [show e = (WorkUnit.entry m i i e).method from rfl, hp.getElem?_method happ]
      rfl
    have h : execute host reg b (e + 1) = _ := execute_lowering (hp.helper happ rfl) hmi hlow
    dsimp only [WorkUnit.helper, WorkUnit.entry] at h
    rw [Binding.invokeIndex_of_guard hmi he hg, hd, if_neg Bool.false_ne_true, h]
    simp [MemberDecl.loweredBy, MemberDecl.crossing]

/-- Calling a member of a generated type is calling it in one pass from its declaration, on an
instance that is not disposed or when disposal is not checked. -/
theorem invoke_eq_callOnePass {f : Factory σ ε} {C : BindingConfig} {I : InterfaceDecl} {t : BindingType}
    (hgen : BindingType.generate Stage.standard (f.input C) I = .ok t) {b : Binding ε} (hb : b.type = t)
    (hlive : b.disposed = false ∨ C.disposalChecks = false) {i : Nat} {m : MemberDecl}
    (hm : I.members[i]? = some m) (host : Host σ ε) (args : List Value) :
    b.invoke host f.registry m.name args = m.callOnePass host f.registry C i args :=
  Binding.invoke_standard (Factory.input_lowerRef f C) hgen hb hlive hm args

theorem greet_invoke_eq_callOnePass :
    ∃ t, BindingType.generate Stage.standard (({} : Factory Native.State Native.NativeFunction).input {})
        ⟨"Greeter", [{ name := "greet", params := [⟨"who", .named "string", .nativeFrees⟩] }]⟩ = .ok t ∧
      (⟨t, [none], false⟩ : Binding Native.NativeFunction).invoke Native.host Registry.withDefaults "greet"
          [.str "Ada"] =
        ({ name := "greet", params := [⟨"who", .named "string", .nativeFrees⟩] } : MemberDecl).callOnePass
          Native.host Registry.withDefaults {} 0 [.str "Ada"] := by
  obtain ⟨t, ht⟩ : ∃ t, BindingType.generate Stage.standard
      (({} : Factory Native.State Native.NativeFunction).input {})
      ⟨"Greeter", [{ name := "greet", params := [⟨"who", .named "string", .nativeFrees⟩] }]⟩ = .ok t :=
    ⟨_, rfl⟩
  refine ⟨t, ht, ?_⟩
  exact invoke_eq_callOnePass ht (rfl : (⟨t, [none], false⟩ : Binding Native.NativeFunction).type = t)
    (Or.inl rfl) (rfl : [({ name := "greet", params := [⟨"who", .named "string", .nativeFrees⟩] } : MemberDecl)][0]? = _)
    Native.host [.str "Ada"]

end NativeBridge