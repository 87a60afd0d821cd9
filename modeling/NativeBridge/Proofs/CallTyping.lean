import NativeBridge.Proofs.Buffers
import NativeBridge.Proofs.Bindable

/-!
The declaration check is enough for the native call.

A call of a member checks its arguments against the declaration, and from then on values are
only converted: lowered by transformers, passed through scratch buffers when optional, handed
to native code, and read back. Each later step checks the values again (a marshalled optional
must encode as its type, and the native step checks every argument against its signature), but
on a type the standard stages generate, with transformers that lower to their lowered type,
those checks cannot fail: values that pass the declaration check are lowered into values of the
lowered shape, marshalled into values of the native signature, failing only when a buffer cannot
be allocated, and a value that comes back has the declared type.
-/

namespace NativeBridge

variable {σ ε α β : Type}

def ParamDecl.accepts : List ParamDecl → List Value → Bool
  | [], [] => true
  | p :: ps, v :: vs => v.conformsTo p.ty && accepts ps vs
  | _, _ => false

def NativeSignature.Fits (s : NativeSignature) (xs : List Value) : Prop :=
  xs.map Value.nativeType? = s.params.map some

@[simp]
theorem ParamDecl.accepts_cons (p : ParamDecl) (ps : List ParamDecl) (v : Value) (vs : List Value) :
    accepts (p :: ps) (v :: vs) = (v.conformsTo p.ty && accepts ps vs) := rfl

theorem ParamDecl.accepts_of_zip {ps : List ParamDecl} {vs : List Value} (hlen : vs.length = ps.length)
    (h : ∀ pv ∈ ps.zip vs, pv.2.conformsTo pv.1.ty = true) : accepts ps vs = true := by
  induction ps generalizing vs with
  | nil => cases vs <;> simp_all [accepts]
  | cons p ps ih =>
    cases vs with
    | nil => simp at hlen
    | cons v vs =>
      simp only [List.zip_cons_cons, List.mem_cons, forall_eq_or_imp] at h
      simp [h.1, ih (by simpa using hlen) h.2]

theorem MemberDecl.accepts_of_checkArguments {d : MemberDecl} {args : List Value}
    (h : d.checkArguments args = .ok ()) : ParamDecl.accepts d.params args = true := by
  unfold MemberDecl.checkArguments at h
  split at h
  · cases h
  · rename_i hlen
    refine ParamDecl.accepts_of_zip (by simpa using hlen) ?_
    -- the loop over the pairs passes only if every pair conforms
    generalize d.params.zip args = qs at h
    induction qs with
    | nil => simp
    | cons q qs ih =>
      obtain ⟨p, v⟩ := q
      dsimp only at h ih
      rw [List.forIn_cons] at h
      cases hc : v.conformsTo p.ty
      · simp only [hc, Bool.not_false, ↓reduceIte] at h
        cases h
      · simp only [hc, Bool.not_true, Bool.false_eq_true, ↓reduceIte] at h
        simpa [hc] using ih h

theorem NativeSignature.firstMismatch_of_fits {ts : List NativeType} {xs : List Value}
    (h : xs.map Value.nativeType? = ts.map some) (hv : .void ∉ ts) (i : Nat) :
    firstMismatch i ts xs = none := by
  induction ts generalizing i xs with
  | nil => cases xs <;> rfl
  | cons t ts ih =>
    cases xs with
    | nil => simp at h
    | cons x xs =>
      simp only [List.map_cons, List.cons.injEq] at h
      simp only [List.mem_cons, not_or] at hv
      simp [firstMismatch, h.1, Ne.symm hv.1, ih h.2 hv.2]

theorem NativeSignature.check_of_fits {s : NativeSignature} {xs : List Value} (h : s.Fits xs)
    (hv : .void ∉ s.params) (member : String) : s.check member xs = .ok () := by
  have hlen : s.params.length = xs.length := by
    simpa using congrArg List.length h.symm
  simp [check, hlen, firstMismatch_of_fits h hv]

def Transformer.Typed (tr : Transformer σ ε) : Prop :=
  tr.lowered ≠ .native .void ∧ tr.lowered ≠ .nullable .void ∧
    ∀ host ctx v, Call.Spec (fun w => w.conformsTo tr.lowered = true) (fun _ => True) (tr.lower host ctx v)

def Registry.Typed (reg : Registry σ ε) : Prop := ∀ key tr, reg.get? key = some tr → tr.Typed

def ParamDecl.allocationFailure (member : String) (p : ParamDecl) (e : Error) : Prop :=
  ∃ t, p.ty = .nullable t ∧
    e = .marshalling member ("failed to allocate " ++ toString t.size ++ " bytes for parameter `" ++ p.name ++ "`")

namespace Call

variable {ok ok' : α → Prop} {err err' : Error → Prop}

theorem spec_true (x : Call σ ε α) : Spec (fun _ => True) (fun _ => True) x := fun _ => by
  split <;> trivial

theorem spec_mono {x : Call σ ε α} (h : Spec ok err x) (hok : ∀ a, ok a → ok' a) (herr : ∀ e, err e → err' e) :
    Spec ok' err' x := by
  intro s
  have hs := h s
  cases hr : ((ExceptT.run x).run s).1 with
  | ok a =>
    rw [hr] at hs
    exact hok a hs
  | error e =>
    rw [hr] at hs
    exact herr e hs

theorem spec_bind_congr {P : β → Prop} {x : Call σ ε β} {f g : β → Call σ ε α} (hx : Spec P err x)
    (hfg : ∀ b, P b → f b = g b) : x >>= f = x >>= g := by
  apply ExceptT.ext
  apply StateT.ext
  intro s
  show exec (x >>= f) s = exec (x >>= g) s
  have h := hx s
  cases hr : exec x s with
  | mk r s' =>
    cases r with
    | ok b =>
      have hb : P b := by
        unfold Call.exec at hr
        rw [hr] at h
        exact h
      rw [exec_bind_ok hr, exec_bind_ok hr, hfg b hb]
    | error e => rw [exec_bind_error hr, exec_bind_error hr]

end Call

open Call OnePass

theorem Transformer.string_typed : (Transformer.string : Transformer σ ε).Typed := by
  refine ⟨by simp [Transformer.string], by simp [Transformer.string], fun host ctx v => ?_⟩
  unfold Transformer.string
  dsimp only
  split
  · split
    · exact spec_throw_bind trivial _
    · exact spec_bind (spec_true _) fun _ _ => spec_bind (spec_world _) fun _ _ => spec_pure rfl
  · exact spec_throw trivial

theorem Registry.withDefaults_typed : (Registry.withDefaults : Registry σ ε).Typed := by
  intro key tr h
  unfold Registry.withDefaults Registry.get? at h
  simp only [List.lookup_cons, List.lookup_nil] at h
  split at h
  · cases h
    exact Transformer.string_typed
  · cases h

theorem Value.encode?_isSome {v : Value} {t : NativeType} (h : v.nativeType? = some t) (ht : t ≠ .void) :
    (v.encode? t).isSome = true := by
  cases v <;> simp only [Value.nativeType?, Option.some.injEq, reduceCtorEq] at h <;> subst h <;>
    simp_all [Value.encode?]

section Steps

variable {host : Host σ ε} {reg : Registry σ ε} {member : String}

theorem marshalIn_spec {name : String} {v : Value} {t : NativeType} {o : Ownership}
    (hv : v.conformsTo (.nullable t) = true) (ht : t ≠ .void) :
    Spec (fun w => w.nativeType? = some .pointer)
      (fun e => e = .marshalling member ("failed to allocate " ++ toString t.size ++ " bytes for parameter `" ++ name ++ "`"))
      (marshalIn host member name v ⟨t, o⟩) := by
  unfold marshalIn
  split
  · exact spec_pure rfl
  · rename_i inner
    have hinner : inner.nativeType? = some t := by simpa [Value.conformsTo] using hv
    obtain ⟨bytes, hbytes⟩ := Option.isSome_iff_exists.1 (Value.encode?_isSome hinner ht)
    refine spec_bind (spec_ask _) fun buf _ => ?_
    dsimp only
    split
    · exact spec_throw_bind (by rfl) _
    · -- the buffer is tracked or handed over, then written: the value encodes as its type
      split <;> refine spec_bind (spec_scratch _) fun _ _ => ?_ <;> simp only [hbytes] <;>
        exact spec_bind (spec_world _) fun _ _ => spec_pure rfl
  · rename_i other hnone hsome
    cases other <;> simp_all [Value.conformsTo]

theorem marshalArg_spec {p : ParamDecl} {v : Value} (hn : p.ty.isNamed = false) (hvoid : p.ty ≠ .nullable .void)
    (hv : v.conformsTo p.ty = true) :
    Spec (fun w => w.nativeType? = some (p.ty.asPointer.asNative?.getD .void)) (p.allocationFailure member)
      (marshalArg host member p v) := by
  unfold marshalArg
  cases hty : p.ty with
  | native t =>
    rw [hty] at hv
    exact spec_pure (by simpa [Value.conformsTo, TypeRef.asPointer, TypeRef.asNative?] using hv)
  | nullable t =>
    rw [hty] at hv
    have ht : t ≠ .void := fun h => hvoid (by rw [hty, h])
    exact spec_mono (marshalIn_spec hv ht) (fun w hw => by simpa [TypeRef.asPointer, TypeRef.asNative?] using hw)
      fun e he => ⟨t, hty, he⟩
  | named k => simp [hty, TypeRef.isNamed] at hn

theorem eachArg_marshalArg_spec {ps : List ParamDecl}
    (hps : ∀ p ∈ ps, p.ty.isNamed = false ∧ p.ty ≠ .nullable .void) :
    ∀ (k : Nat) (vs : List Value), ParamDecl.accepts ps vs = true →
      Spec (fun ws => ws.map Value.nativeType? = ps.map fun p => some (p.ty.asPointer.asNative?.getD .void))
        (fun e => ∃ p ∈ ps, p.allocationFailure member e) (eachArg (fun _ => marshalArg host member) k ps vs) := by
  induction ps with
  | nil => intro k vs _; exact spec_pure rfl
  | cons p ps ih =>
    intro k vs hadm
    cases vs with
    | nil => simp [ParamDecl.accepts] at hadm
    | cons v vs =>
      simp only [ParamDecl.accepts_cons, Bool.and_eq_true] at hadm
      have hp := hps p List.mem_cons_self
      have hrest := ih (fun q hq => hps q (List.mem_cons_of_mem _ hq)) (k + 1) vs hadm.2
      refine spec_bind (spec_mono (marshalArg_spec hp.1 hp.2 hadm.1) (fun _ h => h)
        fun e he => ⟨p, List.mem_cons_self, he⟩) fun w hw => ?_
      refine spec_bind (spec_mono hrest (fun _ h => h) fun e ⟨q, hq, he⟩ => ⟨q, List.mem_cons_of_mem _ hq, he⟩)
        fun ws hws => spec_pure ?_
      simp [hw, hws]

theorem lowerArg_spec {k : Nat} {p : ParamDecl} {v : Value} (hreg : reg.Typed ∨ p.ty.isNamed = false)
    (hv : v.conformsTo p.ty = true) :
    Spec (fun w => w.conformsTo (reg.lowerRef p.ty) = true) (fun _ => True) (lowerArg host reg member k p v) := by
  unfold lowerArg
  cases hty : p.ty with
  | named key =>
    dsimp only
    cases htr : reg.get? key with
    | none => exact spec_throw (by trivial)
    | some tr =>
      have htyped : tr.Typed := by
        rcases hreg with hreg | hreg
        · exact hreg key tr htr
        · simp [hty, TypeRef.isNamed] at hreg
      exact spec_mono (htyped.2.2 host _ v) (fun w hw => by simpa [Registry.lowerRef, htr] using hw) fun _ _ => trivial
  | native t | nullable t => exact spec_pure (by simpa [hty, Registry.lowerRef] using hv)

theorem eachArg_lowerArg_spec {ps : List ParamDecl} (hreg : reg.Typed ∨ ∀ p ∈ ps, p.ty.isNamed = false) :
    ∀ (k : Nat) (vs : List Value), ParamDecl.accepts ps vs = true →
      Spec (fun ws => ParamDecl.accepts (ps.map fun p => { p with ty := reg.lowerRef p.ty }) ws = true) (fun _ => True)
        (eachArg (lowerArg host reg member) k ps vs) := by
  induction ps with
  | nil => intro k vs _; exact spec_pure rfl
  | cons p ps ih =>
    intro k vs hadm
    cases vs with
    | nil => simp [ParamDecl.accepts] at hadm
    | cons v vs =>
      simp only [ParamDecl.accepts_cons, Bool.and_eq_true] at hadm
      have hp : reg.Typed ∨ p.ty.isNamed = false := hreg.imp_right fun h => h p List.mem_cons_self
      have hrest := ih (hreg.imp_right fun h q hq => h q (List.mem_cons_of_mem _ hq)) (k + 1) vs hadm.2
      refine spec_bind (lowerArg_spec hp hadm.1) fun w hw => spec_bind hrest fun ws hws => spec_pure ?_
      simp [hw, hws]

end Steps

theorem MemberDecl.paramFault?_eq_none {seen : List String} {ps : List ParamDecl} (h : paramFault? seen ps = none) :
    ∀ p ∈ ps, p.ty.isVoid = false := by
  induction ps generalizing seen with
  | nil => simp
  | cons p ps ih =>
    unfold paramFault? at h
    split at h
    · cases h
    · split at h
      · cases h
      · rename_i hvoid
        split at h
        · cases h
        · intro q hq
          rcases List.mem_cons.1 hq with rfl | hq
          · simpa using hvoid
          · exact ih h q hq

theorem MemberDecl.valued_of_validate {m : MemberDecl} (h : m.validate = .ok ()) :
    (∀ p ∈ m.params, p.ty.isVoid = false) ∧ ∀ ty ∈ m.types, ty ≠ .nullable .void := by
  obtain ⟨-, -, -, hparams, -, hnv⟩ := fault?_eq_none_iff.1 (validate_eq_ok_iff.1 h)
  exact ⟨paramFault?_eq_none hparams, fun ty hty heq => hnv (heq ▸ hty)⟩

namespace Placed

open Stage

variable {t : BindingType} {input : GenerationInput} {w : WorkUnit}

theorem crossing_of_nullable (hp : Placed t input [nullable, directCall] w) :
    (w.decl.mapTypes TypeRef.asPointer).isDirectlyPassable = true := by
  cases happ : nullable.applies input w
  · have hd := (hp.skip happ).applies_directCall
    have hsame : w.decl.mapTypes TypeRef.asPointer = w.decl :=
      MemberDecl.mapTypes_eq_self_of_any (MemberDecl.directlyPassable_types hd).2
        fun _ => TypeRef.asPointer_of_not_nullable
    rw [hsame]
    exact hd
  · exact (hp.helper happ rfl).applies_directCall

theorem crossing_of_lowered (hp : Placed t input [lowered, nullable, directCall] w) :
    (w.decl.mapTypes input.lowerRef).types.any TypeRef.isNamed = false ∧
      ((w.decl.mapTypes input.lowerRef).mapTypes TypeRef.asPointer).isDirectlyPassable = true := by
  cases happ : lowered.applies input w
  · have hd := hp.skip happ
    have hsame : w.decl.mapTypes input.lowerRef = w.decl :=
      MemberDecl.mapTypes_eq_self_of_any hd.not_named fun _ => TypeRef.lowerRef_of_not_named
    rw [hsame]
    exact ⟨hd.not_named, hd.crossing_of_nullable⟩
  · have hv := hp.helper happ rfl
    exact ⟨hv.not_named, hv.crossing_of_nullable⟩

end Placed

theorem BindingType.generate_crossing {f : Factory σ ε} {C : BindingConfig} {I : InterfaceDecl} {t : BindingType}
    (hgen : generate Stage.standard (f.input C) I = .ok t) {i : Nat} {m : MemberDecl} (hm : I.members[i]? = some m) :
    (m.loweredBy f.registry).types.any TypeRef.isNamed = false ∧ (m.crossing f.registry).isDirectlyPassable = true := by
  obtain ⟨-, -, e, -, hp⟩ := generate_layout hgen hm
  have hlow : (f.input C).lowerRef = f.registry.lowerRef := Factory.input_lowerRef f C
  -- the guard, if any, passes the member's shape on unchanged
  cases happ : Stage.disposalGuard.applies (f.input C) (WorkUnit.entry m i i e)
  · have h := (hp.skip happ).crossing_of_lowered
    rw [hlow] at h
    exact h
  · have h := (hp.helper happ rfl).crossing_of_lowered
    rw [hlow] at h
    exact h

namespace MemberDecl

theorem fits_iff {d : MemberDecl} {ys : List Value} :
    (d.mapTypes TypeRef.asPointer).nativeSignature.Fits ys ↔
      ys.map Value.nativeType? = d.params.map fun p => some (p.ty.asPointer.asNative?.getD .void) := by
  simp [NativeSignature.Fits, nativeSignature, mapTypes, Function.comp_def]

theorem void_not_mem_crossing {d : MemberDecl} (h : ∀ p ∈ d.params, p.ty.isNamed = false ∧ p.ty ≠ .native .void) :
    .void ∉ (d.mapTypes TypeRef.asPointer).nativeSignature.params := by
  simp only [nativeSignature, mapTypes, List.map_map, List.mem_map, Function.comp_def, not_exists, not_and]
  intro p hp heq
  obtain ⟨hn, hv⟩ := h p hp
  cases hty : p.ty <;> simp_all [TypeRef.asPointer, TypeRef.asNative?, TypeRef.isNamed]

theorem loweredBy_valued {m : MemberDecl} {reg : Registry σ ε} (hval : m.validate = .ok ())
    (hreg : reg.Typed ∨ m.types.any TypeRef.isNamed = false) (hnn : (m.loweredBy reg).types.any TypeRef.isNamed = false) :
    ∀ p ∈ (m.loweredBy reg).params, p.ty.isNamed = false ∧ p.ty ≠ .native .void ∧ p.ty ≠ .nullable .void := by
  obtain ⟨hvoid, hnv⟩ := valued_of_validate hval
  intro p hp
  have hpn := param_of_any_eq_false hnn hp
  refine ⟨hpn, ?_⟩
  simp only [loweredBy, mapTypes, List.mem_map] at hp
  obtain ⟨q, hq, rfl⟩ := hp
  have hqv := hvoid q hq
  have hqn := hnv q.ty (ty_mem_types hq)
  dsimp only at hpn ⊢
  cases hty : q.ty with
  | native t => cases t <;> simp_all [Registry.lowerRef, TypeRef.isVoid]
  | nullable t => simp_all [Registry.lowerRef]
  | named k =>
    cases htr : reg.get? k with
    | none => simp [hty, Registry.lowerRef, htr, TypeRef.isNamed] at hpn
    | some tr =>
      rcases hreg with hreg | hreg
      · have htyped := hreg k tr htr
        simpa [Registry.lowerRef, htr] using ⟨htyped.1, htyped.2.1⟩
      · have := param_of_any_eq_false hreg hq
        simp [hty, TypeRef.isNamed] at this

end MemberDecl

theorem ParamDecl.nativeTypes_of_accepts {ps : List ParamDecl}
    (hps : ∀ p ∈ ps, p.ty.isNamed = false ∧ p.ty.isNullable = false) :
    ∀ vs : List Value, accepts ps vs = true →
      vs.map Value.nativeType? = ps.map fun p => some (p.ty.asPointer.asNative?.getD .void) := by
  induction ps with
  | nil => intro vs h; cases vs <;> simp_all [accepts]
  | cons p ps ih =>
    intro vs h
    cases vs with
    | nil => simp [accepts] at h
    | cons v vs =>
      simp only [accepts_cons, Bool.and_eq_true] at h
      obtain ⟨hn, hnl⟩ := hps p List.mem_cons_self
      have hv : v.nativeType? = some (p.ty.asPointer.asNative?.getD .void) := by
        cases hty : p.ty <;>
          simp_all [TypeRef.isNamed, TypeRef.isNullable, Value.conformsTo, TypeRef.asPointer, TypeRef.asNative?]
      simp [hv, ih (fun q hq => hps q (List.mem_cons_of_mem _ hq)) vs h.2]

/-- Native code that returns values of its signature's return type. -/
def Host.Typed (host : Host σ ε) : Prop :=
  ∀ e sig xs w, (host.invoke e sig xs w).1.nativeType? = some sig.ret

theorem echoHost_typed : echoHost.Typed := fun _ sig xs _ => nativeType_echoResult sig xs

theorem Call.spec_ask_of {γ : Type} {ok : γ → Prop} {err : Error → Prop} {f : σ → γ × σ}
    (h : ∀ w, ok (f w).1) : Spec ok err (Call.ask f : Call σ ε γ) :=
  spec_of_ok fun s => ⟨_, rfl, h s.world⟩

def OnePass.enterNative (host : Host σ ε) (i : Nat) (s : SlotDef) (args : List Value) : Call σ ε Value := do
  let e ← s.entry host i
  Call.ask (host.invoke e s.signature args)

section Layers

variable {host : Host σ ε} {reg : Registry σ ε} {member : String}

theorem callNative_of_check {i : Nat} {s : SlotDef} {args : List Value} (h : s.signature.check member args = .ok ()) :
    callNative host member i s args = enterNative host i s args := by
  unfold callNative enterNative callEntry
  rw [h]

theorem marshalling_congr {d : MemberDecl} (hd : ∀ p ∈ d.params, p.ty.isNamed = false ∧ p.ty ≠ .nullable .void)
    {xs : List Value} (hxs : ParamDecl.accepts d.params xs = true) {k k' : List Value → Call σ ε Value}
    (hk : ∀ ys, (d.mapTypes TypeRef.asPointer).nativeSignature.Fits ys → k ys = k' ys) :
    marshalling host d member k xs = marshalling host d member k' xs := by
  unfold marshalling
  split
  · congr 1
    refine spec_bind_congr (eachArg_marshalArg_spec hd 0 xs hxs) fun ys hys => ?_
    rw [hk ys (MemberDecl.fits_iff.2 hys)]
  · -- with no optional type the values are passed on as they are
    rename_i hnl
    have hnl : d.types.any TypeRef.isNullable = false := by simpa using hnl
    refine hk xs (MemberDecl.fits_iff.2 (ParamDecl.nativeTypes_of_accepts (fun p hp => ?_) xs hxs))
    exact ⟨(hd p hp).1, MemberDecl.param_of_any_eq_false hnl hp⟩

theorem lowering_congr {d : MemberDecl} (hreg : reg.Typed ∨ d.types.any TypeRef.isNamed = false)
    {args : List Value} (hargs : ParamDecl.accepts d.params args = true) {inner inner' : List Value → Call σ ε Value}
    (h : ∀ xs, ParamDecl.accepts (d.loweredBy reg).params xs = true → inner xs = inner' xs) :
    lowering host reg d member inner args = lowering host reg d member inner' args := by
  unfold lowering
  split
  · congr 1
    have hps : reg.Typed ∨ ∀ p ∈ d.params, p.ty.isNamed = false :=
      hreg.imp_right fun hn _ hp => MemberDecl.param_of_any_eq_false hn hp
    refine spec_bind_congr (eachArg_lowerArg_spec hps 0 args hargs) fun xs hxs => ?_
    rw [h xs hxs]
  · rename_i hn
    have hsame : d.loweredBy reg = d := MemberDecl.loweredBy_of_not_named (by simpa using hn)
    exact h args (by rw [hsame]; exact hargs)

theorem callNative_typed (hhost : host.Typed) (i : Nat) (s : SlotDef) (xs : List Value) :
    Spec (fun v => v.nativeType? = some s.signature.ret) (fun _ => True) (callNative host member i s xs) := by
  unfold callNative callEntry
  refine spec_bind (spec_true _) fun e _ => ?_
  split
  · exact spec_throw trivial
  · exact spec_ask_of fun w => hhost e s.signature xs w

theorem marshalOut_conforms {v : Value} {t : NativeType} {o : Ownership} :
    Spec (fun w => w.conformsTo (.nullable t) = true) (fun _ => True) (marshalOut host member v ⟨t, o⟩) := by
  unfold marshalOut
  split
  · exact spec_throw trivial
  · split
    · exact spec_pure rfl
    · refine spec_bind (spec_look _) fun bytes _ => ?_
      have hc : (Value.optional (some (Value.decode t bytes))).conformsTo (.nullable t) = true := by
        simp [Value.conformsTo, Value.nativeType?_decode]
      dsimp only
      split
      · exact spec_bind (spec_world _) fun _ _ => spec_pure hc
      · exact spec_pure hc

theorem unmarshalResult_conforms {ret : ReturnDecl} {v : Value} (hn : ret.ty.isNamed = false)
    (hv : v.nativeType? = some (ret.ty.asPointer.asNative?.getD .void)) :
    Spec (fun w => w.conformsTo ret.ty = true) (fun _ => True) (unmarshalResult host member ret v) := by
  unfold unmarshalResult
  cases hty : ret.ty with
  | nullable t => exact marshalOut_conforms
  | native t => exact spec_pure (by simp_all [Value.conformsTo, TypeRef.asPointer, TypeRef.asNative?])
  | named k => simp [hty, TypeRef.isNamed] at hn

theorem marshalling_conforms {d : MemberDecl} (hn : d.ret.ty.isNamed = false) {k : List Value → Call σ ε Value}
    (hk : ∀ ys, Spec (fun v => v.nativeType? = some (d.ret.ty.asPointer.asNative?.getD .void)) (fun _ => True) (k ys))
    (xs : List Value) :
    Spec (fun v => v.conformsTo d.ret.ty = true) (fun _ => True) (marshalling host d member k xs) := by
  unfold marshalling
  split
  · refine spec_activation ?_ host
    exact spec_bind (spec_true _) fun ys _ => spec_bind (hk ys) fun r hr =>
      spec_bind (spec_scratch _) fun _ _ => unmarshalResult_conforms hn hr
  · rename_i hnl
    have hret : d.ret.ty.isNullable = false := MemberDecl.ret_of_any_eq_false (by simpa using hnl)
    refine spec_mono (hk xs) (fun v hv => ?_) fun _ h => h
    cases hty : d.ret.ty <;> simp_all [TypeRef.isNamed, TypeRef.isNullable, Value.conformsTo, TypeRef.asPointer,
      TypeRef.asNative?]

theorem lowering_of_inner {d : MemberDecl} (hn : d.ret.ty.isNamed = false) {Q : Value → Prop}
    {inner : List Value → Call σ ε Value} (hinner : ∀ xs, Spec Q (fun _ => True) (inner xs)) (args : List Value) :
    Spec Q (fun _ => True) (lowering host reg d member inner args) := by
  unfold lowering
  split
  · refine spec_activation ?_ host
    refine spec_bind (spec_true _) fun xs _ => spec_bind (hinner xs) fun r hr =>
      spec_bind (spec_scratch _) fun _ _ => ?_
    unfold raiseResult
    split
    · rename_i k hk
      simp [hk, TypeRef.isNamed] at hn
    · exact spec_pure hr
  · exact hinner args

end Layers

theorem Binding.invoke_conforms {f : Factory σ ε} {C : BindingConfig} {I : InterfaceDecl} {t : BindingType}
    (hgen : BindingType.generate Stage.standard (f.input C) I = .ok t) {host : Host σ ε} (hhost : host.Typed)
    {b : Binding ε} (hb : b.type = t) (hlive : b.disposed = false ∨ C.disposalChecks = false) {i : Nat}
    {m : MemberDecl} (hm : I.members[i]? = some m) (args : List Value) :
    Spec (fun v => m.ret.ty.isNamed = false → v.conformsTo m.ret.ty = true) (fun _ => True)
      (b.invoke host f.registry m.name args) := by
  rw [Binding.invoke_standard (Factory.input_lowerRef f C) hgen hb hlive hm]
  unfold MemberDecl.callOnePass MemberDecl.checked
  split
  · exact spec_throw trivial
  · cases hn : m.ret.ty.isNamed
    · -- a return type that is not complex is not lowered
      have hlow : (m.loweredBy f.registry).ret.ty = m.ret.ty := Registry.lowerRef_of_not_named hn
      refine lowering_of_inner hn (fun xs => ?_) args
      refine spec_mono (marshalling_conforms (hlow ▸ hn) (fun ys => callNative_typed hhost i _ ys) xs)
        (fun v hv _ => ?_) fun _ h => h
      rwa [hlow] at hv
    · exact spec_mono (spec_true _) (fun _ _ h => absurd h (by simp)) fun _ h => h

/-- What the declaration check gives a call of member \x60m\x60, whose native call is slot \x60i\x60 of type
\x60t\x60, generated under configuration \x60C\x60, with arguments \x60args\x60 and transformers \x60reg\x60.

With typed transformers, or none needed: the arguments are lowered into values whose marshalling
fails only when a buffer cannot be allocated, and otherwise gives values that fit the native
signature and pass its check; and on a live instance the call runs the same with that check left
out. With native code that returns values of its return type, a call on a live instance returns
values of the declared type when that type is native or optional. -/
structure MemberDecl.CheckSuffices (host : Host σ ε) (reg : Registry σ ε) (C : BindingConfig) (t : BindingType)
    (i : Nat) (m : MemberDecl) (args : List Value) : Prop where
  marshalled : reg.Typed ∨ m.types.any TypeRef.isNamed = false →
    Spec (fun xs => Spec (fun ys => (m.crossing reg).nativeSignature.Fits ys ∧
          (m.crossing reg).nativeSignature.check m.name ys = .ok ())
        (fun e => ∃ p ∈ (m.loweredBy reg).params, p.allocationFailure m.name e)
        (eachArg (fun _ => marshalArg host m.name) 0 (m.loweredBy reg).params xs))
      (fun _ => True) (eachArg (lowerArg host reg m.name) 0 m.params args)
  unchecked : reg.Typed ∨ m.types.any TypeRef.isNamed = false → ∀ b : Binding ε, b.type = t →
    (b.disposed = false ∨ C.disposalChecks = false) →
    b.invoke host reg m.name args = lowering host reg m m.name (marshalling host (m.loweredBy reg) m.name
      (enterNative host i ⟨m.symbolName, m.name, (m.crossing reg).nativeSignature, C.lazyBinding⟩)) args
  conforms : host.Typed → ∀ b : Binding ε, b.type = t → (b.disposed = false ∨ C.disposalChecks = false) →
    Spec (fun v => m.ret.ty.isNamed = false → v.conformsTo m.ret.ty = true) (fun _ => True)
      (b.invoke host reg m.name args)

theorem BindingType.generate_valued {f : Factory σ ε} {C : BindingConfig} {I : InterfaceDecl} {t : BindingType}
    (hgen : generate Stage.standard (f.input C) I = .ok t) {i : Nat} {m : MemberDecl} (hm : I.members[i]? = some m)
    (hreg : f.registry.Typed ∨ m.types.any TypeRef.isNamed = false) :
    (∀ p ∈ (m.loweredBy f.registry).params, p.ty.isNamed = false ∧ p.ty ≠ .nullable .void) ∧
      .void ∉ (m.crossing f.registry).nativeSignature.params := by
  have hval : m.validate = .ok () :=
    InterfaceDecl.validateFrom_member (validate_of_generate hgen) (List.mem_of_getElem? hm)
  have hvalued := MemberDecl.loweredBy_valued hval hreg (generate_crossing hgen hm).1
  exact ⟨fun p hp => ⟨(hvalued p hp).1, (hvalued p hp).2.2⟩,
    MemberDecl.void_not_mem_crossing fun p hp => ⟨(hvalued p hp).1, (hvalued p hp).2.1⟩⟩

/-- The declaration check is enough for the native call: every argument vector that passes it,
for every member of a type the standard stages generate, gets what \x60MemberDecl.CheckSuffices\x60
says. -/
theorem BindingType.declaration_check_suffices {f : Factory σ ε} {C : BindingConfig} {I : InterfaceDecl}
    {t : BindingType} (hgen : generate Stage.standard (f.input C) I = .ok t) {i : Nat} {m : MemberDecl}
    (hm : I.members[i]? = some m) {args : List Value} (hargs : m.checkArguments args = .ok ()) (host : Host σ ε) :
    m.CheckSuffices host f.registry C t i args := by
  have hadm := MemberDecl.accepts_of_checkArguments hargs
  constructor
  · -- lowered, then marshalled into values of the crossing signature
    intro hreg
    obtain ⟨hmarsh, hvoid⟩ := generate_valued hgen hm hreg
    have hlow : f.registry.Typed ∨ ∀ p ∈ m.params, p.ty.isNamed = false :=
      hreg.imp_right fun hn _ hp => MemberDecl.param_of_any_eq_false hn hp
    refine spec_mono (eachArg_lowerArg_spec hlow 0 args hadm) (fun xs hxs => ?_) fun _ h => h
    refine spec_mono (eachArg_marshalArg_spec hmarsh 0 xs hxs) (fun ys hys => ?_) fun _ h => h
    have hfit : (m.crossing f.registry).nativeSignature.Fits ys := MemberDecl.fits_iff.2 hys
    exact ⟨hfit, NativeSignature.check_of_fits hfit hvoid m.name⟩
  · -- the native step is reached only with values that pass its check
    intro hreg b hb hlive
    obtain ⟨hmarsh, hvoid⟩ := generate_valued hgen hm hreg
    rw [Binding.invoke_standard (Factory.input_lowerRef f C) hgen hb hlive hm]
    unfold MemberDecl.callOnePass MemberDecl.checked
    rw [hargs]
    refine lowering_congr hreg hadm fun xs hxs => marshalling_congr hmarsh hxs fun ys hys => ?_
    exact callNative_of_check (NativeSignature.check_of_fits hys hvoid m.name)
  · intro hhost b hb hlive
    exact Binding.invoke_conforms hgen hhost hb hlive hm args

def labelMember : MemberDecl :=
  { name := "label", params := [⟨"who", .named "string", .nativeFrees⟩, ⟨"n", .nullable .i32, .callerFrees⟩],
    ret := ⟨.nullable .i32, .callerFrees⟩ }

theorem label_check_suffices :
    ∃ t, BindingType.generate Stage.standard (({} : Factory Unit Unit).input {}) ⟨"Labels", [labelMember]⟩ = .ok t ∧
      labelMember.checkArguments [.str "Ada", .optional (some (.i32 5))] = .ok () ∧
      (Registry.withDefaults : Registry Unit Unit).Typed ∧ echoHost.Typed ∧
      labelMember.CheckSuffices echoHost Registry.withDefaults {} t 0 [.str "Ada", .optional (some (.i32 5))] := by
  obtain ⟨t, ht⟩ : ∃ t, BindingType.generate Stage.standard (({} : Factory Unit Unit).input {})
      ⟨"Labels", [labelMember]⟩ = .ok t := ⟨_, rfl⟩
  exact ⟨t, ht, rfl, Registry.withDefaults_typed, echoHost_typed,
    BindingType.declaration_check_suffices ht rfl rfl echoHost⟩

end NativeBridge
