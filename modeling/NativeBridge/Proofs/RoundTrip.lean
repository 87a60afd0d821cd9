import NativeBridge.Proofs.Encoding
import NativeBridge.Proofs.Decoding
import NativeBridge.Proofs.OnePass
import NativeBridge.Proofs.Resolution
import NativeBridge.Proofs.CallTyping

/-!
Values that cross to native code and come back.

The built-in `string` transformer lowers a text to a fresh buffer holding its UTF-8 bytes and a
NUL, and raises a non-null pointer by decoding the C string there; an optional value crosses as
a pointer to a fresh buffer holding its layout, or as null. Against an entry that hands its
pointer argument back (`Host.EchoesPointers`), a member of a generated binding therefore returns
what it was given: a text when its buffer reads back as written (`Transformer.string_roundTrip`),
an optional value when its layout does (`optional_roundTrip`).

The steps of a call are stated one by one as what `Call.exec` makes of them, and the member-level
results are assembled from those by rewriting along the one-pass form of the call.
-/

namespace NativeBridge

open Call

variable {σ ε : Type} {host : Host σ ε}

namespace MarshalContext

variable (ctx : MarshalContext) {n : Nat} {st : CallState σ ε} {p : UInt64} {w : σ}

theorem exec_allocate_null (halloc : host.allocate n st.world = (0, w)) :
    exec (ctx.allocate host n) st =
      (.error (ctx.error ("failed to allocate " ++ toString n ++ " bytes")), { st with world := w }) := by
  unfold allocate
  rw [exec_bind_ok (exec_ask _ st), halloc]
  rfl

theorem exec_allocate_fresh (halloc : host.allocate n st.world = (p, w)) (hp : p ≠ 0) :
    exec (ctx.allocate host n) st = (.ok p, { st with world := w, scratch := st.scratch.record ctx.ownership p }) := by
  unfold allocate
  rw [exec_bind_ok (exec_ask _ st), halloc]
  have hb : (p == 0) = false := by simpa using hp
  simp only [hb, Bool.false_eq_true, ↓reduceIte]
  rw [exec_record]
  rfl

end MarshalContext

namespace Transformer

variable (ctx : MarshalContext) (s : String) {st : CallState σ ε} {p : UInt64} {w : σ}

theorem exec_string_lower_nul (h : 0 ∈ s.toUTF8.toList) :
    exec ((string : Transformer σ ε).lower host ctx (.str s)) st =
      (.error (ctx.error "string contains an interior NUL byte"), st) := by
  have hc : s.toUTF8.toList.contains 0 = true := List.contains_iff_mem.2 h
  simp only [string, hc, ↓reduceIte]
  rfl

theorem exec_string_lower_null (h : 0 ∉ s.toUTF8.toList)
    (halloc : host.allocate (s.toUTF8.toList.length + 1) st.world = (0, w)) :
    exec ((string : Transformer σ ε).lower host ctx (.str s)) st =
      (.error (ctx.error ("failed to allocate " ++ toString (s.toUTF8.toList.length + 1) ++ " bytes")),
        { st with world := w }) := by
  have hc : s.toUTF8.toList.contains 0 = false := by simpa using h
  simp only [string, hc, Bool.false_eq_true, ↓reduceIte]
  exact exec_bind_error (ctx.exec_allocate_null halloc)

theorem exec_string_lower_fresh (h : 0 ∉ s.toUTF8.toList)
    (halloc : host.allocate (s.toUTF8.toList.length + 1) st.world = (p, w)) (hp : p ≠ 0) :
    exec ((string : Transformer σ ε).lower host ctx (.str s)) st =
      (.ok (.pointer p),
        { st with world := host.store p (s.toUTF8.toList ++ [0]) w, scratch := st.scratch.record ctx.ownership p }) := by
  have hc : s.toUTF8.toList.contains 0 = false := by simpa using h
  simp only [string, hc, Bool.false_eq_true, ↓reduceIte]
  rw [exec_bind_ok (ctx.exec_allocate_fresh halloc hp)]
  exact exec_bind_ok (exec_world _ _)

theorem exec_string_raise_null :
    exec ((string : Transformer σ ε).raise host ctx (.pointer 0)) st =
      (.error (ctx.error "native code returned a null string"), st) := rfl

theorem exec_string_raise_other {v : Value} (hv : v.asPointer? = none) :
    exec ((string : Transformer σ ε).raise host ctx v) st =
      (.error (ctx.error ("expected a pointer, got " ++ v.kind)), st) := by
  cases v <;> first | rfl | cases hv

theorem exec_string_raise (hp : p ≠ 0) :
    exec ((string : Transformer σ ε).raise host ctx (.pointer p)) st =
      ((match Text.decodeUtf8 (host.cString p st.world) with
        | .ok s => .ok (.str s)
        | .error f => .error (ctx.error ("returned string is not UTF-8: " ++ f.message))),
        if ctx.ownership.byCaller then { st with scratch := st.scratch.track p } else st) := by
  have hb : (p == 0) = false := by simpa using hp
  simp only [string, hb, Bool.false_eq_true, ↓reduceIte]
  rw [exec_bind_ok (exec_look _ st)]
  cases ctx.ownership <;> cases Text.decodeUtf8 (host.cString p st.world) <;> rfl

theorem exec_string_raise_text (hp : p ≠ 0) (hc : host.cString p st.world = s.toUTF8.toList) :
    exec ((string : Transformer σ ε).raise host ctx (.pointer p)) st =
      (.ok (.str s), if ctx.ownership.byCaller then { st with scratch := st.scratch.track p } else st) := by
  rw [exec_string_raise _ hp, hc, Text.decodeUtf8_toUTF8]

theorem exec_string_lower_raise (ctx' : MarshalContext) (h : 0 ∉ s.toUTF8.toList)
    (halloc : host.allocate (s.toUTF8.toList.length + 1) st.world = (p, w)) (hp : p ≠ 0)
    (hread : host.cString p (host.store p (s.toUTF8.toList ++ [0]) w) = s.toUTF8.toList) :
    (exec ((string : Transformer σ ε).lower host ctx (.str s) >>= (string : Transformer σ ε).raise host ctx') st).1 =
      .ok (.str s) := by
  rw [exec_bind_ok (exec_string_lower_fresh ctx s h halloc hp), exec_string_raise_text ctx' s hp hread]

theorem exec_activation_string_raise (hp : p ≠ 0) :
    (exec (activation host ((string : Transformer σ ε).raise host ctx (.pointer p))) st).2 =
      if ctx.ownership.byCaller then { st with world := host.release p st.world } else st := by
  rw [exec_activation, exec_string_raise _ hp]
  cases ctx.ownership with
  | nativeFrees => rfl
  | callerFrees =>
    simp only [Ownership.byCaller, ↓reduceIte, Scratch.pending_track _ hp]
    rfl

end Transformer

theorem ParamDecl.length_eq_of_accepts {ps : List ParamDecl} {vs : List Value} (h : accepts ps vs = true) :
    vs.length = ps.length := by
  induction ps generalizing vs with
  | nil => cases vs <;> simp_all [accepts]
  | cons p ps ih =>
    cases vs with
    | nil => simp [accepts] at h
    | cons v vs =>
      simp only [accepts_cons, Bool.and_eq_true] at h
      simp [ih h.2]

theorem ParamDecl.conformsTo_of_accepts {ps : List ParamDecl} {vs : List Value} (h : accepts ps vs = true) :
    ∀ pv ∈ ps.zip vs, pv.2.conformsTo pv.1.ty = true := by
  induction ps generalizing vs with
  | nil => simp
  | cons p ps ih =>
    cases vs with
    | nil => simp
    | cons v vs =>
      simp only [accepts_cons, Bool.and_eq_true] at h
      simp only [List.zip_cons_cons, List.mem_cons, forall_eq_or_imp]
      exact ⟨h.1, ih h.2⟩

theorem MemberDecl.checkArguments_of_accepts {d : MemberDecl} {args : List Value}
    (h : ParamDecl.accepts d.params args = true) : d.checkArguments args = .ok () := by
  have hlen := ParamDecl.length_eq_of_accepts h
  unfold MemberDecl.checkArguments
  split
  · rename_i hne
    simp [hlen] at hne
  · -- every pair conforms, so the loop over the pairs runs to its end
    have hzip := ParamDecl.conformsTo_of_accepts h
    generalize d.params.zip args = qs at hzip
    induction qs with
    | nil => rfl
    | cons q qs ih =>
      obtain ⟨p, v⟩ := q
      simp only [List.mem_cons, forall_eq_or_imp] at hzip
      rw [List.forIn_cons]
      simp only [hzip.1, Bool.not_true, Bool.false_eq_true, ↓reduceIte]
      exact ih hzip.2

theorem MemberDecl.checked_of_accepts {d : MemberDecl} {args : List Value} (h : ParamDecl.accepts d.params args = true)
    {α : Type} (k : Call σ ε α) : d.checked args k = k := by
  simp only [MemberDecl.checked, MemberDecl.checkArguments_of_accepts h]

def Host.EchoesPointers (host : Host σ ε) (e : ε) : Prop :=
  ∀ sig q w, host.invoke e sig [.pointer q] w = (.pointer q, w)

namespace OnePass

variable {member : String}

theorem exec_eachArg_single {step : Nat → ParamDecl → Value → Call σ ε Value} {i : Nat} {p : ParamDecl}
    {v x : Value} {st st' : CallState σ ε} (h : exec (step i p v) st = (.ok x, st')) :
    exec (eachArg step i [p] [v]) st = (.ok [x], st') := by
  simp only [eachArg]
  rw [exec_bind_ok h]
  rfl

theorem exec_callNative_echo {i : Nat} {sl : SlotDef} {e : ε} {q : UInt64} {st : CallState σ ε}
    (hslot : st.slots[i]? = some (some e)) (hecho : host.EchoesPointers e) (hsig : sl.signature.params = [.pointer]) :
    exec (callNative host member i sl [.pointer q]) st = (.ok (.pointer q), st) := by
  have hc : sl.signature.check member [.pointer q] = .ok () :=
    NativeSignature.check_of_fits (by simp [NativeSignature.Fits, hsig, Value.nativeType?]) (by simp [hsig]) member
  unfold callNative
  rw [exec_bind_ok (exec_entry_of_held host sl hslot)]
  simp only [callEntry, hc]
  rw [exec_ask, hecho]

end OnePass

structure Binding.Serves (f : Factory σ ε) (C : BindingConfig) (I : InterfaceDecl) (b : Binding ε) (i : Nat)
    (m : MemberDecl) : Prop where
  generated : BindingType.generate Stage.standard (f.input C) I = .ok b.type
  live : b.disposed = false ∨ C.disposalChecks = false
  member : I.members[i]? = some m

theorem Binding.Serves.invoke_eq {f : Factory σ ε} {C : BindingConfig} {I : InterfaceDecl} {b : Binding ε}
    {i : Nat} {m : MemberDecl} (h : b.Serves f C I i m) (args : List Value) :
    b.invoke host f.registry m.name args = m.callOnePass host f.registry C i args :=
  Binding.invoke_standard (Factory.input_lowerRef f C) h.generated rfl h.live h.member args

section Echo

open OnePass

variable {reg : Registry σ ε} {config : BindingConfig} {i : Nat} {m : MemberDecl} {x : String}
  {st : CallState σ ε} {e : ε}

theorem MemberDecl.callOnePass_string_echo {o : Ownership} (hps : m.params = [⟨x, .named "string", o⟩])
    (hret : m.ret.ty = .named "string") (hreg : reg.get? "string" = some Transformer.string)
    {s : String} (hnul : 0 ∉ s.toUTF8.toList) (hslot : st.slots[i]? = some (some e)) (hecho : host.EchoesPointers e)
    {p : UInt64} {w : σ} (halloc : host.allocate (s.toUTF8.toList.length + 1) st.world = (p, w)) (hp : p ≠ 0)
    (hread : host.cString p (host.store p (s.toUTF8.toList ++ [0]) w) = s.toUTF8.toList) :
    (exec (m.callOnePass host reg config i [.str s]) st).1 = .ok (.str s) := by
  have hacc : ParamDecl.accepts m.params [.str s] = true := by
    simp [hps, Value.conformsTo, ParamDecl.accepts]
  have hnamed : m.types.any TypeRef.isNamed = true := by
    simp [MemberDecl.types, hps, TypeRef.isNamed]
  have hnull : (m.loweredBy reg).types.any TypeRef.isNullable = false := by
    simp [MemberDecl.loweredBy, MemberDecl.mapTypes, MemberDecl.types, hps, hret, Registry.lowerRef, hreg,
      Transformer.string, TypeRef.isNullable]
  have hsig : (m.crossing reg).nativeSignature.params = [.pointer] := by
    simp [MemberDecl.crossing, MemberDecl.loweredBy, MemberDecl.mapTypes, MemberDecl.nativeSignature, hps,
      Registry.lowerRef, hreg, Transformer.string, TypeRef.asPointer, TypeRef.asNative?]
  rw [MemberDecl.callOnePass, MemberDecl.checked_of_accepts hacc, lowering, if_pos hnamed,
    marshalling_of_not_nullable hnull, exec_activation]
  dsimp only
  -- lowered into a fresh buffer, echoed, then raised from the same buffer
  have hlow : exec (lowerArg host reg m.name 0 ⟨x, .named "string", o⟩ (.str s)) { st with scratch := {} } =
      (.ok (.pointer p),
        { st with world := host.store p (s.toUTF8.toList ++ [0]) w, scratch := ({} : Scratch).record o p }) := by
    simp only [lowerArg, hreg]
    exact Transformer.exec_string_lower_fresh _ s hnul halloc hp
  have hslot' : ({ st with world := host.store p (s.toUTF8.toList ++ [0]) w, scratch := ({} : Scratch).record o p } :
      CallState σ ε).slots[i]? = some (some e) := hslot
  rw [hps, exec_bind_ok (exec_eachArg_single hlow), exec_bind_ok (exec_callNative_echo hslot' hecho hsig),
    exec_bind_ok (exec_scratch _ _)]
  simp only [raiseResult, hret, hreg]
  rw [Transformer.exec_string_raise _ hp]
  dsimp only
  rw [hread, Text.decodeUtf8_toUTF8]

variable {t : NativeType} {o o' : Ownership}

theorem MemberDecl.nullable_shape (reg : Registry σ ε) (hps : m.params = [⟨x, .nullable t, o⟩])
    (hret : m.ret = ⟨.nullable t, o'⟩) :
    m.types.any TypeRef.isNamed = false ∧ m.types.any TypeRef.isNullable = true ∧
      (m.crossing reg).nativeSignature.params = [.pointer] := by
  refine ⟨?_, ?_, ?_⟩
  · simp [MemberDecl.types, hps, hret, TypeRef.isNamed]
  · simp [MemberDecl.types, hps, TypeRef.isNullable]
  · simp [MemberDecl.crossing, MemberDecl.loweredBy, MemberDecl.mapTypes, MemberDecl.nativeSignature, hps,
      Registry.lowerRef, TypeRef.asPointer, TypeRef.asNative?]

theorem MemberDecl.callOnePass_none_echo (hps : m.params = [⟨x, .nullable t, o⟩]) (hret : m.ret = ⟨.nullable t, o'⟩)
    (hslot : st.slots[i]? = some (some e)) (hecho : host.EchoesPointers e) :
    exec (m.callOnePass host reg config i [.optional none]) st = (.ok (.optional none), st) := by
  have hacc : ParamDecl.accepts m.params [.optional none] = true := by
    simp [hps, Value.conformsTo, ParamDecl.accepts]
  obtain ⟨hnamed, hnull, hsig⟩ := MemberDecl.nullable_shape reg hps hret
  rw [MemberDecl.callOnePass, MemberDecl.checked_of_accepts hacc, lowering_of_not_named hnamed,
    MemberDecl.loweredBy_of_not_named hnamed, marshalling, if_pos hnull, exec_activation]
  have hmar : exec (marshalArg host m.name ⟨x, .nullable t, o⟩ (.optional none)) { st with scratch := {} } =
      (.ok (.pointer 0), { st with scratch := {} }) := rfl
  have hslot' : ({ st with scratch := {} } : CallState σ ε).slots[i]? = some (some e) := hslot
  rw [hps, exec_bind_ok (exec_eachArg_single hmar), exec_bind_ok (exec_callNative_echo hslot' hecho hsig),
    exec_bind_ok (exec_scratch _ _)]
  simp only [unmarshalResult, hret]
  rw [exec_marshalOut_zero]
  rfl

theorem MemberDecl.callOnePass_some_echo (hps : m.params = [⟨x, .nullable t, o⟩]) (hret : m.ret = ⟨.nullable t, o'⟩)
    (hslot : st.slots[i]? = some (some e)) (hecho : host.EchoesPointers e)
    {v : Value} {bytes : List UInt8} (he : v.encode? t = some bytes)
    {p : UInt64} {w : σ} (halloc : host.allocate t.size st.world = (p, w)) (hp : p ≠ 0)
    (hread : host.load p t.size (host.store p bytes w) = bytes) :
    (exec (m.callOnePass host reg config i [.optional (some v)]) st).1 = .ok (.optional (some v)) := by
  have hacc : ParamDecl.accepts m.params [.optional (some v)] = true := by
    simp [hps, Value.conformsTo, ParamDecl.accepts, Value.nativeType?_of_encode? he]
  obtain ⟨hnamed, hnull, hsig⟩ := MemberDecl.nullable_shape reg hps hret
  have hdec : Value.decode t bytes = v := by
    simpa using (Value.decode_encode? he).2 []
  rw [MemberDecl.callOnePass, MemberDecl.checked_of_accepts hacc, lowering_of_not_named hnamed,
    MemberDecl.loweredBy_of_not_named hnamed, marshalling, if_pos hnull, exec_activation]
  dsimp only
  have hmar : exec (marshalArg host m.name ⟨x, .nullable t, o⟩ (.optional (some v))) { st with scratch := {} } =
      (.ok (.pointer p), { st with world := host.store p bytes w, scratch := ({} : Scratch).record o p }) := by
    simp only [marshalArg]
    exact exec_marshalIn_fresh halloc hp he
  have hslot' : ({ st with world := host.store p bytes w, scratch := ({} : Scratch).record o p } :
      CallState σ ε).slots[i]? = some (some e) := hslot
  rw [hps, exec_bind_ok (exec_eachArg_single hmar), exec_bind_ok (exec_callNative_echo hslot' hecho hsig),
    exec_bind_ok (exec_scratch _ _)]
  simp only [unmarshalResult, hret]
  rw [exec_marshalOut_of_ne_zero hp]
  dsimp only
  rw [hread, hdec]

end Echo

/-- A text crosses to native code and back unchanged. Lowering refuses a text holding a NUL and
fails on a null buffer; otherwise it writes the text's UTF-8 bytes and a NUL into a fresh buffer
of one byte more, recorded under the ownership it is told. Raising refuses null and anything but a
pointer, changing nothing; it decodes a buffer holding the bytes back to the text, and a
caller-owned buffer is released once, when its activation ends, whatever the buffer holds. So a
member taking and returning a text, on an entry that echoes its pointer, returns the text. -/
theorem Transformer.string_roundTrip (ctx : MarshalContext) (s : String) (st : CallState σ ε) :
    (0 ∈ s.toUTF8.toList →
      exec ((string : Transformer σ ε).lower host ctx (.str s)) st =
        (.error (ctx.error "string contains an interior NUL byte"), st)) ∧
    (∀ w, 0 ∉ s.toUTF8.toList → host.allocate (s.toUTF8.toList.length + 1) st.world = (0, w) →
      exec ((string : Transformer σ ε).lower host ctx (.str s)) st =
        (.error (ctx.error ("failed to allocate " ++ toString (s.toUTF8.toList.length + 1) ++ " bytes")),
          { st with world := w })) ∧
    (∀ p w, 0 ∉ s.toUTF8.toList → host.allocate (s.toUTF8.toList.length + 1) st.world = (p, w) → p ≠ 0 →
      exec ((string : Transformer σ ε).lower host ctx (.str s)) st =
        (.ok (.pointer p),
          { st with world := host.store p (s.toUTF8.toList ++ [0]) w, scratch := st.scratch.record ctx.ownership p })) ∧
    (∀ p, p ≠ 0 → host.cString p st.world = s.toUTF8.toList →
      exec ((string : Transformer σ ε).raise host ctx (.pointer p)) st =
        (.ok (.str s), if ctx.ownership.byCaller then { st with scratch := st.scratch.track p } else st)) ∧
    (∀ (ctx' : MarshalContext) p w, 0 ∉ s.toUTF8.toList →
      host.allocate (s.toUTF8.toList.length + 1) st.world = (p, w) → p ≠ 0 →
      host.cString p (host.store p (s.toUTF8.toList ++ [0]) w) = s.toUTF8.toList →
      (exec ((string : Transformer σ ε).lower host ctx (.str s) >>= (string : Transformer σ ε).raise host ctx') st).1 =
        .ok (.str s)) ∧
    exec ((string : Transformer σ ε).raise host ctx (.pointer 0)) st =
      (.error (ctx.error "native code returned a null string"), st) ∧
    (∀ v : Value, v.asPointer? = none →
      exec ((string : Transformer σ ε).raise host ctx v) st =
        (.error (ctx.error ("expected a pointer, got " ++ v.kind)), st)) ∧
    (∀ p, p ≠ 0 → (exec (activation host ((string : Transformer σ ε).raise host ctx (.pointer p))) st).2 =
      if ctx.ownership.byCaller then { st with world := host.release p st.world } else st) ∧
    (∀ (f : Factory σ ε) (C : BindingConfig) (I : InterfaceDecl) (b : Binding ε) (i : Nat) (m : MemberDecl)
        (x : String) (o : Ownership) (e : ε) (p : UInt64) (w : σ),
      b.Serves f C I i m → m.params = [⟨x, .named "string", o⟩] → m.ret.ty = .named "string" →
      f.registry.get? "string" = some string → st.slots[i]? = some (some e) → host.EchoesPointers e →
      0 ∉ s.toUTF8.toList → host.allocate (s.toUTF8.toList.length + 1) st.world = (p, w) → p ≠ 0 →
      host.cString p (host.store p (s.toUTF8.toList ++ [0]) w) = s.toUTF8.toList →
      (exec (b.invoke host f.registry m.name [.str s]) st).1 = .ok (.str s)) := by
  refine ⟨exec_string_lower_nul ctx s, fun w h ha => exec_string_lower_null ctx s h ha,
    fun p w h ha hp => exec_string_lower_fresh ctx s h ha hp, fun p hp hc => exec_string_raise_text ctx s hp hc,
    fun ctx' p w h ha hp hread => exec_string_lower_raise ctx s ctx' h ha hp hread, exec_string_raise_null ctx,
    fun v hv => exec_string_raise_other ctx hv, fun p hp => exec_activation_string_raise ctx hp, ?_⟩
  intro f C I b i m x o e p w hs hps hret hreg hslot hecho hnul halloc hp hread
  rw [hs.invoke_eq]
  exact m.callOnePass_string_echo hps hret hreg hnul hslot hecho halloc hp hread

theorem naive_text_roundTrip :
    ∃ t, BindingType.generate Stage.standard (({} : Factory Native.State Native.NativeFunction).input {})
        ⟨"Texts", [{ name := "echo_ptr", params := [⟨"s", .named "string", .nativeFrees⟩],
                     ret := ⟨.named "string", .callerFrees⟩ }]⟩ = .ok t ∧
      (exec ((⟨t, [none], false⟩ : Binding Native.NativeFunction).invoke Native.host Registry.withDefaults "echo_ptr"
        [.str "naïve✓"]) { world := {}, slots := [some (.echo .pointer)] }).1 = .ok (.str "naïve✓") := by
  obtain ⟨t, ht⟩ : ∃ t, BindingType.generate Stage.standard
      (({} : Factory Native.State Native.NativeFunction).input {})
      ⟨"Texts", [{ name := "echo_ptr", params := [⟨"s", .named "string", .nativeFrees⟩],
                   ret := ⟨.named "string", .callerFrees⟩ }]⟩ = .ok t := ⟨_, rfl⟩
  refine ⟨t, ht, ?_⟩
  have hbytes : "naïve✓".toUTF8.toList = [110, 97, 195, 175, 118, 101, 226, 156, 147] := by
    rw [Text.toList_toUTF8]
    decide
  exact (Transformer.string_roundTrip (⟨"echo_ptr", .ret, .callerFrees⟩ : MarshalContext) "naïve✓"
    ({ world := {}, slots := [some (.echo .pointer)] } : CallState Native.State Native.NativeFunction)).2.2.2.2.2.2.2.2
    {} {} _ ⟨t, [none], false⟩ 0 _ "s" .nativeFrees (.echo .pointer) _ _ ⟨ht, Or.inl rfl, rfl⟩ rfl rfl rfl rfl
    (fun _ _ _ => rfl) (by rw [hbytes]; decide) rfl (by decide) (by rw [hbytes]; decide)

/-- An optional native value crosses to native code and back unchanged. A value has a layout for
a type other than `void` exactly when it is of that type; the layout takes the type's size and
reads back as the value whatever follows it, and writing it changes no other byte of the process.
An absent argument crosses as null with nothing allocated; a present one gets a fresh buffer of
the type's size holding its layout, recorded under the parameter's ownership. So a member taking
and returning an optional value, on an entry that echoes its pointer, returns an absent value
with nothing changed, and a present one when its buffer reads back as written. -/
theorem optional_roundTrip {t : NativeType} (ht : t ≠ .void) :
    (∀ v : Value, (v.encode? t).isSome ↔ v.nativeType? = some t) ∧
    (∀ (v : Value) bytes, v.encode? t = some bytes →
      bytes.length = t.size ∧ ∀ rest, Value.decode t (bytes ++ rest) = v) ∧
    (∀ (v : Value) bytes (mem : Native.Memory) (p q : UInt64), v.encode? t = some bytes →
      (q.toNat < p.toNat ∨ p.toNat + t.size ≤ q.toNat) → (mem.store p bytes).byte q = mem.byte q) ∧
    (∀ (member name : String) (o : Ownership) (st : CallState σ ε),
      exec (marshalIn host member name (.optional none) ⟨t, o⟩) st = (.ok Value.null, st)) ∧
    (∀ (member name : String) (o : Ownership) (st : CallState σ ε) (v : Value) bytes p w,
      v.encode? t = some bytes → host.allocate t.size st.world = (p, w) → p ≠ 0 →
      exec (marshalIn host member name (.optional (some v)) ⟨t, o⟩) st =
        (.ok (.pointer p), { st with world := host.store p bytes w, scratch := st.scratch.record o p })) ∧
    (∀ (f : Factory σ ε) (C : BindingConfig) (I : InterfaceDecl) (b : Binding ε) (i : Nat) (m : MemberDecl)
        (x : String) (o o' : Ownership) (st : CallState σ ε) (e : ε),
      b.Serves f C I i m → m.params = [⟨x, .nullable t, o⟩] → m.ret = ⟨.nullable t, o'⟩ →
      st.slots[i]? = some (some e) → host.EchoesPointers e →
      exec (b.invoke host f.registry m.name [.optional none]) st = (.ok (.optional none), st) ∧
      ∀ (v : Value) bytes p w, v.encode? t = some bytes → host.allocate t.size st.world = (p, w) → p ≠ 0 →
        host.load p t.size (host.store p bytes w) = bytes →
        (exec (b.invoke host f.registry m.name [.optional (some v)]) st).1 = .ok (.optional (some v))) := by
  refine ⟨Value.isSome_encode?_iff ht, fun v bytes he => Value.decode_encode? he, ?_,
    fun member name o st => exec_marshalIn_none _, fun member name o st v bytes p w he ha hp => exec_marshalIn_fresh ha hp he,
    ?_⟩
  · intro v bytes mem p q he hq
    have hlen := (Value.decode_encode? he).1
    exact Native.Memory.byte_store mem bytes (hlen ▸ hq)
  · intro f C I b i m x o o' st e hs hps hret hslot hecho
    refine ⟨?_, fun v bytes p w he ha hp hread => ?_⟩
    · rw [hs.invoke_eq]
      exact m.callOnePass_none_echo hps hret hslot hecho
    · rw [hs.invoke_eq]
      exact m.callOnePass_some_echo hps hret hslot hecho he ha hp hread

theorem i32_optional_roundTrip :
    NativeType.i32 ≠ .void ∧
    ∃ t, BindingType.generate Stage.standard (({} : Factory Native.State Native.NativeFunction).input {})
        ⟨"Optionals", [{ name := "echo_ptr", params := [⟨"v", .nullable .i32, .nativeFrees⟩],
                         ret := ⟨.nullable .i32, .callerFrees⟩ }]⟩ = .ok t ∧
      exec ((⟨t, [none], false⟩ : Binding Native.NativeFunction).invoke Native.host Registry.withDefaults "echo_ptr"
          [.optional none]) { world := {}, slots := [some (.echo .pointer)] } =
        (.ok (.optional none), { world := {}, slots := [some (.echo .pointer)] }) ∧
      (exec ((⟨t, [none], false⟩ : Binding Native.NativeFunction).invoke Native.host Registry.withDefaults "echo_ptr"
          [.optional (some (.i32 (-7)))]) { world := {}, slots := [some (.echo .pointer)] }).1 =
        .ok (.optional (some (.i32 (-7)))) := by
  obtain ⟨t, ht⟩ : ∃ t, BindingType.generate Stage.standard
      (({} : Factory Native.State Native.NativeFunction).input {})
      ⟨"Optionals", [{ name := "echo_ptr", params := [⟨"v", .nullable .i32, .nativeFrees⟩],
                       ret := ⟨.nullable .i32, .callerFrees⟩ }]⟩ = .ok t := ⟨_, rfl⟩
  have h := (@optional_roundTrip Native.State Native.NativeFunction Native.host .i32 (by decide)).2.2.2.2.2
    {} {} _ ⟨t, [none], false⟩ 0 _ "v" .nativeFrees .callerFrees { world := {}, slots := [some (.echo .pointer)] }
    (.echo .pointer) ⟨ht, Or.inl rfl, rfl⟩ rfl rfl rfl (fun _ _ _ => rfl)
  exact ⟨by decide, t, ht, h.1, h.2 _ [249, 255, 255, 255] _ _ rfl rfl (by decide) (by decide)⟩

end NativeBridge
