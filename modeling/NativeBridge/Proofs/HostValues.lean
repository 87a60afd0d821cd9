import NativeBridge.Typed
import NativeBridge.Proofs.RoundTrip

/-!
Host values and the values of a binding.

Each host type converts its values to binding values and back. A host value becomes a value of the
host type's declared type, and converting it back gives the same host value, a float by its bits.
Converting succeeds only on such values: any other value, an optional one holding a value of the
wrong kind included, is refused. So the arguments a typed member's method builds always pass the
check against the member's declaration.
-/

namespace NativeBridge

namespace NativeType

@[simp]
theorem nativeType?_intoValue (t : NativeType) (x : t.Carrier) : (t.intoValue x).nativeType? = some t := by
  cases t <;> rfl

@[simp]
theorem ofValue?_intoValue (t : NativeType) (x : t.Carrier) : t.ofValue? (t.intoValue x) = some x := by
  cases t <;> rfl

theorem intoValue_of_ofValue? {t : NativeType} {v : Value} {x : t.Carrier} (h : t.ofValue? v = some x) :
    t.intoValue x = v := by
  -- only the value of the native type's own kind holds a host value, the one it carries
  cases t <;> cases v <;> simp [ofValue?] at h <;> cases h <;> rfl

theorem ofValue?_eq_some_iff {t : NativeType} {v : Value} {x : t.Carrier} :
    t.ofValue? v = some x ↔ t.intoValue x = v :=
  ⟨intoValue_of_ofValue?, fun h => h ▸ ofValue?_intoValue t x⟩

theorem ofValue?_eq_none {t : NativeType} {v : Value} (h : v.nativeType? ≠ some t) : t.ofValue? v = none := by
  cases hx : t.ofValue? v with
  | none => rfl
  | some x =>
    rw [← intoValue_of_ofValue? hx, nativeType?_intoValue] at h
    exact absurd rfl h

end NativeType

namespace HostType

theorem conformsTo_intoValue (h : HostType) (x : h.Carrier) : (h.intoValue x).conformsTo h.typeRef = true := by
  cases h with
  | prim t =>
    have := NativeType.nativeType?_intoValue t x
    simp [intoValue, typeRef, Value.conformsTo, this]
  | string => rfl
  | optional t =>
    cases x with
    | none => rfl
    | some y => simp [intoValue, typeRef, Value.conformsTo]

@[simp]
theorem decode_intoValue (h : HostType) (x : h.Carrier) : h.decode (h.intoValue x) = .ok x := by
  cases h with
  | prim t =>
    have := NativeType.ofValue?_intoValue t x
    simp only [intoValue, decode, this]
  | string => rfl
  | optional t =>
    cases x with
    | none => rfl
    | some y => simp [intoValue, decode]

theorem intoValue_of_decode {h : HostType} {v : Value} {x : h.Carrier} (hd : h.decode v = .ok x) :
    h.intoValue x = v := by
  cases h with
  | prim t =>
    simp only [decode] at hd
    split at hd
    · rename_i y hy
      cases hd
      exact NativeType.intoValue_of_ofValue? hy
    · cases hd
  | string =>
    cases v <;> simp [decode] at hd
    cases hd
    rfl
  | optional t =>
    -- an optional value: empty, or holding a value of the primitive's kind
    cases v with
    | optional o =>
      cases o with
      | none =>
        cases hd
        rfl
      | some inner =>
        simp only [decode] at hd
        split at hd
        · rename_i y hy
          cases hd
          simp [intoValue, NativeType.intoValue_of_ofValue? hy]
        · cases hd
    | _ => simp [decode] at hd

theorem decode_eq_ok_iff {h : HostType} {v : Value} {x : h.Carrier} : h.decode v = .ok x ↔ h.intoValue x = v :=
  ⟨intoValue_of_decode, fun hv => hv ▸ decode_intoValue h x⟩

theorem decode_error_of_ne {h : HostType} {v : Value} (hv : ∀ y, h.intoValue y ≠ v) : ∃ e, h.decode v = .error e := by
  cases hd : h.decode v with
  | error e => exact ⟨e, rfl⟩
  | ok x => exact absurd (intoValue_of_decode hd) (hv x)

example : (HostType.prim .i32).decode (.bool true) = .error (.generic "expected a i32 value, found bool") := rfl

theorem decode_optional_error {t : NativeType} {inner : Value} (hi : inner.nativeType? ≠ some t) :
    ∃ e, (HostType.optional t).decode (.optional (some inner)) = .error e :=
  ⟨unexpected (HostType.prim t).expectedName inner, by simp [decode, NativeType.ofValue?_eq_none hi]⟩

theorem accepts_argValues (hs : List HostType) (xs : Args hs) (ps : List ParamDecl)
    (hps : ps.map (·.ty) = hs.map typeRef) : ParamDecl.accepts ps (argValues hs xs) = true := by
  induction hs generalizing ps with
  | nil =>
    cases ps with
    | nil => rfl
    | cons p ps => cases hps
  | cons h hs ih =>
    cases ps with
    | nil => cases hps
    | cons p ps =>
      obtain ⟨x, xs⟩ := xs
      simp only [List.map_cons, List.cons.injEq] at hps
      simp only [argValues, ParamDecl.accepts_cons, hps.1, conformsTo_intoValue, ih xs ps hps.2, Bool.and_self]

end HostType

/-- Every host value converts to a value of its host type's declared type and back to itself, a
float by its bits; converting any other value is refused, an optional one holding a value of the
wrong kind included. So the argument vector a typed member's method builds passes the argument
check against that member's declaration, and the declaration of a typed interface lists its
members' declarations in order. -/
theorem HostType.conversions_roundTrip :
    (∀ (h : HostType) (x : h.Carrier),
      (h.intoValue x).conformsTo h.typeRef = true ∧ h.decode (h.intoValue x) = .ok x) ∧
    (∀ (h : HostType) (v : Value), (∀ y, h.intoValue y ≠ v) → ∃ e, h.decode v = .error e) ∧
    (∀ (t : NativeType) (inner : Value), inner.nativeType? ≠ some t →
      ∃ e, (HostType.optional t).decode (.optional (some inner)) = .error e) ∧
    ∀ I : TypedInterface, I.declaration.members = I.members.map TypedMember.decl ∧
      ∀ m ∈ I.members, ∀ xs, m.decl.checkArguments (m.arguments xs) = .ok () := by
  refine ⟨fun h x => ⟨conformsTo_intoValue h x, decode_intoValue h x⟩, fun _ _ => decode_error_of_ne,
    fun _ _ => decode_optional_error, fun I => ⟨rfl, fun m _ xs => ?_⟩⟩
  -- the declared parameter types are the host types' declared types, in order
  have hps : m.decl.params.map (·.ty) = (m.params.map (·.2)).map HostType.typeRef := by
    simp [TypedMember.decl]
  exact MemberDecl.checkArguments_of_accepts (HostType.accepts_argValues _ xs _ hps)

end NativeBridge
