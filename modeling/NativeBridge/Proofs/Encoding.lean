import NativeBridge.Proofs.Traffic

/-!
Values in their native layout.

A value of native type `t` is written as `t.size` little-endian bytes and read back from them as
itself, whatever bytes follow; a value of another type, and any value for `void`, has no
layout (`Value.decode_encode?`, `Value.isSome_encode?_iff`). A write into the memory of the
process changes only the bytes it covers (`Native.Memory.byte_store`).

An optional argument crosses as a pointer: nothing is allocated for an absent value, which
crosses as null, and a present one gets a fresh buffer of its type's size holding its layout,
recorded under the parameter's ownership. A pointer result is read back the same way
(`exec_marshalIn_fresh`, `exec_marshalOut_of_ne_zero`).
-/

namespace NativeBridge

theorem length_leBytes (n k : Nat) : (leBytes n k).length = k := by
  induction k generalizing n with
  | zero => rfl
  | succ k ih => simp [leBytes, ih]

theorem leValue_leBytes (n k : Nat) : leValue (leBytes n k) = n % Nat.pow 256 k := by
  induction k generalizing n with
  | zero => exact (Nat.mod_one n).symm
  | succ k ih =>
    have hb : (n % 256).toUInt8.toNat = n % 256 := UInt8.toNat_ofNat_of_lt' (Nat.mod_lt n (by decide))
    have hpow : Nat.pow 256 (k + 1) = 256 * Nat.pow 256 k := Nat.mul_comm _ _
    simp only [leBytes, leValue, ih, hb]
    rw [hpow, Nat.mod_mul]

namespace Value

theorem isSome_encode?_iff {t : NativeType} (ht : t ≠ .void) (v : Value) :
    (v.encode? t).isSome ↔ v.nativeType? = some t := by
  cases v <;> cases t <;> simp_all [encode?, nativeType?]

theorem nativeType?_of_encode? {t : NativeType} {v : Value} {bytes : List UInt8} (h : v.encode? t = some bytes) :
    v.nativeType? = some t := by
  cases v <;> cases t <;> simp_all [encode?, nativeType?]

/-- The layout of a value takes its type's size, and reads back as the value bit for bit,
whatever follows it. -/
theorem decode_encode? {t : NativeType} {v : Value} {bytes : List UInt8} (h : v.encode? t = some bytes) :
    bytes.length = t.size ∧ ∀ rest, decode t (bytes ++ rest) = v := by
  cases v <;> cases t <;> simp only [encode?, reduceCtorEq, Option.some.injEq] at h <;> subst h <;>
    simp [decode, NativeType.size, length_leBytes, leValue_leBytes, leValue]
  -- a `bool` is written as 0 or 1 and read as nonzero
  case bool.bool b => cases b <;> rfl

end Value

namespace Native

theorem getElem?_splice {α : Type} (bs xs : List α) {off i : Nat} (hoff : off ≤ bs.length)
    (hi : i < off ∨ off + xs.length ≤ i) :
    ((bs.take off ++ xs ++ (bs.drop off).drop xs.length).take bs.length)[i]? = bs[i]? := by
  rw [List.getElem?_take]
  split
  · rcases hi with hi | hi
    · rw [List.append_assoc, List.getElem?_append_left (by simp; omega), List.getElem?_take_of_lt hi]
    · rw [List.getElem?_append_right (by simp; omega), List.getElem?_drop, List.getElem?_drop]
      congr 1
      simp
      omega
  · rw [List.getElem?_eq_none (by omega)]

namespace Memory

theorem byte?_write (b : Block) {p q : UInt64} (bytes : List UInt8)
    (hq : q.toNat < p.toNat ∨ p.toNat + bytes.length ≤ q.toNat) :
    (if b.base ≤ p && (p - b.base).toNat < b.bytes.length then
      { b with bytes := (b.bytes.take (p - b.base).toNat ++ bytes ++
        (b.bytes.drop (p - b.base).toNat).drop bytes.length).take b.bytes.length }
    else b).byte? q = b.byte? q := by
  split
  · rename_i hw
    simp only [Bool.and_eq_true, decide_eq_true_eq] at hw
    unfold Block.byte?
    dsimp only
    split
    · rename_i hbq
      have hle : b.base.toNat ≤ p.toNat := UInt64.le_iff_toNat_le.1 hw.1
      have hleq : b.base.toNat ≤ q.toNat := UInt64.le_iff_toNat_le.1 hbq
      apply getElem?_splice _ _ (by omega)
      rw [UInt64.toNat_sub_of_le _ _ hw.1, UInt64.toNat_sub_of_le _ _ hbq]
      omega
    · rfl
  · rfl

theorem byte_store (m : Memory) {p q : UInt64} (bytes : List UInt8)
    (hq : q.toNat < p.toNat ∨ p.toNat + bytes.length ≤ q.toNat) : (m.store p bytes).byte q = m.byte q := by
  have hb : (m.store p bytes).blocks.findSome? (·.byte? q) = m.blocks.findSome? (·.byte? q) := by
    simp only [store, List.findSome?_map]
    congr 1
    funext b
    exact byte?_write b bytes hq
  simp only [byte, hb]

end Memory

end Native

open Call

variable {σ ε : Type} {host : Host σ ε} {member name : String} {st : CallState σ ε}

theorem exec_marshalIn_none (mar : NullableMarshal) :
    exec (marshalIn host member name (.optional none) mar) st = (.ok Value.null, st) := rfl

theorem exec_marshalIn_null {v : Value} {t : NativeType} {o : Ownership} {w : σ}
    (halloc : host.allocate t.size st.world = (0, w)) :
    exec (marshalIn host member name (.optional (some v)) ⟨t, o⟩) st =
      (.error (.marshalling member ("failed to allocate " ++ toString t.size ++ " bytes for parameter `" ++ name ++ "`")),
        { st with world := w }) := by
  unfold marshalIn
  dsimp only
  rw [exec_bind_ok (exec_ask _ st), halloc]
  rfl

theorem exec_marshalIn_fresh {v : Value} {t : NativeType} {o : Ownership} {p : UInt64} {w : σ}
    {bytes : List UInt8} (halloc : host.allocate t.size st.world = (p, w)) (hp : p ≠ 0)
    (he : v.encode? t = some bytes) :
    exec (marshalIn host member name (.optional (some v)) ⟨t, o⟩) st =
      (.ok (.pointer p), { st with world := host.store p bytes w, scratch := st.scratch.record o p }) := by
  unfold marshalIn
  dsimp only
  rw [exec_bind_ok (exec_ask _ st), halloc]
  have hb : (p == 0) = false := by simpa using hp
  simp only [hb, Bool.false_eq_true, ↓reduceIte]
  rw [exec_record]
  simp only [he]
  exact exec_bind_ok (exec_world _ _)

theorem exec_marshalOut_zero (mar : NullableMarshal) :
    exec (marshalOut host member (.pointer 0) mar) st = (.ok (.optional none), st) := rfl

theorem exec_marshalOut_of_ne_zero {p : UInt64} (hp : p ≠ 0) (t : NativeType) (o : Ownership) :
    exec (marshalOut host member (.pointer p) ⟨t, o⟩) st =
      (.ok (.optional (some (Value.decode t (host.load p t.size st.world)))),
        if o.byCaller then { st with world := host.release p st.world } else st) := by
  unfold marshalOut
  have hb : (p == 0) = false := by simpa using hp
  simp only [Value.asPointer?, hb, Bool.false_eq_true, ↓reduceIte]
  rw [exec_bind_ok (exec_look _ st)]
  cases o <;> rfl

end NativeBridge
