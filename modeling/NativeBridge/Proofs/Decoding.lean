import NativeBridge.Text.Utf8
import NativeBridge.Proofs.Quoting

/-!
The UTF-8 check accepts what a string encodes to.

The check reads one character at a time (`step`); each byte class it tests is stated here by
the byte's value, and each well-formed shape of one to four bytes is accepted whatever follows
it. Every character encodes to one of these shapes (`step_utf8EncodeChar`), so the check finds
no fault in a string's bytes and decoding gives the string back (`decodeUtf8_toUTF8`).
-/

namespace NativeBridge.Text

theorem toList_loop (bs : ByteArray) (i : Nat) (r : List UInt8) :
    ByteArray.toList.loop bs i r = r.reverse ++ bs.data.toList.drop i := by
  fun_induction ByteArray.toList.loop bs i r with
  | case1 i r hlt ih =>
    have hi : i < bs.data.toList.length := by simpa using hlt
    have hget : bs.get! i = bs.data.toList[i] := by
      simp only [ByteArray.get!, Array.getElem_toList]
      exact getElem!_pos bs.data i (by simpa using hlt)
    rw [ih, List.drop_eq_getElem_cons hi, hget]
    simp
  | case2 i r hge =>
    simp [List.drop_eq_nil_of_le (show bs.data.toList.length ≤ i by simpa using hge)]

theorem byteArray_toList (bs : ByteArray) : bs.toList = bs.data.toList := by
  rw [ByteArray.toList, toList_loop]
  simp

theorem toList_toUTF8 (s : String) : s.toUTF8.toList = s.toList.flatMap String.utf8EncodeChar := by
  rw [byteArray_toList, String.toUTF8_eq_toByteArray, ← String.utf8Encode_toList, List.utf8Encode,
    List.toList_data_toByteArray]

theorem width_eq (b : UInt8) :
    width b =
      if b.toNat < 0x80 then 1
      else if 0xC2 ≤ b.toNat ∧ b.toNat ≤ 0xDF then 2
      else if 0xE0 ≤ b.toNat ∧ b.toNat ≤ 0xEF then 3
      else if 0xF0 ≤ b.toNat ∧ b.toNat ≤ 0xF4 then 4
      else 0 := by
  simp [width, UInt8.lt_iff_toNat_lt, UInt8.le_iff_toNat_le]

theorem isContinuation_iff {b : UInt8} : isContinuation b = true ↔ 0x80 ≤ b.toNat ∧ b.toNat ≤ 0xBF := by
  simp [isContinuation, UInt8.le_iff_toNat_le]

theorem secondFits_iff {a b : UInt8} :
    secondFits a b = true ↔
      (a.toNat = 0xE0 → 0xA0 ≤ b.toNat) ∧ (a.toNat = 0xED → b.toNat ≤ 0x9F) ∧
      (a.toNat = 0xF0 → 0x90 ≤ b.toNat) ∧ (a.toNat = 0xF4 → b.toNat ≤ 0x8F) ∧
      0x80 ≤ b.toNat ∧ b.toNat ≤ 0xBF := by
  simp only [secondFits, isContinuation, beq_iff_eq, ← UInt8.toNat_inj, UInt8.le_iff_toNat_le,
    UInt8.toNat_ofNat]
  by_cases h0 : a.toNat = 0xE0 <;> by_cases h1 : a.toNat = 0xED <;> by_cases h2 : a.toNat = 0xF0 <;>
    by_cases h3 : a.toNat = 0xF4 <;> simp [h0, h1, h2, h3] <;> omega

theorem step_one {b : UInt8} (hb : b.toNat < 0x80) (rest : List UInt8) : step (b :: rest) = .ok 1 := by
  have hw : width b = 1 := by rw [width_eq, if_pos hb]
  simp [step, hw]

theorem step_two {b c : UInt8} (hb : 0xC2 ≤ b.toNat ∧ b.toNat ≤ 0xDF) (hc : isContinuation c = true)
    (rest : List UInt8) : step (b :: c :: rest) = .ok 2 := by
  have hw : width b = 2 := by rw [width_eq, if_neg (by omega), if_pos hb]
  simp [step, hw, hc]

theorem step_three {b c d : UInt8} (hb : 0xE0 ≤ b.toNat ∧ b.toNat ≤ 0xEF) (hc : secondFits b c = true)
    (hd : isContinuation d = true) (rest : List UInt8) : step (b :: c :: d :: rest) = .ok 3 := by
  have hw : width b = 3 := by rw [width_eq, if_neg (by omega), if_neg (by omega), if_pos hb]
  simp [step, hw, hc, hd]

theorem step_four {b c d e : UInt8} (hb : 0xF0 ≤ b.toNat ∧ b.toNat ≤ 0xF4) (hc : secondFits b c = true)
    (hd : isContinuation d = true) (he : isContinuation e = true) (rest : List UInt8) :
    step (b :: c :: d :: e :: rest) = .ok 4 := by
  have hw : width b = 4 := by
    rw [width_eq, if_neg (by omega), if_neg (by omega), if_neg (by omega), if_pos hb]
  simp [step, hw, hc, hd, he]

theorem toNat_valid (c : Char) : c.toNat < 0xD800 ∨ (0xDFFF < c.toNat ∧ c.toNat < 0x110000) := by
  simpa [UInt32.isValidChar, Nat.isValidChar] using c.valid

theorem step_utf8EncodeChar (c : Char) (rest : List UInt8) :
    step (String.utf8EncodeChar c ++ rest) = .ok (String.utf8EncodeChar c).length := by
  have hc := toNat_valid c
  have hv : c.val.toNat = c.toNat := rfl
  unfold String.utf8EncodeChar
  simp only [hv]
  -- one case per encoded length; the surrogate gap is what keeps 0xED's second byte low
  split
  · exact step_one (by simp; omega) rest
  split
  · refine step_two ?_ (isContinuation_iff.2 ?_) rest <;> simp <;> omega
  split
  · refine step_three ?_ (secondFits_iff.2 ?_) (isContinuation_iff.2 ?_) rest <;> simp <;> omega
  · refine step_four ?_ (secondFits_iff.2 ?_) (isContinuation_iff.2 ?_) (isContinuation_iff.2 ?_) rest <;>
      simp <;> omega

theorem firstFault_flatMap (cs : List Char) (done : Nat) :
    firstFault done (cs.flatMap String.utf8EncodeChar) = none := by
  induction cs generalizing done with
  | nil => simp [firstFault]
  | cons c cs ih =>
    obtain ⟨b, bs, hbs⟩ := List.exists_cons_of_ne_nil (@String.utf8EncodeChar_ne_nil c)
    have hstep := step_utf8EncodeChar c (cs.flatMap String.utf8EncodeChar)
    rw [hbs] at hstep
    rw [List.flatMap_cons, hbs, List.cons_append, firstFault, ← List.cons_append, hstep]
    simpa using ih _

/-- Decoding a string's bytes gives the string back. -/
theorem decodeUtf8_toUTF8 (s : String) : decodeUtf8 s.toUTF8.toList = .ok s := by
  rw [decodeUtf8, toList_toUTF8, firstFault_flatMap]
  have hb : ByteArray.mk (s.toList.flatMap String.utf8EncodeChar).toArray = s.toList.utf8Encode :=
    ByteArray.ext (by simp [List.utf8Encode, List.data_toByteArray])
  rw [hb, Json.fromUTF8?_utf8Encode, String.ofList_toList]
  rfl

end NativeBridge.Text
