import NativeBridge.Json.Writer
import NativeBridge.Proofs.Scanning

/-!
A quoted string reads back as itself.

`quote` writes each character of a string on its own: the quote, the backslash and the control
characters as escapes, every other character as its UTF-8 bytes, none of which is a quote, a
backslash or a control byte. The string reader copies runs of such bytes and resolves each
escape to the bytes of its character, so it collects the UTF-8 bytes of the string, which decode
back to it (`Scan.Reads.quoted`).
-/

namespace NativeBridge.Json

/-- The bytes of a string's characters inside quotes. -/
def escaped (cs : List Char) : List UInt8 := cs.flatMap fun c => bytesOf (escapeChar c)

theorem bytesOf_foldl (cs : List Char) (acc : String) :
    bytesOf (cs.foldl (fun acc c => acc ++ escapeChar c) acc) = bytesOf acc ++ escaped cs := by
  induction cs generalizing acc with
  | nil => simp [escaped]
  | cons c cs ih => simp [escaped, ih, bytesOf_append]

theorem bytesOf_quote (s : String) : bytesOf (quote s) = 34 :: escaped s.toList ++ [34] := by
  rw [quote, bytesOf_append, bytesOf_append, String.foldl_eq_foldl_toList, bytesOf_foldl]
  rfl

theorem bytesOf_singleton (c : Char) : bytesOf (String.singleton c) = String.utf8EncodeChar c := by
  simp [bytesOf, String.toByteArray_singleton, List.utf8Encode_singleton, List.data_toByteArray]

def IsPlain (b : UInt8) : Prop := (b == 34 || b == 92 || b < 32) = false

def Char.IsPlain (c : Char) : Prop := c ≠ '"' ∧ c ≠ '\\' ∧ 0x20 ≤ c.toNat

theorem escapeChar_plain {c : Char} (h : Char.IsPlain c) : escapeChar c = String.singleton c := by
  obtain ⟨h1, h2, h3⟩ := h
  have h4 : ¬c.toNat < 32 := by omega
  unfold escapeChar
  split
  case h_8 => exact if_neg h4
  all_goals simp_all

theorem isPlain_iff {b : UInt8} : IsPlain b ↔ 32 ≤ b.toNat ∧ b.toNat ≠ 34 ∧ b.toNat ≠ 92 := by
  simp only [IsPlain, Bool.or_eq_false_iff, beq_eq_false_iff_ne, decide_eq_false_iff_not, ne_eq,
    ← UInt8.toNat_inj, UInt8.lt_iff_toNat_lt, UInt8.toNat_ofNat]
  omega

theorem utf8EncodeChar_high {c : Char} (hc : 0x7f < c.toNat) : ∀ b ∈ String.utf8EncodeChar c, 128 ≤ b.toNat := by
  have hv : c.val.toNat = c.toNat := rfl
  unfold String.utf8EncodeChar
  simp only [hv]
  intro b hb
  -- every byte but an ASCII character's is a lead or continuation byte, at least 0x80
  split at hb
  · omega
  split at hb
  · simp only [List.mem_cons, List.not_mem_nil, or_false] at hb
    rcases hb with rfl | rfl <;> simp <;> omega
  split at hb
  · simp only [List.mem_cons, List.not_mem_nil, or_false] at hb
    rcases hb with rfl | rfl | rfl <;> simp <;> omega
  · simp only [List.mem_cons, List.not_mem_nil, or_false] at hb
    rcases hb with rfl | rfl | rfl | rfl <;> simp <;> omega

theorem utf8EncodeChar_low {c : Char} (hc : c.toNat ≤ 0x7f) : String.utf8EncodeChar c = [UInt8.ofNat c.toNat] := by
  unfold String.utf8EncodeChar
  simp [show c.val.toNat = c.toNat from rfl, hc]

theorem isPlain_of_plain {c : Char} (h : Char.IsPlain c) : ∀ b ∈ String.utf8EncodeChar c, IsPlain b := by
  obtain ⟨h1, h2, h3⟩ := h
  intro b hb
  rw [isPlain_iff]
  by_cases hc : c.toNat ≤ 0x7f
  · rw [utf8EncodeChar_low hc, List.mem_singleton] at hb
    subst hb
    have h1' : c.toNat ≠ 34 := fun h => h1 (Char.toNat_inj.1 h)
    have h2' : c.toNat ≠ 92 := fun h => h2 (Char.toNat_inj.1 h)
    rw [UInt8.toNat_ofNat']
    omega
  · have := utf8EncodeChar_high (by omega) b hb
    omega

theorem le_plainEnd (t : ByteArray) (i : Nat) : i ≤ plainEnd t i := by
  fun_induction plainEnd t i <;> omega

theorem plainEnd_plain {b : UInt8} (hb : IsPlain b) (pre rest : List UInt8) :
    plainEnd (pre ++ b :: rest).toByteArray pre.length = plainEnd (pre ++ b :: rest).toByteArray (pre.length + 1) := by
  rw [plainEnd, dif_pos (size_toByteArray_at pre rest b)]
  simp only [getElem_toByteArray_at]
  rw [IsPlain] at hb
  rw [hb]
  rfl

theorem plainEnd_stop {b : UInt8} (hb : ¬IsPlain b) (pre rest : List UInt8) :
    plainEnd (pre ++ b :: rest).toByteArray pre.length = pre.length := by
  rw [plainEnd, dif_pos (size_toByteArray_at pre rest b)]
  simp only [getElem_toByteArray_at]
  rw [IsPlain, Bool.not_eq_false] at hb
  rw [hb]
  rfl

theorem push_eq_append (acc : ByteArray) (b : UInt8) : acc.push b = acc ++ [b].toByteArray := by
  apply ByteArray.ext
  simp [ByteArray.data_push]

theorem stringBody_plain {b : UInt8} (hb : IsPlain b) (pre rest : List UInt8) (fuel : Nat) (acc : ByteArray) :
    stringBody (pre ++ b :: rest).toByteArray true (fuel + 1) pre.length acc =
      stringBody (pre ++ b :: rest).toByteArray true (fuel + 1) (pre.length + 1) (acc.push b) := by
  have hacc : acc ++ (pre ++ b :: rest).toByteArray.extract pre.length
      (plainEnd (pre ++ b :: rest).toByteArray (pre.length + 1)) =
      acc.push b ++ (pre ++ b :: rest).toByteArray.extract (pre.length + 1)
        (plainEnd (pre ++ b :: rest).toByteArray (pre.length + 1)) := by
    rw [ByteArray.extract_eq_extract_append_extract (pre.length + 1) (Nat.le_succ _) (le_plainEnd _ _),
      ByteArray.extract_add_one (size_toByteArray_at pre rest b), getElem_toByteArray_at, push_eq_append,
      ByteArray.append_assoc]
  rw [stringBody, stringBody, plainEnd_plain hb]
  simp only [↓reduceIte]
  rw [hacc]

theorem stringBody_run {run : List UInt8} (hrun : ∀ b ∈ run, IsPlain b) (pre rest : List UInt8) (fuel : Nat)
    (acc : ByteArray) :
    stringBody (pre ++ (run ++ rest)).toByteArray true (fuel + 1) pre.length acc =
      stringBody (pre ++ (run ++ rest)).toByteArray true (fuel + 1) (pre.length + run.length) (acc ++ run.toByteArray) := by
  induction run generalizing pre acc with
  | nil => simp
  | cons b run ih =>
    have hstep := stringBody_plain (hrun b List.mem_cons_self) pre (run ++ rest) fuel acc
    have hrest := ih (fun x hx => hrun x (List.mem_cons_of_mem _ hx)) (pre ++ [b]) (acc.push b)
    simp only [List.append_assoc, List.cons_append, List.nil_append, List.length_append, List.length_cons,
      List.length_nil] at hrest
    rw [List.cons_append, hstep, hrest, push_eq_append, ByteArray.append_assoc, ← List.toByteArray_append]
    simp only [List.length_cons, List.singleton_append, Nat.add_assoc, Nat.add_comm 1]

theorem hexDigit_ascii : ∀ k < 16, ((Nat.toDigits 16 k).headD '0').toNat ≤ 0x7f ∧
    hexValue (UInt8.ofNat ((Nat.toDigits 16 k).headD '0').toNat) = some k := by
  decide

theorem bytesOf_hex2 {n : Nat} (hn : n < 0x20) :
    ∃ a b, bytesOf (hex2 n) = [a, b] ∧ hexValue a = some (n / 16) ∧ hexValue b = some (n % 16) := by
  obtain ⟨ha, ha'⟩ := hexDigit_ascii (n / 16) (by omega)
  obtain ⟨hb, hb'⟩ := hexDigit_ascii (n % 16) (by omega)
  refine ⟨_, _, ?_, ha', hb'⟩
  simp only [List.headD_eq_head?_getD] at ha hb ⊢
  simp [hex2, bytesOf, List.utf8Encode, List.data_toByteArray, utf8EncodeChar_low ha, utf8EncodeChar_low hb]

theorem hexValue_zero : hexValue 48 = some 0 := by decide

theorem hex4_at {d₁ d₂ d₃ d₄ : UInt8} {v₁ v₂ v₃ v₄ : Nat} (h₁ : hexValue d₁ = some v₁) (h₂ : hexValue d₂ = some v₂)
    (h₃ : hexValue d₃ = some v₃) (h₄ : hexValue d₄ = some v₄) (pre rest : List UInt8) :
    hex4 (pre ++ d₁ :: d₂ :: d₃ :: d₄ :: rest).toByteArray pre.length =
      .ok (((v₁ * 16 + v₂) * 16 + v₃) * 16 + v₄, pre.length + 4) := by
  have hb (k : Nat) (hk : k < (d₁ :: d₂ :: d₃ :: d₄ :: rest).length) :=
    byteAt_append pre (d₁ :: d₂ :: d₃ :: d₄ :: rest) k hk
  have e0 := hb 0 (by simp)
  have e1 := hb 1 (by simp)
  have e2 := hb 2 (by simp)
  have e3 := hb 3 (by simp)
  simp only [Nat.add_zero, List.getElem_cons_zero, List.getElem_cons_succ] at e0 e1 e2 e3
  rw [hex4, if_pos (by simp [List.size_toByteArray]), e0, e1, e2, e3, h₁, h₂, h₃, h₄]

theorem escape_unicode {c : Char} (hc : c.toNat < 0x20) (pre rest : List UInt8) (acc : ByteArray) :
    escape (pre ++ (bytesOf ("u00" ++ hex2 c.toNat) ++ rest)).toByteArray true pre.length acc =
      .ok (acc ++ [c].utf8Encode, pre.length + (bytesOf ("u00" ++ hex2 c.toNat)).length) := by
  obtain ⟨a, b, hab, ha, hb⟩ := bytesOf_hex2 hc
  have hcode : bytesOf ("u00" ++ hex2 c.toNat) = [117, 48, 48, a, b] := by rw [bytesOf_append, hab]; rfl
  rw [hcode]
  simp only [List.cons_append, List.nil_append]
  rw [escape, dif_pos (size_toByteArray_at pre _ 117), getElem_toByteArray_at]
  change unicodeEscape _ true (pre.length + 1) acc = _
  have hpre : (pre ++ 117 :: 48 :: 48 :: a :: b :: rest) = (pre ++ [117]) ++ 48 :: 48 :: a :: b :: rest := by simp
  have h4 := hex4_at hexValue_zero hexValue_zero ha hb (pre ++ [117]) rest
  have hn : ((0 * 16 + 0) * 16 + c.toNat / 16) * 16 + c.toNat % 16 = c.toNat := by omega
  rw [← hpre, List.length_append, List.length_singleton, hn] at h4
  have hlow : ¬(0xDC00 ≤ c.toNat ∧ c.toNat ≤ 0xDFFF) := by omega
  have hbmp : c.toNat < 0xD800 ∨ 0xDBFF < c.toNat := by omega
  unfold unicodeEscape
  rw [h4]
  simp only [bind, Except.bind, Bool.not_true, Bool.false_eq_true, ↓reduceIte, hlow, hbmp, pure, Except.pure]
  rw [utf8, Char.ofNat_toNat, String.toUTF8_eq_toByteArray, String.toByteArray_singleton]
  rfl

theorem escape_escapeChar {c : Char} (hc : ¬Char.IsPlain c) :
    ∃ code, bytesOf (escapeChar c) = 92 :: code ∧ ∀ pre rest acc,
      escape (pre ++ (code ++ rest)).toByteArray true pre.length acc = .ok (acc ++ [c].utf8Encode, pre.length + code.length) := by
  unfold escapeChar
  split
  case h_8 h1 h2 _ _ _ _ _ =>
    have hlt : c.toNat < 0x20 := by
      simp only [Char.IsPlain, not_and, Nat.not_le] at hc
      exact hc h1 h2
    rw [if_pos hlt]
    refine ⟨bytesOf ("u00" ++ hex2 c.toNat), by rw [bytesOf_append, bytesOf_append]; rfl, fun pre rest acc => ?_⟩
    exact escape_unicode hlt pre rest acc
  -- the short escapes: one letter after the backslash
  case' h_1 => refine ⟨[34], rfl, ?_⟩
  case' h_2 => refine ⟨[92], rfl, ?_⟩
  case' h_3 => refine ⟨[98], rfl, ?_⟩
  case' h_4 => refine ⟨[116], rfl, ?_⟩
  case' h_5 => refine ⟨[110], rfl, ?_⟩
  case' h_6 => refine ⟨[102], rfl, ?_⟩
  case' h_7 => refine ⟨[114], rfl, ?_⟩
  all_goals
    intro pre rest acc
    rw [List.singleton_append, escape, dif_pos (size_toByteArray_at pre _ _), getElem_toByteArray_at]
    simp only [push_eq_append]
    rfl

theorem escaped_cons (c : Char) (cs : List Char) : escaped (c :: cs) = bytesOf (escapeChar c) ++ escaped cs := rfl

theorem not_isPlain_quote : ¬IsPlain 34 := by rw [IsPlain]; decide

theorem not_isPlain_backslash : ¬IsPlain 92 := by rw [IsPlain]; decide

theorem stringBody_escaped (cs : List Char) : ∀ (pre post : List UInt8) (fuel : Nat) (acc : ByteArray),
    (escaped cs).length < fuel →
    stringBody (pre ++ (escaped cs ++ 34 :: post)).toByteArray true fuel pre.length acc =
      .ok (acc ++ cs.utf8Encode, pre.length + (escaped cs).length + 1) := by
  induction cs with
  | nil =>
    intro pre post fuel acc hfuel
    obtain ⟨f, rfl⟩ : ∃ f, fuel = f + 1 := ⟨fuel - 1, by simp [escaped] at hfuel; omega⟩
    simp only [escaped, List.flatMap_nil, List.nil_append]
    rw [stringBody, plainEnd_stop not_isPlain_quote, dif_pos (size_toByteArray_at pre post 34)]
    simp only [getElem_toByteArray_at, beq_self_eq_true, ↓reduceIte, ByteArray.extract_same, List.utf8Encode_nil,
      ByteArray.append_empty, List.length_nil, Nat.add_zero]
  | cons c cs ih =>
    intro pre post fuel acc hfuel
    obtain ⟨f, rfl⟩ : ∃ f, fuel = f + 1 := ⟨fuel - 1, by omega⟩
    by_cases hc : Char.IsPlain c
    · -- a plain character is copied byte by byte
      have hrun : escaped (c :: cs) = String.utf8EncodeChar c ++ escaped cs := by
        rw [escaped_cons, escapeChar_plain hc, bytesOf_singleton]
      rw [hrun] at hfuel ⊢
      rw [List.append_assoc, stringBody_run (isPlain_of_plain hc)]
      have := ih (pre ++ String.utf8EncodeChar c) post (f + 1) (acc ++ (String.utf8EncodeChar c).toByteArray)
        (by simp only [List.length_append] at hfuel; omega)
      simp only [List.append_assoc, List.length_append] at this
      rw [this, List.utf8Encode_cons, List.utf8Encode_singleton, ByteArray.append_assoc, List.length_append]
      simp only [Nat.add_assoc]
    · -- an escape is resolved to its character's bytes
      obtain ⟨code, hcode, hesc⟩ := escape_escapeChar hc
      rw [escaped_cons, hcode] at hfuel ⊢
      simp only [List.cons_append, List.append_assoc, List.length_cons, List.length_append] at hfuel ⊢
      rw [stringBody, plainEnd_stop not_isPlain_backslash, dif_pos (size_toByteArray_at pre _ 92)]
      have hne : ((92 : UInt8) == 34) = false := by decide
      have he := hesc (pre ++ [92]) (escaped cs ++ 34 :: post) acc
      have hi := ih (pre ++ 92 :: code) post f (acc ++ [c].utf8Encode) (by omega)
      simp only [List.append_assoc, List.cons_append, List.nil_append, List.length_append, List.length_cons,
        List.length_nil] at he hi
      simp only [getElem_toByteArray_at, ↓reduceIte, ByteArray.extract_same, ByteArray.append_empty, hne,
        beq_self_eq_true, Bool.false_eq_true]
      rw [he]
      dsimp only
      have hcons : (c :: cs).utf8Encode = [c].utf8Encode ++ cs.utf8Encode := List.utf8Encode_cons
      rw [show pre.length + (0 + 1) + code.length = pre.length + (code.length + 1) by omega, hi, hcons,
        ByteArray.append_assoc]
      congr 2
      omega

theorem fromUTF8?_utf8Encode (l : List Char) : String.fromUTF8? l.utf8Encode = some (String.ofList l) := by
  rw [String.fromUTF8?, dif_pos ByteArray.isValidUTF8_utf8Encode, Option.some.injEq, ← String.toByteArray_inj,
    String.toByteArray_ofList]
  rfl

theorem readString_escaped (s : String) (pre post : List UInt8) :
    readString (pre ++ (escaped s.toList ++ 34 :: post)).toByteArray pre.length =
      .ok (s, pre.length + (escaped s.toList).length + 1) := by
  have hfuel : (escaped s.toList).length < (pre ++ (escaped s.toList ++ 34 :: post)).toByteArray.size + 1 := by
    simp only [List.size_toByteArray, List.length_append, List.length_cons]
    omega
  rw [readString, stringBody_escaped s.toList pre post _ ByteArray.empty hfuel]
  simp only [ByteArray.empty_append, fromUTF8?_utf8Encode, String.ofList_toList, Option.getD_some]

namespace Scan

theorem Reads.lex_readString (s : String) : Reads (lex readString) (escaped s.toList ++ [34]) s := by
  intro pre post
  rw [exec_lex (by rw [List.append_assoc, List.singleton_append]; exact readString_escaped s pre post)]
  simp only [List.length_append, List.length_singleton, Nat.add_assoc]

theorem Reads.quoted (s : String) : Reads Scan.quoted (bytesOf (quote s)) s := by
  have h : bytesOf (quote s) = [34] ++ (escaped s.toList ++ [34]) := by rw [bytesOf_quote]; rfl
  rw [h]
  exact Reads.seq (Reads.bump 34) (Reads.lex_readString s)

end Scan

end NativeBridge.Json
