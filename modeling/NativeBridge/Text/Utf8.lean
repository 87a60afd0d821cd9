/-!
Checking and decoding UTF-8 bytes.

A byte sequence is well formed when it follows the UTF-8 grammar of RFC 3629:
no overlong forms, no surrogates, nothing above U+10FFFF. The first fault is
described by where the valid prefix ends and how many bytes the ill-formed
sequence there has; a sequence cut short by the end of the bytes has no length.
Lossy decoding replaces each ill-formed sequence by U+FFFD.
-/

namespace NativeBridge.Text

structure Utf8Fault where
  validUpTo : Nat
  length : Option Nat
  deriving DecidableEq, Repr

def Utf8Fault.message (f : Utf8Fault) : String :=
  match f.length with
  | some n => "invalid utf-8 sequence of " ++ toString n ++ " bytes from index " ++ toString f.validUpTo
  | none => "incomplete utf-8 byte sequence from index " ++ toString f.validUpTo

def isContinuation (b : UInt8) : Bool := 0x80 ≤ b && b ≤ 0xBF

def secondFits (lead b : UInt8) : Bool :=
  if lead == 0xE0 then 0xA0 ≤ b && b ≤ 0xBF
  else if lead == 0xED then 0x80 ≤ b && b ≤ 0x9F
  else if lead == 0xF0 then 0x90 ≤ b && b ≤ 0xBF
  else if lead == 0xF4 then 0x80 ≤ b && b ≤ 0x8F
  else isContinuation b

def width (b : UInt8) : Nat :=
  if b < 0x80 then 1
  else if 0xC2 ≤ b && b ≤ 0xDF then 2
  else if 0xE0 ≤ b && b ≤ 0xEF then 3
  else if 0xF0 ≤ b && b ≤ 0xF4 then 4
  else 0

def step : List UInt8 → Except (Option Nat) Nat
  | [] => .ok 0
  | b :: rest =>
    match width b, rest with
    | 1, _ => .ok 1
    | 2, [] => .error none
    | 2, c :: _ => if isContinuation c then .ok 2 else .error (some 1)
    | 3, [] => .error none
    | 3, c :: rest' =>
      if !secondFits b c then .error (some 1)
      else match rest' with
        | [] => .error none
        | d :: _ => if isContinuation d then .ok 3 else .error (some 2)
    | 4, [] => .error none
    | 4, c :: rest' =>
      if !secondFits b c then .error (some 1)
      else match rest' with
        | [] => .error none
        | d :: rest'' =>
          if !isContinuation d then .error (some 2)
          else match rest'' with
            | [] => .error none
            | e :: _ => if isContinuation e then .ok 4 else .error (some 3)
    | _, _ => .error (some 1)

def firstFault : Nat → List UInt8 → Option Utf8Fault
  | _, [] => none
  | done, b :: rest =>
    match step (b :: rest) with
    | .ok 0 => none
    | .ok (n + 1) => firstFault (done + n + 1) ((b :: rest).drop (n + 1))
    | .error len => some ⟨done, len⟩
termination_by _ bs => bs.length
decreasing_by simp only [List.length_drop, List.length_cons]; omega

def decodeUtf8 (bs : List UInt8) : Except Utf8Fault String :=
  match firstFault 0 bs with
  | some f => .error f
  | none => .ok ((String.fromUTF8? (ByteArray.mk bs.toArray)).getD "")

/-- Decode UTF-8, replacing each ill-formed sequence by U+FFFD and a sequence
cut short at the end by one U+FFFD. -/
def decodeLossy (bs : List UInt8) : String :=
  go bs.length bs ""
where
  go : Nat → List UInt8 → String → String
    | 0, _, acc => acc
    | fuel + 1, bs, acc =>
      match firstFault 0 bs with
      | none => acc ++ (String.fromUTF8? (ByteArray.mk bs.toArray)).getD ""
      | some f =>
        let good := (String.fromUTF8? (ByteArray.mk (bs.take f.validUpTo).toArray)).getD ""
        let rest := match f.length with
          | some l => bs.drop (f.validUpTo + l)
          | none => []
        go fuel rest (acc ++ good ++ "�")

end NativeBridge.Text
