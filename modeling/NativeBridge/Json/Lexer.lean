import NativeBridge.Json.Basic
import NativeBridge.Json.Fault

/-!
The lexical level of the JSON reader, over the UTF-8 bytes of a text.

Each scanner starts at a byte index and returns what it read with the index
just past it, or a fault with the index whose position the fault reports.
Strings are read with their escapes resolved, or skipped; numbers are read into
their class (unsigned, negative, float) or skipped; `skipValue` passes over a
whole value of any shape without building it.
-/

namespace NativeBridge.Json

abbrev Lexed (α : Type) := Except (SyntaxFault × Nat) (α × Nat)

def byteAt (t : ByteArray) (i : Nat) : UInt8 :=
  if h : i < t.size then t[i] else 0

def isBlank (b : UInt8) : Bool := b == 32 || b == 10 || b == 9 || b == 13

def skipBlank (t : ByteArray) (i : Nat) : Nat :=
  if h : i < t.size then
    if isBlank t[i] then skipBlank t (i + 1) else i
  else i
termination_by t.size - i

def isDigit (b : UInt8) : Bool := 48 ≤ b && b ≤ 57

def digitValue (b : UInt8) : Nat := (b - 48).toNat

def skipDigits (t : ByteArray) (i : Nat) : Nat :=
  if h : i < t.size then
    if isDigit t[i] then skipDigits t (i + 1) else i
  else i
termination_by t.size - i

def plainEnd (t : ByteArray) (i : Nat) : Nat :=
  if h : i < t.size then
    let b := t[i]
    if b == 34 || b == 92 || b < 32 then i else plainEnd t (i + 1)
  else i
termination_by t.size - i

def hexValue (b : UInt8) : Option Nat :=
  if 48 ≤ b ∧ b ≤ 57 then some (b - 48).toNat
  else if 97 ≤ b ∧ b ≤ 102 then some (b - 87).toNat
  else if 65 ≤ b ∧ b ≤ 70 then some (b - 55).toNat
  else none

def hex4 (t : ByteArray) (i : Nat) : Lexed Nat :=
  if i + 4 ≤ t.size then
    match hexValue (byteAt t i), hexValue (byteAt t (i + 1)),
        hexValue (byteAt t (i + 2)), hexValue (byteAt t (i + 3)) with
    | some a, some b, some c, some d => .ok (((a * 16 + b) * 16 + c) * 16 + d, i + 4)
    | _, _, _, _ => .error (.invalidEscape, i + 4)
  else .error (.eofWhileParsingString, t.size)

def utf8 (cp : Nat) : ByteArray := (String.singleton (Char.ofNat cp)).toUTF8

def unicodeEscape (t : ByteArray) (keep : Bool) (i : Nat) (acc : ByteArray) :
    Except (SyntaxFault × Nat) (ByteArray × Nat) := do
  let (n, i1) ← hex4 t i
  if !keep then return (acc, i1)
  if 0xDC00 ≤ n ∧ n ≤ 0xDFFF then throw (.loneLeadingSurrogateInHexEscape, i1)
  if n < 0xD800 ∨ 0xDBFF < n then return (acc ++ utf8 n, i1)
  if t.size ≤ i1 then throw (.eofWhileParsingString, t.size)
  if byteAt t i1 != 92 then throw (.unexpectedEndOfHexEscape, i1 + 1)
  if t.size ≤ i1 + 1 then throw (.eofWhileParsingString, t.size)
  if byteAt t (i1 + 1) != 117 then throw (.unexpectedEndOfHexEscape, i1 + 2)
  let (n2, i2) ← hex4 t (i1 + 2)
  if n2 < 0xDC00 ∨ 0xDFFF < n2 then throw (.loneLeadingSurrogateInHexEscape, i2)
  return (acc ++ utf8 ((((n - 0xD800) <<< 10) ||| (n2 - 0xDC00)) + 0x10000), i2)

def escape (t : ByteArray) (keep : Bool) (i : Nat) (acc : ByteArray) : Lexed ByteArray :=
  if h : i < t.size then
    match t[i] with
    | 34 => .ok (acc.push 34, i + 1)
    | 92 => .ok (acc.push 92, i + 1)
    | 47 => .ok (acc.push 47, i + 1)
    | 98 => .ok (acc.push 8, i + 1)
    | 102 => .ok (acc.push 12, i + 1)
    | 110 => .ok (acc.push 10, i + 1)
    | 114 => .ok (acc.push 13, i + 1)
    | 116 => .ok (acc.push 9, i + 1)
    | 117 => unicodeEscape t keep (i + 1) acc
    | _ => .error (.invalidEscape, i + 1)
  else .error (.eofWhileParsingString, i)

def stringBody (t : ByteArray) (keep : Bool) : Nat → Nat → ByteArray → Lexed ByteArray
  | 0, _, _ => .error (.eofWhileParsingString, t.size)
  | fuel + 1, i, acc =>
    let j := plainEnd t i
    let acc := if keep then acc ++ t.extract i j else acc
    if h : j < t.size then
      let b := t[j]
      if b == 34 then .ok (acc, j + 1)
      else if b == 92 then
        match escape t keep (j + 1) acc with
        | .ok (acc', i') => stringBody t keep fuel i' acc'
        | .error e => .error e
      else .error (.controlCharacterWhileParsingString, if keep then j + 1 else j)
    else .error (.eofWhileParsingString, t.size)

/-- A string with `i` just past its opening quote. -/
def readString (t : ByteArray) (i : Nat) : Lexed String :=
  match stringBody t true (t.size + 1) i ByteArray.empty with
  | .ok (bytes, j) => .ok ((String.fromUTF8? bytes).getD "", j)
  | .error e => .error e

def skipString (t : ByteArray) (i : Nat) : Except (SyntaxFault × Nat) Nat :=
  (stringBody t false (t.size + 1) i ByteArray.empty).map (·.2)

def keyword (t : ByteArray) : Nat → List UInt8 → Except (SyntaxFault × Nat) Nat
  | i, [] => .ok i
  | i, b :: bs =>
    if t.size ≤ i then .error (.eofWhileParsingValue, i)
    else if byteAt t i != b then .error (.expectedSomeIdent, i + 1)
    else keyword t (i + 1) bs

def overflows (a d bound : Nat) : Bool := bound / 10 ≤ a && (bound / 10 < a || bound % 10 < d)

def u64Max : Nat := Nat.pow 2 64 - 1

def i32Max : Nat := Nat.pow 2 31 - 1

def clampI32 (x : Int) : Int := max (-(Int.pow 2 31)) (min (Int.pow 2 31 - 1) x)

def floatOf (positive : Bool) (sig : Nat) (e : Int) (i : Nat) : Lexed Number :=
  match Decimal.ofParts positive sig.toUInt64 e with
  | some f => .ok (.float f.toBits, i)
  | none => .error (.numberOutOfRange, i)

def zeroBits (positive : Bool) : UInt64 := if positive then 0 else 0x8000000000000000

def exponentDigits (t : ByteArray) (positive : Bool) (sig : Nat) (e0 : Int) (up : Bool)
    (exp : Nat) (i : Nat) : Lexed Number :=
  if h : i < t.size then
    if isDigit t[i] then
      let d := digitValue t[i]
      if overflows exp d i32Max then
        if sig ≠ 0 ∧ up then .error (.numberOutOfRange, i + 1)
        else .ok (.float (zeroBits positive), skipDigits t (i + 1))
      else exponentDigits t positive sig e0 up (exp * 10 + d) (i + 1)
    else floatOf positive sig (clampI32 (if up then e0 + exp else e0 - exp)) i
  else floatOf positive sig (clampI32 (if up then e0 + exp else e0 - exp)) i
termination_by t.size - i

def exponentPart (t : ByteArray) (positive : Bool) (sig : Nat) (e0 : Int) (i : Nat) : Lexed Number :=
  let i := i + 1
  let (up, i) :=
    if byteAt t i == 43 then (true, i + 1) else if byteAt t i == 45 then (false, i + 1) else (true, i)
  if t.size ≤ i then .error (.eofWhileParsingValue, i)
  else if !isDigit (byteAt t i) then .error (.invalidNumber, i + 1)
  else exponentDigits t positive sig e0 up (digitValue (byteAt t i)) (i + 1)

def afterDigits (t : ByteArray) (positive : Bool) (sig : Nat) (e : Int) (i : Nat) : Lexed Number :=
  let b := byteAt t i
  if b == 101 || b == 69 then exponentPart t positive sig e i else floatOf positive sig e i

def fractionDigits (t : ByteArray) (positive : Bool) (sig : Nat) (e0 : Int) (after : Nat)
    (i : Nat) : Lexed Number :=
  if h : i < t.size then
    if isDigit t[i] then
      let d := digitValue t[i]
      if overflows sig d u64Max then
        afterDigits t positive sig (e0 - after) (skipDigits t i)
      else fractionDigits t positive (sig * 10 + d) e0 (after + 1) (i + 1)
    else if after = 0 then .error (.invalidNumber, i + 1)
    else afterDigits t positive sig (e0 - after) i
  else if after = 0 then .error (.eofWhileParsingValue, t.size)
  else afterDigits t positive sig (e0 - after) i
termination_by t.size - i

def longDigits (t : ByteArray) (positive : Bool) (sig : Nat) (e : Nat) (i : Nat) : Lexed Number :=
  if h : i < t.size then
    let b := t[i]
    if isDigit b then longDigits t positive sig (e + 1) (i + 1)
    else if b == 46 then fractionDigits t positive sig e 0 (i + 1)
    else afterDigits t positive sig e i
  else floatOf positive sig e i
termination_by t.size - i

def integerEnd (t : ByteArray) (positive : Bool) (sig : Nat) (i : Nat) : Lexed Number :=
  let b := byteAt t i
  if b == 46 then fractionDigits t positive sig 0 0 (i + 1)
  else if b == 101 || b == 69 then exponentPart t positive sig 0 i
  else if positive then .ok (.nat sig.toUInt64, i)
  else if sig = 0 ∨ Nat.pow 2 63 < sig then .ok (.float (-(sig.toUInt64.toFloat)).toBits, i)
  else .ok (.neg (Int64.ofInt (-(sig : Int))), i)

def integerDigits (t : ByteArray) (positive : Bool) (sig : Nat) (i : Nat) : Lexed Number :=
  if h : i < t.size then
    if isDigit t[i] then
      let d := digitValue t[i]
      if overflows sig d u64Max then longDigits t positive sig 0 i
      else integerDigits t positive (sig * 10 + d) (i + 1)
    else integerEnd t positive sig i
  else integerEnd t positive sig i
termination_by t.size - i

/-- A number with `i` at its first digit, its sign already read. -/
def readNumber (t : ByteArray) (positive : Bool) (i : Nat) : Lexed Number :=
  if h : i < t.size then
    let c := t[i]
    if c == 48 then
      if isDigit (byteAt t (i + 1)) then .error (.invalidNumber, min t.size (i + 2))
      else integerEnd t positive 0 (i + 1)
    else if isDigit c then integerDigits t positive (digitValue c) (i + 1)
    else .error (.invalidNumber, i + 1)
  else .error (.eofWhileParsingValue, i)

def skipExponent (t : ByteArray) (i : Nat) : Except (SyntaxFault × Nat) Nat :=
  let i := i + 1
  let i := if byteAt t i == 43 || byteAt t i == 45 then i + 1 else i
  if isDigit (byteAt t i) then .ok (skipDigits t (i + 1))
  else .error (.invalidNumber, if i < t.size then i + 1 else i)

def skipNumber (t : ByteArray) (i : Nat) : Except (SyntaxFault × Nat) Nat := do
  let c := byteAt t i
  let i' := if i < t.size then i + 1 else i
  let j ←
    if c == 48 then
      if isDigit (byteAt t i') then throw (.invalidNumber, min t.size (i' + 1)) else pure i'
    else if isDigit c then pure (skipDigits t i')
    else throw (.invalidNumber, i')
  let b := byteAt t j
  if b == 46 then
    let k := skipDigits t (j + 1)
    if k = j + 1 then throw (.invalidNumber, min t.size (k + 1))
    let b := byteAt t k
    if b == 101 || b == 69 then skipExponent t k else pure k
  else if b == 101 || b == 69 then skipExponent t j
  else pure j

inductive SkipMode where
  | value
  | after (acceptComma : Bool)
  | key

def eofInside (frame : UInt8) : SyntaxFault :=
  if frame == 91 then .eofWhileParsingList else .eofWhileParsingObject

/-- Pass over a value without building it. `stack` holds the open brackets,
innermost first. Nesting is not limited. -/
def skipValue (t : ByteArray) : Nat → Nat → List UInt8 → SkipMode → Except (SyntaxFault × Nat) Nat
  | 0, _, _, _ => .error (.eofWhileParsingValue, t.size)
  | fuel + 1, i, stack, .value =>
    let i := skipBlank t i
    let done (j : Nat) := if stack.isEmpty then .ok j else skipValue t fuel j stack (.after true)
    if h : i < t.size then
      match t[i] with
      | 110 => keyword t (i + 1) [117, 108, 108] >>= done
      | 116 => keyword t (i + 1) [114, 117, 101] >>= done
      | 102 => keyword t (i + 1) [97, 108, 115, 101] >>= done
      | 45 => skipNumber t (i + 1) >>= done
      | 34 => skipString t (i + 1) >>= done
      | 91 => skipValue t fuel (i + 1) (91 :: stack) (.after false)
      | 123 => skipValue t fuel (i + 1) (123 :: stack) (.after false)
      | b => if isDigit b then skipNumber t i >>= done else .error (.expectedSomeValue, i + 1)
    else .error (.eofWhileParsingValue, t.size)
  | fuel + 1, i, stack, .after accept =>
    match stack with
    | [] => .ok i
    | frame :: rest =>
      let i := skipBlank t i
      if h : i < t.size then
        let c := t[i]
        if c == 44 && accept then skipValue t fuel (i + 1) stack .key
        else if (c == 93 && frame == 91) || (c == 125 && frame == 123) then
          if rest.isEmpty then .ok (i + 1) else skipValue t fuel (i + 1) rest (.after true)
        else if accept then
          .error (if frame == 91 then .expectedListCommaOrEnd else .expectedObjectCommaOrEnd, i + 1)
        else skipValue t fuel i stack .key
      else .error (eofInside frame, t.size)
  | fuel + 1, i, stack, .key =>
    match stack with
    | 123 :: _ =>
      let i := skipBlank t i
      if t.size ≤ i then .error (.eofWhileParsingObject, t.size)
      else if byteAt t i != 34 then .error (.keyMustBeAString, i + 1)
      else do
        let j ← skipString t (i + 1)
        let j := skipBlank t j
        if t.size ≤ j then throw (.eofWhileParsingObject, t.size)
        if byteAt t j != 58 then throw (.expectedColon, j + 1)
        skipValue t fuel (j + 1) stack .value
    | _ => skipValue t fuel i stack .value

end NativeBridge.Json
