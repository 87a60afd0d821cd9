/-!
JSON documents as the interchange layer reads them.

A number keeps the class the reader gave it: an unsigned or a negative 64-bit
integer, or a binary64 float held by its bits, so that writing it back gives the
same text class. Objects are lists of fields in the order they were built.
-/

namespace NativeBridge

/-- A JSON number: an integer that fits 64 bits unsigned, a negative integer that
fits 64 bits signed, or a finite binary64 float given by its bits. -/
inductive Json.Number where
  | nat (n : UInt64)
  | neg (n : Int64)
  | float (bits : UInt64)
  deriving DecidableEq, Inhabited

inductive Json where
  | null
  | bool (b : Bool)
  | num (n : Json.Number)
  | str (s : String)
  | arr (items : List Json)
  | obj (fields : List (String × Json))
  deriving Inhabited

namespace Json

def get? : Json → String → Option Json
  | .obj fields, key => (fields.find? (·.1 == key)).map (·.2)
  | _, _ => none

def has : Json → String → Bool
  | .obj fields, key => fields.any (·.1 == key)
  | _, _ => false

def ofNat (n : Nat) : Json := .num (.nat n.toUInt64)

def ofInt (i : Int) : Json :=
  if i < 0 then .num (.neg (Int64.ofInt i)) else .num (.nat i.toNat.toUInt64)

def ofOption : Option Json → Json
  | some j => j
  | none => .null

def strs (xs : List String) : Json := .arr (xs.map .str)

def Number.toInt? : Number → Option Int
  | .nat n => some n.toNat
  | .neg n => some n.toInt
  | .float _ => none

end Json

end NativeBridge
