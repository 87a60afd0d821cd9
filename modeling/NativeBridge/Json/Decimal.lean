/-!
Decimal text of binary64 numbers.

Reading: a decimal significand that fits 64 bits and a power of ten are combined
by one rounding of the significand and one multiplication or division by a
correctly rounded power of ten from `1e0` to `1e308`; exponents past the table
divide by `1e308` until the table is reached. This is the reader's fast method
and it is not always correctly rounded, so it is kept exactly.

Writing: the fewest significant digits that read back to the same float (the
nearest such digits when several qualify, the even ones on a tie), set out
positionally when the decimal point falls within sixteen digits of the first
one and otherwise with a signed exponent.
-/

namespace NativeBridge.Json.Decimal

def pow10 (k : Nat) : Float := Float.ofScientific 1 false k

def combine (f : Float) (e : Int) : Option Float :=
  if e.natAbs ≤ 308 then
    if 0 ≤ e then
      let g := f * pow10 e.natAbs
      if g.isInf then none else some g
    else some (f / pow10 e.natAbs)
  else if f == 0.0 then some f
  else if 0 ≤ e then none
  else combine (f / pow10 308) (e + 308)
termination_by e.natAbs
decreasing_by omega

def ofParts (positive : Bool) (significand : UInt64) (exponent : Int) : Option Float :=
  (combine significand.toFloat exponent).map fun f => if positive then f else -f

def digitCount (n : Nat) : Nat := (Nat.toDigits 10 n).length

structure Split where
  m : Nat
  e : Int
  below : Nat
  above : Nat

def split (bits : UInt64) : Split :=
  let frac := (bits &&& 0xFFFFFFFFFFFFF).toNat
  let biased := ((bits >>> 52) &&& 0x7FF).toNat
  if biased = 0 then ⟨frac, -1074, 2, 2⟩
  else
    let m := frac + Nat.pow 2 52
    let e : Int := (biased : Int) - 1075
    -- at the bottom of a binade the float below is half as far away
    if frac = 0 ∧ biased > 1 then ⟨m, e, 1, 2⟩ else ⟨m, e, 2, 2⟩

def compareScaled (a : Nat) (x : Int) (b : Nat) (y : Int) : Ordering :=
  let lhs := a * Nat.pow 2 x.toNat * Nat.pow 10 (-y).toNat
  let rhs := b * Nat.pow 10 y.toNat * Nat.pow 2 (-x).toNat
  compare lhs rhs

def floorLog10 (m : Nat) (e : Int) : Int :=
  if 0 ≤ e then (digitCount (m * Nat.pow 2 e.toNat) : Int) - 1
  else
    let q := (-e).toNat
    if Nat.pow 2 q ≤ m then (digitCount (m / Nat.pow 2 q) : Int) - 1
    else
      -- the first `j` with `m · 10 ^ j ≥ 2 ^ q`
      let j := (List.range 400).find? (fun j => Nat.pow 2 q ≤ m * Nat.pow 10 (j + 1))
      Int.negSucc (j.getD 399)

def inInterval (s : Split) (c : Nat) (k : Int) : Bool :=
  let lo := compareScaled (4 * s.m - s.below) (s.e - 2) c k
  let hi := compareScaled (4 * s.m + s.above) (s.e - 2) c k
  if s.m % 2 = 0 then lo != .gt && hi != .lt else lo == .lt && hi == .gt

def distance (s : Split) (c : Nat) (k : Int) : Nat :=
  let lhs := 4 * s.m * Nat.pow 2 (s.e - 2).toNat * Nat.pow 10 (-k).toNat
  let rhs := c * Nat.pow 10 k.toNat * Nat.pow 2 (-(s.e - 2)).toNat
  if lhs ≤ rhs then rhs - lhs else lhs - rhs

def normalize (c : Nat) (k : Int) : Nat × Int :=
  if c = 0 then (0, 0) else go c k c
where
  go (c : Nat) (k : Int) : Nat → Nat × Int
    | 0 => (c, k)
    | fuel + 1 => if c % 10 = 0 then go (c / 10) (k + 1) fuel else (c, k)

/-- The fewest digits `c` and exponent `k` with `c · 10 ^ k` reading back to the
float with these bits (finite and nonzero). -/
def shortest (bits : UInt64) : Nat × Int :=
  let s := split bits
  let e10 := floorLog10 s.m s.e
  let pick (n : Nat) : Option (Nat × Int) :=
    let k := e10 - n + 1
    let lo := (s.m * Nat.pow 2 s.e.toNat * Nat.pow 10 (-k).toNat) / (Nat.pow 10 k.toNat * Nat.pow 2 (-s.e).toNat)
    let hi := lo + 1
    match inInterval s lo k, inInterval s hi k with
    | true, true =>
      let dlo := distance s lo k
      let dhi := distance s hi k
      some (if dhi < dlo ∨ (dhi = dlo ∧ lo % 2 = 1) then (hi, k) else (lo, k))
    | true, false => some (lo, k)
    | false, true => some (hi, k)
    | false, false => none
  match (List.range 17).findSome? (fun i => pick (i + 1)) with
  | some (c, k) => normalize c k
  | none => normalize s.m 0

def exponentText (x : Int) : String :=
  if x < 0 then "-" ++ toString x.natAbs else "+" ++ toString x.natAbs

/-- Text of a finite float: shortest digits, positional from `1e-5` up to `1e16`
with at least one digit after the point, otherwise `d.ddde+x` or `d.ddde-x`. -/
def render (bits : UInt64) : String :=
  let sign := if bits >>> 63 == 1 then "-" else ""
  if bits &&& 0x7FFFFFFFFFFFFFFF == 0 then sign ++ "0.0"
  else
    let (c, k) := shortest (bits &&& 0x7FFFFFFFFFFFFFFF)
    let ds := toString c
    let len : Int := ds.length
    let kk := len + k
    let body :=
      if 0 ≤ k ∧ kk ≤ 16 then
        ds ++ "".pushn '0' k.toNat ++ ".0"
      else if 0 < kk ∧ kk ≤ 16 then
        (ds.take kk.toNat).toString ++ "." ++ (ds.drop kk.toNat).toString
      else if -5 < kk ∧ kk ≤ 0 then
        "0." ++ "".pushn '0' (-kk).toNat ++ ds
      else if len = 1 then
        ds ++ "e" ++ exponentText (kk - 1)
      else
        (ds.take 1).toString ++ "." ++ (ds.drop 1).toString ++ "e" ++ exponentText (kk - 1)
    sign ++ body

end NativeBridge.Json.Decimal
