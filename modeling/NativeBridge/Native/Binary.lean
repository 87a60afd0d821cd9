/-!
Binary floating point as the native side computes it, on values held by their
bits.

Finite and infinite results are the correctly rounded IEEE 754 results. NaNs
follow the vector unit of the machine: an operation with a NaN operand returns
the first NaN operand made quiet, an invalid operation on numbers (such as
`∞ · 0`) returns the default NaN, which has its sign bit set, and a conversion
between widths keeps a NaN's sign and the top of its payload and makes it quiet.
-/

namespace NativeBridge.Native

namespace Binary64

def isNaN (b : UInt64) : Bool := (b >>> 52) &&& 0x7FF == 0x7FF && b &&& 0xFFFFFFFFFFFFF != 0

/-- The NaN with its quiet bit set. -/
def quiet (b : UInt64) : UInt64 := b ||| 0x8000000000000

def defaultNaN : UInt64 := 0xFFF8000000000000

def lift (op : Float → Float → Float) (a b : UInt64) : UInt64 :=
  if isNaN a then quiet a
  else if isNaN b then quiet b
  else
    let r := op (Float.ofBits a) (Float.ofBits b)
    if r.isNaN then defaultNaN else r.toBits

def add (a b : UInt64) : UInt64 := lift (· + ·) a b

def mul (a b : UInt64) : UInt64 := lift (· * ·) a b

def ofInt (i : Int) : UInt64 := (Float.ofInt i).toBits

def ofNat (n : Nat) : UInt64 := n.toUInt64.toFloat.toBits

end Binary64

namespace Binary32

def isNaN (b : UInt32) : Bool := (b >>> 23) &&& 0xFF == 0xFF && b &&& 0x7FFFFF != 0

def quiet (b : UInt32) : UInt32 := b ||| 0x400000

def quieted (b : UInt32) : UInt32 := if isNaN b then quiet b else b

def defaultNaN : UInt32 := 0xFFC00000

def mul (a b : UInt32) : UInt32 :=
  if isNaN a then quiet a
  else if isNaN b then quiet b
  else
    let r := Float32.ofBits a * Float32.ofBits b
    if r.isNaN then defaultNaN else r.toBits

def widen (b : UInt32) : UInt64 :=
  if isNaN b then
    ((b.toUInt64 >>> 31) <<< 63) ||| (0x7FF8000000000000 : UInt64) ||| ((b.toUInt64 &&& 0x3FFFFF) <<< 29)
  else (Float32.ofBits b).toFloat.toBits

def narrow (b : UInt64) : UInt32 :=
  if Binary64.isNaN b then
    ((b >>> 63).toUInt32 <<< 31) ||| (0x7FC00000 : UInt32) ||| ((b >>> 29).toUInt32 &&& 0x3FFFFF)
  else (Float.ofBits b).toFloat32.toBits

end Binary32

end NativeBridge.Native
