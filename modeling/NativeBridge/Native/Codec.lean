import NativeBridge.Value

/-!
The native layout of values: little-endian, unaligned, `size` bytes per type.

Encoding fails exactly when the value is not of the type (and always for
`void`); decoding reads a `bool` as nonzero and every other type bit for bit, so
that decoding an encoding gives the value back.
-/

namespace NativeBridge

def leBytes (n : Nat) : Nat → List UInt8
  | 0 => []
  | k + 1 => (n % 256).toUInt8 :: leBytes (n / 256) k

def leValue : List UInt8 → Nat
  | [] => 0
  | b :: bs => b.toNat + 256 * leValue bs

namespace Value

/-- The bytes of a value of native type `t`, or `none` when it is of another type. -/
def encode? (t : NativeType) (v : Value) : Option (List UInt8) :=
  match t, v with
  | .bool, .bool b => some [if b then 1 else 0]
  | .i8, .i8 x => some [x.toUInt8]
  | .u8, .u8 x => some [x]
  | .i16, .i16 x => some (leBytes x.toUInt16.toNat 2)
  | .u16, .u16 x => some (leBytes x.toNat 2)
  | .i32, .i32 x => some (leBytes x.toUInt32.toNat 4)
  | .u32, .u32 x => some (leBytes x.toNat 4)
  | .i64, .i64 x => some (leBytes x.toUInt64.toNat 8)
  | .u64, .u64 x => some (leBytes x.toNat 8)
  | .isize, .isize x => some (leBytes x.toUInt64.toNat 8)
  | .usize, .usize x => some (leBytes x.toNat 8)
  | .f32, .f32 x => some (leBytes x.toNat 4)
  | .f64, .f64 x => some (leBytes x.toNat 8)
  | .pointer, .pointer x => some (leBytes x.toNat 8)
  | _, _ => none

def decode (t : NativeType) (bytes : List UInt8) : Value :=
  let n := leValue (bytes.take t.size)
  match t with
  | .void => .void
  | .bool => .bool (n != 0)
  | .i8 => .i8 (Int8.ofUInt8 n.toUInt8)
  | .u8 => .u8 n.toUInt8
  | .i16 => .i16 (Int16.ofUInt16 n.toUInt16)
  | .u16 => .u16 n.toUInt16
  | .i32 => .i32 (Int32.ofUInt32 n.toUInt32)
  | .u32 => .u32 n.toUInt32
  | .i64 => .i64 (Int64.ofUInt64 n.toUInt64)
  | .u64 => .u64 n.toUInt64
  | .isize => .isize (Int64.ofUInt64 n.toUInt64)
  | .usize => .usize n.toUInt64
  | .f32 => .f32 n.toUInt32
  | .f64 => .f64 n.toUInt64
  | .pointer => .pointer n.toUInt64

end Value

end NativeBridge
