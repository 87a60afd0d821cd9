import NativeBridge.Types
import NativeBridge.Error

/-!
Values flowing through a binding, on either side of the native boundary.

A value of a native type is directly passable; optional values, strings and
records are not and must be marshalled or lowered first. Floats are held by
their bits, so that every value, NaNs included, crosses unchanged.
-/

namespace NativeBridge

/-- A value flowing through a binding. -/
inductive Value where
  | void
  | bool (b : Bool)
  | i8 (v : Int8)
  | i16 (v : Int16)
  | i32 (v : Int32)
  | i64 (v : Int64)
  | u8 (v : UInt8)
  | u16 (v : UInt16)
  | u32 (v : UInt32)
  | u64 (v : UInt64)
  | isize (v : Int64)
  | usize (v : UInt64)
  | f32 (bits : UInt32)
  | f64 (bits : UInt64)
  | pointer (addr : UInt64)
  | optional (v : Option Value)
  | str (s : String)
  | record (ty : String) (fields : List Value)
  deriving Inhabited

namespace Value

def null : Value := .pointer 0

def nativeType? : Value → Option NativeType
  | .void => some .void
  | .bool _ => some .bool
  | .i8 _ => some .i8
  | .i16 _ => some .i16
  | .i32 _ => some .i32
  | .i64 _ => some .i64
  | .u8 _ => some .u8
  | .u16 _ => some .u16
  | .u32 _ => some .u32
  | .u64 _ => some .u64
  | .isize _ => some .isize
  | .usize _ => some .usize
  | .f32 _ => some .f32
  | .f64 _ => some .f64
  | .pointer _ => some .pointer
  | .optional _ | .str _ | .record .. => none

def kind : Value → String
  | .optional _ => "optional"
  | .str _ => "string"
  | .record .. => "record"
  | v => (v.nativeType?.map NativeType.name).getD "value"

def conformsTo (v : Value) : TypeRef → Bool
  | .native t => v.nativeType? == some t
  | .nullable t =>
    match v with
    | .optional none => true
    | .optional (some inner) => inner.nativeType? == some t
    | _ => false
  | .named _ => true

def asPointer? : Value → Option UInt64
  | .pointer a => some a
  | _ => none

def intoOptional? : Value → Option (Option Value)
  | .optional v => some v
  | _ => none

end Value

namespace NativeType

def Carrier : NativeType → Type
  | .void => Unit
  | .bool => Bool
  | .i8 => Int8
  | .i16 => Int16
  | .i32 => Int32
  | .i64 => Int64
  | .u8 => UInt8
  | .u16 => UInt16
  | .u32 => UInt32
  | .u64 => UInt64
  | .isize => Int64
  | .usize => UInt64
  | .f32 => UInt32
  | .f64 => UInt64
  | .pointer => UInt64

def intoValue : (t : NativeType) → t.Carrier → Value
  | .void, () => .void
  | .bool, b => .bool b
  | .i8, v => .i8 v
  | .i16, v => .i16 v
  | .i32, v => .i32 v
  | .i64, v => .i64 v
  | .u8, v => .u8 v
  | .u16, v => .u16 v
  | .u32, v => .u32 v
  | .u64, v => .u64 v
  | .isize, v => .isize v
  | .usize, v => .usize v
  | .f32, bits => .f32 bits
  | .f64, bits => .f64 bits
  | .pointer, a => .pointer a

def ofValue? : (t : NativeType) → Value → Option t.Carrier
  | .void, .void => some ()
  | .bool, .bool b => some b
  | .i8, .i8 v => some v
  | .i16, .i16 v => some v
  | .i32, .i32 v => some v
  | .i64, .i64 v => some v
  | .u8, .u8 v => some v
  | .u16, .u16 v => some v
  | .u32, .u32 v => some v
  | .u64, .u64 v => some v
  | .isize, .isize v => some v
  | .usize, .usize v => some v
  | .f32, .f32 bits => some bits
  | .f64, .f64 bits => some bits
  | .pointer, .pointer a => some a
  | _, _ => none

end NativeType

/-- A type of the calling side that a typed interface converts to and from
values: a primitive (with the pointer and unit types), a string, or an
optional primitive. -/
inductive HostType where
  | prim (t : NativeType)
  | string
  | optional (t : NativeType)
  deriving DecidableEq, Inhabited, Repr

namespace HostType

def typeRef : HostType → TypeRef
  | .prim t => .native t
  | .string => .named "string"
  | .optional t => .nullable t

def expectedName : HostType → String
  | .prim .pointer => "pointer"
  | .prim t => t.name
  | .string => "string"
  | .optional _ => "optional"

def unexpected (expected : String) (found : Value) : Error :=
  .generic ("expected a " ++ expected ++ " value, found " ++ found.kind)

def Carrier : HostType → Type
  | .prim t => t.Carrier
  | .string => String
  | .optional t => Option t.Carrier

def intoValue : (h : HostType) → h.Carrier → Value
  | .prim t, x => t.intoValue x
  | .string, s => .str s
  | .optional t, x => .optional (x.map t.intoValue)

def decode : (h : HostType) → Value → Except Error h.Carrier
  | .prim t, v =>
    match t.ofValue? v with
    | some x => .ok x
    | none => .error (unexpected (HostType.prim t).expectedName v)
  | .string, .str s => .ok s
  | .string, v => .error (unexpected "string" v)
  | .optional _, .optional none => .ok none
  | .optional t, .optional (some inner) =>
    match t.ofValue? inner with
    | some x => .ok (some x)
    | none => .error (unexpected (HostType.prim t).expectedName inner)
  | .optional _, v => .error (unexpected "optional" v)

def fromValue (h : HostType) (v : Value) : Except Error Value := (h.decode v).map h.intoValue

end HostType

end NativeBridge
