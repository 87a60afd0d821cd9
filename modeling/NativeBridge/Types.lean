/-!
The types a binding declares.

A `NativeType` crosses the native boundary as it is laid out in memory. A
`TypeRef` is what a parameter or return value is declared as: a native type, an
optional native value passed behind a pointer, or a complex type named by a key
that a registered transformer lowers. Ownership says who releases the buffer
behind a value, and a calling convention is the ABI an entry point follows.
-/

namespace NativeBridge

/-- A type whose in-memory form crosses the native boundary as it is. -/
inductive NativeType where
  | void
  | bool
  | i8
  | i16
  | i32
  | i64
  | u8
  | u16
  | u32
  | u64
  | isize
  | usize
  | f32
  | f64
  | pointer
  deriving DecidableEq, Inhabited, Repr

namespace NativeType

def all : List NativeType :=
  [.void, .bool, .i8, .i16, .i32, .i64, .u8, .u16, .u32, .u64, .isize, .usize, .f32, .f64, .pointer]

def size : NativeType → Nat
  | .void => 0
  | .bool | .i8 | .u8 => 1
  | .i16 | .u16 => 2
  | .i32 | .u32 | .f32 => 4
  | .i64 | .u64 | .f64 | .isize | .usize | .pointer => 8

def alignment (t : NativeType) : Nat := max t.size 1

def isVoid : NativeType → Bool
  | .void => true
  | _ => false

def name : NativeType → String
  | .void => "void"
  | .bool => "bool"
  | .i8 => "i8"
  | .i16 => "i16"
  | .i32 => "i32"
  | .i64 => "i64"
  | .u8 => "u8"
  | .u16 => "u16"
  | .u32 => "u32"
  | .u64 => "u64"
  | .isize => "isize"
  | .usize => "usize"
  | .f32 => "f32"
  | .f64 => "f64"
  | .pointer => "ptr"

def key : NativeType → String
  | .pointer => "pointer"
  | t => t.name

def debugName : NativeType → String
  | .void => "Void"
  | .bool => "Bool"
  | .i8 => "I8"
  | .i16 => "I16"
  | .i32 => "I32"
  | .i64 => "I64"
  | .u8 => "U8"
  | .u16 => "U16"
  | .u32 => "U32"
  | .u64 => "U64"
  | .isize => "Isize"
  | .usize => "Usize"
  | .f32 => "F32"
  | .f64 => "F64"
  | .pointer => "Pointer"

end NativeType

/-- What a parameter or return value is declared as. -/
inductive TypeRef where
  | native (t : NativeType)
  | nullable (t : NativeType)
  | named (key : String)
  deriving DecidableEq, Inhabited, Repr

namespace TypeRef

def isDirectlyPassable : TypeRef → Bool
  | .native _ => true
  | _ => false

def isVoid : TypeRef → Bool
  | .native .void => true
  | _ => false

def asNative? : TypeRef → Option NativeType
  | .native t => some t
  | _ => none

def isBufferShaped : TypeRef → Bool
  | .native t => t == .pointer
  | .nullable _ | .named _ => true

def display : TypeRef → String
  | .native t => t.name
  | .nullable t => t.name ++ "?"
  | .named k => k

def isNamed : TypeRef → Bool
  | .named _ => true
  | _ => false

def isNullable : TypeRef → Bool
  | .nullable _ => true
  | _ => false

end TypeRef

inductive Ownership where
  | nativeFrees
  | callerFrees
  deriving DecidableEq, Inhabited, Repr

namespace Ownership

def byCaller : Ownership → Bool
  | .callerFrees => true
  | .nativeFrees => false

def display : Ownership → String
  | .nativeFrees => "NativeFrees"
  | .callerFrees => "CallerFrees"

def key : Ownership → String
  | .nativeFrees => "native_frees"
  | .callerFrees => "caller_frees"

end Ownership

inductive Convention where
  | c
  | system
  | cdecl
  | stdcall
  | fastcall
  | thiscall
  deriving DecidableEq, Inhabited, Repr

namespace Convention

def all : List Convention := [.c, .system, .cdecl, .stdcall, .fastcall, .thiscall]

def isSupported : Convention → Bool
  | .c | .system | .cdecl => true
  | _ => false

def display : Convention → String
  | .c => "C"
  | .system => "System"
  | .cdecl => "Cdecl"
  | .stdcall => "Stdcall"
  | .fastcall => "FastCall"
  | .thiscall => "ThisCall"

def key : Convention → String
  | .c => "c"
  | .system => "system"
  | .cdecl => "cdecl"
  | .stdcall => "stdcall"
  | .fastcall => "fastcall"
  | .thiscall => "thiscall"

end Convention

end NativeBridge
