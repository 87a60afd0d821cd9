import NativeBridge.Native.State
import NativeBridge.Native.Codec
import NativeBridge.Native.Signature
import NativeBridge.Text.Utf8
import NativeBridge.Text.UpperCase
import NativeBridge.Native.Binary

/-!
The native functions of the process, with their C signatures.

Arguments always fit the signature: the call checks them first. Integer
arithmetic wraps. A function reading memory reads only inside one readable
region (the arena, a live block or a static) and gives a fixed answer otherwise;
a C string is the bytes before the first NUL of its region, and a region without
that NUL holds no string. The C library's functions read raw memory.
-/

namespace NativeBridge.Native

/-- A native function: its C signature and what a call does to the process. -/
structure NativeFunction where
  name : String
  params : List NativeType
  ret : NativeType
  run : List Value → State → Value × State

namespace NativeFunction

def signature (f : NativeFunction) : NativeSignature := ⟨f.params, f.ret, .c⟩

def call (f : NativeFunction) (args : List Value) (s : State) : Value × State :=
  match f.run args s with
  | (.f32 b, s) => (.f32 (Binary32.quieted b), s)
  | r => r

def pure (name : String) (params : List NativeType) (ret : NativeType) (f : List Value → Value) :
    NativeFunction :=
  ⟨name, params, ret, fun args s => (f args, s)⟩

def echo (t : NativeType) : NativeFunction := pure ("echo_" ++ t.name) [t] t fun args => args.headD .void

end NativeFunction

def readI32? (s : State) (p : UInt64) : Option Int32 :=
  if s.memory.readable p 4 then
    match Value.decode .i32 (s.memory.load p 4) with
    | .i32 v => some v
    | _ => none
  else none

def readBlob? (s : State) (p : UInt64) : Option (List UInt8) :=
  if s.memory.readable p 1 then
    let n := (s.memory.byte p).toNat
    if s.memory.readable p (n + 1) then some ((s.memory.load p (n + 1)).drop 1) else none
  else none

def allocating (bytes? : Option (List UInt8)) (s : State) : Value × State :=
  match bytes? with
  | some bytes => let (p, s) := s.nativeAllocate bytes; (.pointer p, s)
  | none => (.pointer 0, s)

def shouted (bytes : List UInt8) : List UInt8 := (Text.upper (Text.decodeLossy bytes)).toUTF8.toList

def unbox (s : State) (p : UInt64) (t : NativeType) : Value :=
  if s.memory.readable p t.size then Value.decode t (s.memory.load p t.size)
  else Value.decode t (List.replicate t.size 0xFF)

def catalog : List NativeFunction := [
  .pure "multiply" [.i32, .i32] .i32 fun
    | [.i32 a, .i32 b] => .i32 (a * b) | _ => .void,
  .pure "add_i16" [.i16, .i16] .i16 fun
    | [.i16 a, .i16 b] => .i16 (a + b) | _ => .void,
  .pure "add_u64" [.u64, .u64] .u64 fun
    | [.u64 a, .u64 b] => .u64 (a + b) | _ => .void,
  .pure "sum_u32" [.u32, .u32, .u32] .u32 fun
    | [.u32 a, .u32 b, .u32 c] => .u32 (a + b + c) | _ => .void,
  .pure "div_i32" [.i32, .i32] .i32 fun
    | [.i32 a, .i32 b] => .i32 (if b == 0 then 0 else a / b) | _ => .void,
  .pure "neg_i64" [.i64] .i64 fun
    | [.i64 a] => .i64 (-a) | _ => .void,
  .pure "negate" [.bool] .bool fun
    | [.bool b] => .bool (!b) | _ => .void,
  .pure "scale" [.f32, .f64] .f64 fun
    | [.f32 x, .f64 k] => .f64 (Binary64.mul (Binary32.widen x) k) | _ => .void,
  .pure "add_f64" [.f64, .f64] .f64 fun
    | [.f64 a, .f64 b] => .f64 (Binary64.add a b) | _ => .void,
  .pure "half_f32" [.f32] .f32 fun
    | [.f32 x] => .f32 (Binary32.mul x 0x3F000000) | _ => .void,
  .pure "isize_sign" [.isize] .i8 fun
    | [.isize a] => .i8 (if a < 0 then -1 else if a == 0 then 0 else 1) | _ => .void,
  .pure "mix" [.i8, .u16, .i32, .u64, .f32, .f64, .u8] .f64 fun
    | [.i8 a, .u16 b, .i32 c, .u64 d, .f32 e, .f64 f, .u8 g] =>
      .f64 ([Binary64.ofNat b.toNat, Binary64.ofInt c.toInt, Binary64.ofNat d.toNat, Binary32.widen e, f,
        Binary64.ofNat g.toNat].foldl Binary64.add (Binary64.ofInt a.toInt))
    | _ => .void,
  .pure "sum8_i64" (List.replicate 8 .i64) .i64 fun args =>
    .i64 ((args.zipIdx.map fun (v, i) => match (v : Value) with
      | .i64 a => a * (i + 1).toInt64
      | _ => 0).foldl (· + ·) 0),
  .pure "sum10_f64" (List.replicate 10 .f64) .f64 fun args =>
    .f64 (args.zipIdx.foldl (fun acc (v, i) => match (v : Value) with
      | .f64 a => Binary64.add acc (Binary64.mul a (Binary64.ofNat (i + 1)))
      | _ => acc) 0),
  ⟨"tick", [], .u32, fun _ s => let t := s.ticks + 1; (.u32 t, { s with ticks := t })⟩,
  .pure "noop" [] .void fun _ => .void,
  .pure "sink_u64" [.u64] .void fun _ => .void,
  .echo .bool, .echo .i8, .echo .i16, .echo .i32, .echo .i64, .echo .u8, .echo .u16, .echo .u32,
  .echo .u64, .echo .isize, .echo .usize, .echo .f32, .echo .f64, .echo .pointer,
  .pure "get_optional" [.bool] .pointer fun
    | [.bool true] => .pointer optionalValue | _ => .pointer 0,
  ⟨"value_or", [.pointer, .i32], .i32, fun args s => match args with
    | [.pointer p, .i32 fallback] =>
      (.i32 (if p == 0 then fallback else (readI32? s p).getD Int32.minValue), s)
    | _ => (.void, s)⟩,
  ⟨"take_value", [.pointer], .i32, fun args s => match args with
    | [.pointer p] =>
      if p == 0 then (.i32 (-1), s)
      else (.i32 ((readI32? s p).getD Int32.minValue), s.nativeRelease p)
    | _ => (.void, s)⟩,
  ⟨"boxed_double", [.i32], .pointer, fun args s => match args with
    | [.i32 v] => allocating (if v < 0 then none else Value.encode? .i32 (.i32 (v * 2))) s
    | _ => (.void, s)⟩,
  ⟨"box_u64", [.u64], .pointer, fun args s => match args with
    | [.u64 v] => allocating (Value.encode? .u64 (.u64 v)) s
    | _ => (.void, s)⟩,
  ⟨"box_nonzero", [.u64], .pointer, fun args s => match args with
    | [.u64 v] => allocating (if v == 0 then none else Value.encode? .u64 (.u64 v)) s
    | _ => (.void, s)⟩,
  ⟨"unbox_u8", [.pointer], .u8, fun args s => match args with
    | [.pointer p] => (unbox s p .u8, s) | _ => (.void, s)⟩,
  ⟨"unbox_u16", [.pointer], .u16, fun args s => match args with
    | [.pointer p] => (unbox s p .u16, s) | _ => (.void, s)⟩,
  ⟨"unbox_u32", [.pointer], .u32, fun args s => match args with
    | [.pointer p] => (unbox s p .u32, s) | _ => (.void, s)⟩,
  ⟨"unbox_u64", [.pointer], .u64, fun args s => match args with
    | [.pointer p] => (unbox s p .u64, s) | _ => (.void, s)⟩,
  .pure "is_null" [.pointer] .bool fun
    | [.pointer p] => .bool (p == 0) | _ => .void,
  ⟨"halve", [.pointer], .pointer, fun args s => match args with
    | [.pointer p] => if p == 0 then (.pointer 0, s) else (.pointer half, s.nativeRelease p)
    | _ => (.void, s)⟩,
  ⟨"lookup_id", [.pointer], .pointer, fun args s => match args with
    | [.pointer p] => (.pointer (if readI32? s p == some 7 then seven else 0), s)
    | _ => (.void, s)⟩,
  ⟨"greeting_len", [.pointer], .usize, fun args s => match args with
    | [.pointer p] => (.usize ((s.memory.cString? p).map (·.length.toUInt64) |>.getD 0xFFFFFFFFFFFFFFFF), s)
    | _ => (.void, s)⟩,
  ⟨"first_byte", [.pointer], .u8, fun args s => match args with
    | [.pointer p] => (.u8 (((s.memory.cString? p).bind (·.head?)).getD 0), s)
    | _ => (.void, s)⟩,
  .pure "library_name" [] .pointer fun _ => .pointer libraryName,
  .pure "bad_utf8" [] .pointer fun _ => .pointer badText,
  .pure "null_ptr" [] .pointer fun _ => .pointer 0,
  .pure "describe_code" [.u8] .pointer fun
    | [.u8 c] => .pointer (if c == 0 then okText else failedText) | _ => .void,
  ⟨"shout", [.pointer], .pointer, fun args s => match args with
    | [.pointer p] => allocating ((s.memory.cString? p).map fun b => shouted b ++ [0]) s
    | _ => (.void, s)⟩,
  ⟨"reverse_bytes", [.pointer], .pointer, fun args s => match args with
    | [.pointer p] => allocating ((s.memory.cString? p).map fun b => b.reverse ++ [0]) s
    | _ => (.void, s)⟩,
  ⟨"join", [.pointer, .pointer], .pointer, fun args s => match args with
    | [.pointer a, .pointer b] =>
      allocating (do
        let x ← s.memory.cString? a
        let y ← s.memory.cString? b
        some (x ++ [0x7C] ++ y ++ [0])) s
    | _ => (.void, s)⟩,
  ⟨"blob_sum", [.pointer], .u32, fun args s => match args with
    | [.pointer p] =>
      (.u32 ((readBlob? s p).map (fun bs => (bs.map (·.toUInt32)).foldl (· + ·) 0) |>.getD 0xFFFFFFFF), s)
    | _ => (.void, s)⟩,
  ⟨"blob_rev", [.pointer], .pointer, fun args s => match args with
    | [.pointer p] => allocating ((readBlob? s p).map fun bs => bs.length.toUInt8 :: bs.reverse) s
    | _ => (.void, s)⟩
]

def cNumeral (bytes : List UInt8) : Int :=
  let isSpace (b : UInt8) := b == 0x20 || (0x09 ≤ b && b ≤ 0x0D)
  let rest := bytes.dropWhile isSpace
  let (negative, rest) := match rest with
    | 0x2D :: r => (true, r)
    | 0x2B :: r => (false, r)
    | r => (false, r)
  let digits := rest.takeWhile fun b => 0x30 ≤ b && b ≤ 0x39
  let n : Int := digits.foldl (fun acc b => acc * 10 + (b - 0x30).toNat) 0
  let v := if negative then -n else n
  max (-(Int.pow 2 63)) (min v (Int.pow 2 63 - 1))

def cLibraryCatalog : List NativeFunction := [
  ⟨"strlen", [.pointer], .usize, fun args s => match args with
    | [.pointer p] => (.usize (s.memory.cString p).length.toUInt64, s) | _ => (.void, s)⟩,
  .pure "abs" [.i32] .i32 fun
    | [.i32 v] => .i32 (if v < 0 then -v else v) | _ => .void,
  .pure "labs" [.i64] .i64 fun
    | [.i64 v] => .i64 (if v < 0 then -v else v) | _ => .void,
  ⟨"atoi", [.pointer], .i32, fun args s => match args with
    | [.pointer p] => (.i32 (cNumeral (s.memory.cString p)).toInt64.toInt32, s) | _ => (.void, s)⟩
]

def NativeFunction.find? (name : String) : Option NativeFunction := catalog.find? (·.name == name)

def NativeFunction.findInCLibrary? (name : String) : Option NativeFunction :=
  cLibraryCatalog.find? (·.name == name)

end NativeBridge.Native
