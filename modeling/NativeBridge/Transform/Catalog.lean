import NativeBridge.Transform

/-!
A catalog of transformers beyond the built-in `string`, each registered under a
key of the caller's choice.

Each leaves a trace line naming the key, the position, the member and the
ownership every time it lowers or raises a value, before it converts anything:

* `celsius` passes a one-field record as its field, an `f64`;
* `user_id` passes decimal text as an optional `i32`;
* `flag` passes `yes` and `no` as a `bool`;
* `blob` passes a record of bytes as a length-prefixed buffer;
* `raw_opt_i32`, `raw_ptr` and `raw_f64` pass values through unchanged;
* `nested` lowers to a complex type and so can never be registered.
-/

namespace NativeBridge

def parseInt32? (s : String) : Option Int32 :=
  let (negative, digits) := match s.toList with
    | '-' :: r => (true, r)
    | '+' :: r => (false, r)
    | r => (false, r)
  if digits.isEmpty || !digits.all Char.isDigit then none
  else
    let n : Int := digits.foldl (fun acc c => acc * 10 + (c.toNat - '0'.toNat)) 0
    let v := if negative then -n else n
    if -(Int.pow 2 31) ≤ v && v < Int.pow 2 31 then some v.toInt32 else none

namespace Transformer

def traceLine (direction key : String) (ctx : MarshalContext) : String :=
  direction ++ " " ++ key ++ " " ++ ctx.position.display ++ " of " ++ ctx.member ++ " ("
    ++ ctx.ownership.display ++ ")"

def traced (key : String) (lowered : TypeRef) (lower raise : Host σ ε → MarshalContext → Value → Call σ ε Value) :
    Transformer σ ε where
  lowered := lowered
  lower host ctx v := do Call.world (host.note (traceLine "lower" key ctx)); lower host ctx v
  raise host ctx v := do Call.world (host.note (traceLine "raise" key ctx)); raise host ctx v

def passThrough (key : String) (lowered : TypeRef) : Transformer σ ε :=
  traced key lowered (fun _ _ v => pure v) (fun _ _ v => pure v)

def celsius (key : String) : Transformer σ ε :=
  traced key (.native .f64)
    (fun _ ctx v => match v with
      | .record _ [x] => pure x
      | other => throw (ctx.error ("expected a celsius record, got " ++ other.kind)))
    (fun _ _ v => pure (.record "celsius" [v]))

def userId (key : String) : Transformer σ ε :=
  traced key (.nullable .i32)
    (fun _ _ v => match v with
      | .str s => pure (.optional ((parseInt32? s).map Value.i32))
      | other => pure other)
    (fun _ _ v => match v with
      | .optional (some (.i32 n)) => pure (.str (toString n))
      | _ => pure (.str ""))

def flag (key : String) : Transformer σ ε :=
  traced key (.native .bool)
    (fun _ ctx v => match v with
      | .str "yes" => pure (.bool true)
      | .str "no" => pure (.bool false)
      | other => throw (ctx.error ("expected yes or no, got " ++ other.kind)))
    (fun _ ctx v => match v with
      | .bool b => pure (.str (if b then "yes" else "no"))
      | other => throw (ctx.error ("expected a bool, got " ++ other.kind)))

def blobBytes : List Value → Except Value (List UInt8)
  | [] => .ok []
  | .u8 b :: rest => (blobBytes rest).map (b :: ·)
  | other :: _ => .error other

def blob (key : String) : Transformer σ ε :=
  traced key (.native .pointer)
    (fun host ctx v => match v with
      | .record _ fields =>
        match blobBytes fields with
        | .error other => throw (ctx.error ("blob byte is " ++ other.kind))
        | .ok bytes => do
          if bytes.length > 255 then throw (ctx.error "blob longer than 255 bytes")
          let p ← ctx.allocate host (bytes.length + 1)
          Call.world (host.store p (bytes.length.toUInt8 :: bytes))
          pure (.pointer p)
      | other => throw (ctx.error ("expected a blob record, got " ++ other.kind)))
    (fun host ctx v => match v with
      | .pointer p => do
        if p == 0 then throw (ctx.error "null blob")
        if !(← Call.look (host.readable p 1)) then throw (ctx.error "unreadable blob")
        let n := ((← Call.look (host.load p 1)).headD 0).toNat
        if !(← Call.look (host.readable p (n + 1))) then throw (ctx.error "unreadable blob")
        let bytes := (← Call.look (host.load p (n + 1))).drop 1
        if ctx.ownership.byCaller then MarshalContext.releaseAfterCall p
        pure (.record "blob" (bytes.map Value.u8))
      | other => throw (ctx.error ("expected a pointer, got " ++ other.kind)))

def nested (key : String) : Transformer σ ε := passThrough key (.named "string")

/-- The catalog transformer of this name, registered under `key`. -/
def ofCatalog? (name key : String) : Option (Transformer σ ε) :=
  match name with
  | "string" => some string
  | "celsius" => some (celsius key)
  | "user_id" => some (userId key)
  | "flag" => some (flag key)
  | "blob" => some (blob key)
  | "raw_opt_i32" => some (passThrough key (.nullable .i32))
  | "raw_ptr" => some (passThrough key (.native .pointer))
  | "raw_f64" => some (passThrough key (.native .f64))
  | "nested" => some (nested key)
  | _ => none

end Transformer

end NativeBridge
