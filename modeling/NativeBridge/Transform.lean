import NativeBridge.Host
import NativeBridge.Decl
import NativeBridge.Text.Utf8
import NativeBridge.Text.Quote

/-!
Lowering complex declared types to native shapes.

A transformer converts the values of one complex type: `lower` runs on a
parameter before the native call, `raise` on the return value after it. Its
lowered type must be native or optional. A `MarshalContext` tells it which value
of which member it converts and who owns the buffer; buffers it allocates
through the context are released with the call's activation when the caller owns
them, and otherwise handed to native code once the call completes.

The registry maps each key to exactly one transformer; `string` is the built-in
one, converting text to a NUL-terminated UTF-8 buffer and back.
-/

namespace NativeBridge

inductive Position where
  | param (index : Nat) (name : String)
  | ret
  deriving DecidableEq, Inhabited, Repr

def Position.display : Position → String
  | .param _ name => "parameter `" ++ name ++ "`"
  | .ret => "return value"

structure MarshalContext where
  member : String
  position : Position
  ownership : Ownership
  deriving DecidableEq, Inhabited, Repr

namespace MarshalContext

def error (ctx : MarshalContext) (msg : String) : Error :=
  .marshalling ctx.member (ctx.position.display ++ ": " ++ msg)

def allocate (host : Host σ ε) (ctx : MarshalContext) (size : Nat) : Call σ ε UInt64 := do
  let p ← Call.ask (host.allocate size)
  if p == 0 then throw (ctx.error ("failed to allocate " ++ toString size ++ " bytes"))
  if ctx.ownership.byCaller then Call.scratch (·.track p) else Call.scratch (·.transfer p)
  pure p

def releaseAfterCall (p : UInt64) : Call σ ε Unit := Call.scratch (·.track p)

end MarshalContext

/-- Converts the values of one complex type to and from its lowered form. -/
structure Transformer (σ ε : Type) where
  lowered : TypeRef
  lower : Host σ ε → MarshalContext → Value → Call σ ε Value
  raise : Host σ ε → MarshalContext → Value → Call σ ε Value

namespace Transformer

def string : Transformer σ ε where
  lowered := .native .pointer
  lower host ctx v := do
    match v with
    | .str s =>
      let bytes := s.toUTF8.toList
      if bytes.contains 0 then throw (ctx.error "string contains an interior NUL byte")
      let p ← ctx.allocate host (bytes.length + 1)
      Call.world (host.store p (bytes ++ [0]))
      pure (.pointer p)
    | other => throw (ctx.error ("expected a string, got " ++ other.kind))
  raise host ctx v := do
    match v with
    | .pointer p =>
      if p == 0 then throw (ctx.error "native code returned a null string")
      let bytes ← Call.look (host.cString p)
      let text := Text.decodeUtf8 bytes
      if ctx.ownership.byCaller then MarshalContext.releaseAfterCall p
      match text with
      | .ok s => pure (.str s)
      | .error f => throw (ctx.error ("returned string is not UTF-8: " ++ f.message))
    | other => throw (ctx.error ("expected a pointer, got " ++ other.kind))

end Transformer

/-- Transformers by the key of the complex type they handle. -/
structure Registry (σ ε : Type) where
  entries : List (String × Transformer σ ε) := []

namespace Registry

def withDefaults : Registry σ ε := ⟨[("string", Transformer.string)]⟩

def get? (r : Registry σ ε) (key : String) : Option (Transformer σ ε) := r.entries.lookup key

def contains (r : Registry σ ε) (key : String) : Bool := r.entries.any (·.1 == key)

def canLower (r : Registry σ ε) : TypeRef → Bool
  | .named k => r.contains k
  | _ => true

def register (r : Registry σ ε) (key : String) (t : Transformer σ ε) : Except Error (Registry σ ε) :=
  if r.contains key then
    .error (.configuration key ("a transformer for `" ++ key ++ "` is already registered; lookup would be ambiguous"))
  else match t.lowered with
    | .named lowered =>
      .error (.configuration key ("transformer for `" ++ key ++ "` lowers to `" ++ lowered
        ++ "`, which is not a native or nullable type"))
    | _ => .ok ⟨r.entries ++ [(key, t)]⟩

theorem contains_eq_isSome_get? (r : Registry σ ε) (key : String) :
    r.contains key = (r.get? key).isSome := by
  unfold contains get?
  induction r.entries with
  | nil => rfl
  | cons e es ih =>
    obtain ⟨k, t⟩ := e
    by_cases hk : k = key
    · subst hk; simp
    · have hne : (key == k) = false := by simpa using Ne.symm hk
      simp only [List.any_cons, List.lookup_cons, hne, ih]
      simp [hk]

theorem register_of_contains {r : Registry σ ε} {key : String} (h : r.contains key = true)
    (t : Transformer σ ε) :
    r.register key t = .error (.configuration key
      ("a transformer for `" ++ key ++ "` is already registered; lookup would be ambiguous")) := by
  simp [register, h]

theorem lookup_append_of_absent {β : Type} (entries : List (String × β)) (key : String) (v : β)
    (h : entries.any (·.1 == key) = false) : (entries ++ [(key, v)]).lookup key = some v := by
  induction entries with
  | nil => simp
  | cons e es ih =>
    obtain ⟨k, w⟩ := e
    have hk : k ≠ key := by intro hk; subst hk; simp at h
    have h' : es.any (·.1 == key) = false := by simpa [hk] using h
    have hne : (key == k) = false := by simpa using Ne.symm hk
    simpa [List.lookup_cons, hne] using ih h'

theorem get?_register {r r' : Registry σ ε} {key : String} {t : Transformer σ ε}
    (h : r.register key t = .ok r') : r'.get? key = some t := by
  unfold register at h
  split at h
  · cases h
  · rename_i hc
    split at h
    · cases h
    · cases h
      exact lookup_append_of_absent r.entries key t (Bool.eq_false_iff.mpr hc)

def keys (r : Registry σ ε) : List String := (r.entries.map (·.1)).mergeSort (· ≤ ·)

def size (r : Registry σ ε) : Nat := r.entries.length

def debug (r : Registry σ ε) : String :=
  "TransformerRegistry \x7b types: [" ++ ", ".intercalate (r.keys.map Text.debugQuote) ++ "] \x7d"

end Registry

end NativeBridge
