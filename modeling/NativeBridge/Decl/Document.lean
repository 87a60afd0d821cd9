import NativeBridge.Types
import NativeBridge.Json.Basic
import NativeBridge.Json.Fault

/-!
Declared types read from an already parsed JSON document.

A variant is a string naming it, or an object with that name as its single key
and the variant's data as the value. The faults name what was found the way the
text reader does, without a position.
-/

namespace NativeBridge

open Json

namespace Document

/-- The variant a document names, by its position among `names`, and its data
if it has any. -/
def variant (names : List String) (j : Json) : Except Fault (Nat × Option Json) := do
  let (name, data) ← match j with
    | .obj [(k, v)] => pure (k, some v)
    | .obj _ => throw (.invalidValue .map "map with a single key")
    | .str s => pure (s, none)
    | other => throw (.invalidType other.unexpected "string or map")
  match names.idxOf? name with
  | some k => pure (k, data)
  | none => throw (.unknownVariant name names)

def nativeType (j : Json) : Except Fault NativeType := do
  let (k, data) ← variant (NativeType.all.map NativeType.key) j
  match data with
  | none | some .null => pure (NativeType.all.getD k .void)
  | some other => throw (.invalidType other.unexpected "unit")

def typeRef (j : Json) : Except Fault TypeRef := do
  let (k, data) ← variant ["native", "nullable", "named"] j
  match data with
  | none => throw (.invalidType .unitVariant "newtype variant")
  | some d =>
    match k with
    | 0 => TypeRef.native <$> nativeType d
    | 1 => TypeRef.nullable <$> nativeType d
    | _ => match d with
      | .str s => pure (.named s)
      | other => throw (.invalidType other.unexpected "a string")

end Document

end NativeBridge
