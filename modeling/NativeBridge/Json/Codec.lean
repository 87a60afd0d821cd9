import NativeBridge.Json.Scan
import NativeBridge.Json.Writer

/-!
What reading and writing declarations takes from a JSON library and from the readers a derive
builds from the declarations' attributes, as one record of operations; and the reader and writer of
this library as such a record.
-/

namespace NativeBridge.Json

/-- A JSON library with the readers a derive builds for records and variants. -/
structure Codec where
  Reader : Type → Type
  [monad : Monad Reader]
  string : Reader String
  option {α : Type} : Reader α → Reader (Option α)
  list {α : Type} : Reader α → Reader (List α)
  unitVariant (names : List String) : Reader Nat
  /-- A variant with data: an object whose one key names it among `names`, its value read by
  `data`. -/
  dataVariant {α : Type} (names : List String) (data : Nat → Reader α) : Reader α
  record {σ α : Type} : Record Reader σ α → Reader α
  run {α : Type} : Reader α → String → Except String α
  writePretty : Json → String

attribute [instance] Codec.monad

namespace Codec

def scan : Codec where
  Reader := Scan
  string := Scan.string
  option := Scan.option
  list := Scan.list
  unitVariant names := Scan.enum (Scan.variantIndex names) pure fun k => do Scan.unit; pure k
  dataVariant names data :=
    Scan.enum (Scan.variantIndex names) (fun _ => Scan.fault (.invalidType .unitVariant "newtype variant")) data
  record := Scan.record
  run x s := (Scan.run x s).mapError (·.message)
  writePretty := Json.renderPretty

end Codec

end NativeBridge.Json
