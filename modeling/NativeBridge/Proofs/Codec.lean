import NativeBridge.Proofs.Reading
import NativeBridge.Json.Codec

/-!
The laws of a JSON codec that reading and writing declarations rely on, and the reader and writer
of this library obeying them.

The laws are stated over a relation `Reads x j a`, that `x` reads every text of document `j`,
wherever it stands in a text, as `a`. Two of them are about escaping: every text of a string is
read as the string, and the pretty text of a document is a text of it. The others say that the
readers a derive builds follow the attributes they are built from: a record from an object of its
fields in any order, a field left out taking its default; a variant from its renamed name; arrays
and options through their element's reader. The declarations' arrays hold objects and their
optional fields hold strings, and these laws are asked only of those.
-/

namespace NativeBridge.Json

/-- What reading and writing declarations assumes of a codec `c`, where `Reads x j a` says that `x`
reads every text of `j`, wherever it stands, as `a`. -/
structure Codec.Lawful (c : Codec) (Reads : ∀ {α : Type}, c.Reader α → Json → α → Prop) : Prop where
  string (s : String) : Reads c.string (.str s) s
  writePretty (j : Json) : Layout j (c.writePretty j)
  run {α : Type} {x : c.Reader α} {j : Json} {a : α} {s : String} : Reads x j a → Layout j s → c.run x s = .ok a
  map {α β : Type} {x : c.Reader α} {j : Json} {a : α} (f : α → β) :
    Reads x j a → Reads (x >>= fun a => pure (f a)) j (f a)
  option_str {α : Type} {x : c.Reader α} {s : String} {a : α} :
    Reads x (.str s) a → Reads (c.option x) (.str s) (some a)
  list_obj {α : Type} {x : c.Reader α} {items : List α} {enc : α → Json} :
    (∀ a ∈ items, ∃ fs, enc a = .obj fs) → (∀ a ∈ items, Reads x (enc a) a) →
      Reads (c.list x) (.arr (items.map enc)) items
  unitVariant {names : List String} {s : String} {k : Nat} :
    names.idxOf? s = some k → Reads (c.unitVariant names) (.str s) k
  dataVariant {α : Type} {names : List String} {data : Nat → c.Reader α} {s : String} {k : Nat} {v : Json}
    {a : α} : names.idxOf? s = some k → Reads (data k) v a → Reads (c.dataVariant names data) (.obj [(s, v)]) a
  record {σ α : Type} {r : Record c.Reader σ α} {set : String → σ → σ} {fs : List (String × Json)} {a : α} :
    r.Fills Reads set fs a → Reads (c.record r) (.obj fs) a

theorem Codec.scan_lawful : Codec.scan.Lawful ReadsJson where
  string := ReadsJson.string
  writePretty := layout_renderPretty
  run h hl := by
    show (Scan.run _ _).mapError _ = _
    rw [Scan.run_of_layout h hl]
    rfl
  map f h := ReadsJson.bind_pure h f
  option_str h := ReadsJson.option_some h (fun _ hp => hp.str_head) (by decide) (by decide)
  list_obj hobj h := ReadsJson.list _ h fun a ha => by
    obtain ⟨fs, hfs⟩ := hobj a ha
    rw [hfs]
    exact leads_obj fs
  unitVariant hk := ReadsJson.enum_bare (by rw [Scan.variantIndex, hk]) (Scan.Reads.pure _)
  dataVariant hk hd := ReadsJson.enum_obj (by rw [Scan.variantIndex, hk]) hd
  record hr := ReadsJson.record hr

end NativeBridge.Json
