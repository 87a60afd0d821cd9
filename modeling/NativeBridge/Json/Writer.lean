import NativeBridge.Json.Basic
import NativeBridge.Json.Decimal

/-!
Writing JSON documents as text.

A string escapes its quote, its backslash and the control characters below
U+0020 (the five with short forms as `\b \t \n \f \r`, the others as `\u00xx`
in lowercase hex); every other character is written as it is. The compact form
has no blanks; the pretty form puts each element on its own line, indented by two
spaces per level, with `": "` after a key and `[]` or `{}` for an empty bracket.
-/

namespace NativeBridge.Json

def hex2 (n : Nat) : String :=
  let d (k : Nat) : Char := (Nat.toDigits 16 k).headD '0'
  String.ofList [d (n / 16), d (n % 16)]

def escapeChar (c : Char) : String :=
  match c with
  | '"' => "\\\""
  | '\\' => "\\\\"
  | '\x08' => "\\b"
  | '\t' => "\\t"
  | '\n' => "\\n"
  | '\x0c' => "\\f"
  | '\r' => "\\r"
  | c => if c.toNat < 0x20 then "\\u00" ++ hex2 c.toNat else String.singleton c

def quote (s : String) : String :=
  "\"" ++ s.foldl (fun acc c => acc ++ escapeChar c) "" ++ "\""

def Number.render : Number → String
  | .nat n => toString n.toNat
  | .neg n => toString n.toInt
  | .float bits => Decimal.render bits

def render : Json → String
  | .null => "null"
  | .bool b => toString b
  | .num n => n.render
  | .str s => quote s
  | .arr items => "[" ++ ",".intercalate (items.attach.map fun ⟨x, _⟩ => render x) ++ "]"
  | .obj fields =>
    "\x7b" ++ ",".intercalate (fields.attach.map fun ⟨(k, v), _⟩ => quote k ++ ":" ++ render v) ++ "\x7d"
termination_by j => sizeOf j
decreasing_by
  all_goals simp_wf
  · have := List.sizeOf_lt_of_mem ‹x ∈ items›; omega
  · rename_i h
    have := List.sizeOf_lt_of_mem h; simp at this; omega

def indent (level : Nat) : String := "".pushn ' ' (2 * level)

/-- The pretty text of a document at nesting `level`. -/
def pretty (level : Nat) : Json → String
  | .arr [] => "[]"
  | .obj [] => "\x7b\x7d"
  | .arr items =>
    "[\n" ++ ",\n".intercalate (items.attach.map fun ⟨x, _⟩ => indent (level + 1) ++ pretty (level + 1) x)
      ++ "\n" ++ indent level ++ "]"
  | .obj fields =>
    "\x7b\n" ++ ",\n".intercalate (fields.attach.map fun ⟨(k, v), _⟩ =>
      indent (level + 1) ++ quote k ++ ": " ++ pretty (level + 1) v)
      ++ "\n" ++ indent level ++ "\x7d"
  | j => render j
termination_by j => sizeOf j
decreasing_by
  all_goals simp_wf
  · have := List.sizeOf_lt_of_mem ‹x ∈ items›; omega
  · rename_i h
    have := List.sizeOf_lt_of_mem h; simp at this; omega

def renderPretty (j : Json) : String := pretty 0 j

end NativeBridge.Json
