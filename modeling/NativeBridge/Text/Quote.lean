import NativeBridge.Text.Escape

/-!
Quoting text for debug output and messages.

The text is put between double quotes; the quote, the backslash, tab, carriage
return, newline and NUL get a backslash form, the characters of
`escapesAsCode` (controls, invisible characters and nonspacing marks) are written
\u with their hex code in braces, and everything else is kept as it is.
-/

namespace NativeBridge.Text

def hexDigits (n : Nat) : String := String.ofList (Nat.toDigits 16 n)

def quoteChar (c : Char) : String :=
  match c with
  | '\t' => "\\t"
  | '\r' => "\\r"
  | '\n' => "\\n"
  | '\\' => "\\\\"
  | '"' => "\\\""
  | '\x00' => "\\0"
  | c =>
    if escapesAsCode c then
      "\\u\x7b" ++ hexDigits c.toNat ++ "\x7d"
    else String.singleton c

/-- Text between double quotes with its special characters escaped. -/
def debugQuote (s : String) : String :=
  "\"" ++ s.foldl (fun acc c => acc ++ quoteChar c) "" ++ "\""

end NativeBridge.Text
