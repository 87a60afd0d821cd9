import NativeBridge.Json.Basic
import NativeBridge.Json.Decimal
import NativeBridge.Text.Quote

/-!
Why a JSON text could not be read, and where.

Faults of the text itself (`SyntaxFault`) are told apart from faults of shape,
where well-formed JSON is not what the reader expected (`Fault`). A position is
a line counted from one and a column counted in bytes from the last newline;
faults of shape raised away from the text carry no position until the reader
gives them the one it has reached.
-/

namespace NativeBridge.Json

inductive SyntaxFault where
  | eofWhileParsingList
  | eofWhileParsingObject
  | eofWhileParsingString
  | eofWhileParsingValue
  | expectedColon
  | expectedListCommaOrEnd
  | expectedObjectCommaOrEnd
  | expectedSomeIdent
  | expectedSomeValue
  | invalidEscape
  | invalidNumber
  | numberOutOfRange
  | controlCharacterWhileParsingString
  | keyMustBeAString
  | loneLeadingSurrogateInHexEscape
  | trailingComma
  | trailingCharacters
  | unexpectedEndOfHexEscape
  | recursionLimitExceeded
  deriving DecidableEq, Inhabited

def SyntaxFault.message : SyntaxFault → String
  | .eofWhileParsingList => "EOF while parsing a list"
  | .eofWhileParsingObject => "EOF while parsing an object"
  | .eofWhileParsingString => "EOF while parsing a string"
  | .eofWhileParsingValue => "EOF while parsing a value"
  | .expectedColon => "expected `:`"
  | .expectedListCommaOrEnd => "expected `,` or `]`"
  | .expectedObjectCommaOrEnd => "expected `,` or `\x7d`"
  | .expectedSomeIdent => "expected ident"
  | .expectedSomeValue => "expected value"
  | .invalidEscape => "invalid escape"
  | .invalidNumber => "invalid number"
  | .numberOutOfRange => "number out of range"
  | .controlCharacterWhileParsingString =>
    "control character (\\u0000-\\u001F) found while parsing a string"
  | .keyMustBeAString => "key must be a string"
  | .loneLeadingSurrogateInHexEscape => "lone leading surrogate in hex escape"
  | .trailingComma => "trailing comma"
  | .trailingCharacters => "trailing characters"
  | .unexpectedEndOfHexEscape => "unexpected end of hex escape"
  | .recursionLimitExceeded => "recursion limit exceeded"

inductive Unexpected where
  | bool (b : Bool)
  | unsigned (n : Nat)
  | signed (i : Int)
  | float (bits : UInt64)
  | str (s : String)
  | null
  | seq
  | map
  | unitVariant
  deriving Inhabited

def Unexpected.describe : Unexpected → String
  | .bool b => "boolean `" ++ toString b ++ "`"
  | .unsigned n => "integer `" ++ toString n ++ "`"
  | .signed i => "integer `" ++ toString i ++ "`"
  | .float bits => "floating point `" ++ Decimal.render bits ++ "`"
  | .str s => "string " ++ Text.debugQuote s
  | .null => "null"
  | .seq => "sequence"
  | .map => "map"
  | .unitVariant => "unit variant"

def unexpected : Json → Unexpected
  | .null => .null
  | .bool b => .bool b
  | .num (.nat n) => .unsigned n.toNat
  | .num (.neg n) => .signed n.toInt
  | .num (.float bits) => .float bits
  | .str s => .str s
  | .arr _ => .seq
  | .obj _ => .map

def oneOf : List String → String
  | [] => ""
  | [a] => "`" ++ a ++ "`"
  | [a, b] => "`" ++ a ++ "` or `" ++ b ++ "`"
  | names => "one of " ++ ", ".intercalate (names.map fun n => "`" ++ n ++ "`")

inductive Fault where
  | malformed (f : SyntaxFault)
  | invalidType (found : Unexpected) (expected : String)
  | invalidValue (found : Unexpected) (expected : String)
  | invalidLength (n : Nat) (expected : String)
  | unknownVariant (name : String) (expected : List String)
  | missingField (name : String)
  | duplicateField (name : String)
  deriving Inhabited

def Fault.message : Fault → String
  | .malformed f => f.message
  | .invalidType found expected => "invalid type: " ++ found.describe ++ ", expected " ++ expected
  | .invalidValue found expected => "invalid value: " ++ found.describe ++ ", expected " ++ expected
  | .invalidLength n expected => "invalid length " ++ toString n ++ ", expected " ++ expected
  | .unknownVariant name [] => "unknown variant `" ++ name ++ "`, there are no variants"
  | .unknownVariant name expected => "unknown variant `" ++ name ++ "`, expected " ++ oneOf expected
  | .missingField name => "missing field `" ++ name ++ "`"
  | .duplicateField name => "duplicate field `" ++ name ++ "`"

structure Position where
  line : Nat
  column : Nat
  deriving DecidableEq, Inhabited

/-- A fault and, once known, where it happened. -/
structure Error where
  fault : Fault
  position : Option Position := none
  deriving Inhabited

def Error.message (e : Error) : String :=
  match e.position with
  | some p => e.fault.message ++ " at line " ++ toString p.line ++ " column " ++ toString p.column
  | none => e.fault.message

def positionAt (t : ByteArray) (i : Nat) : Position :=
  let before := (t.extract 0 i).toList
  let lineStart := before.length - (before.reverse.takeWhile (· != 10)).length
  let line := 1 + (before.take lineStart).count 10
  ⟨line, i - lineStart⟩

end NativeBridge.Json
