import NativeBridge.Json.Lexer

/-!
Reading a JSON text into an expected shape, one token at a time.

`Scan` reads a fixed text from a byte index. A failure keeps the index that was
reached, because a fault of shape gets its position only when an enclosing
reader reaches a point where it fixes positions (`Scan.fix`): after a string
was read, after an object or array was closed. Shapes that are not met are
reported as soon as they are seen, so a later fault of the text is not reached.
-/

namespace NativeBridge.Json

/-- The fields of a record with named fields, as a derive lays them out: each field's name, a
state `σ` the fields are read into, whether a field was already given, how a field's value is read
by a reader of `m`, whether it must be given, and how the record is built, defaults filled in. -/
structure Record (m : Type → Type) (σ α : Type) where
  name : String
  fields : List String
  start : σ
  given : Nat → σ → Bool
  field : Nat → σ → m σ
  required : Nat → Bool
  finish : σ → Except Fault α

/-- Reading a fixed text from a byte index; on failure the index reached is kept. -/
abbrev Scan := ReaderT ByteArray (ExceptT Error (StateM Nat))

namespace Scan

def text : Scan ByteArray := read

def index : Scan Nat := getThe Nat

def failHere (f : SyntaxFault) : Scan α := do
  throw ⟨.malformed f, some (positionAt (← text) (← index))⟩

def failNext (f : SyntaxFault) : Scan α := do
  let t ← text
  throw ⟨.malformed f, some (positionAt t (min t.size ((← index) + 1)))⟩

def fault (f : Fault) : Scan α := throw ⟨f, none⟩

/-- Give a failure without a position the current one. -/
def fix (x : Scan α) : Scan α :=
  tryCatch x fun e => do
    match e.position with
    | some _ => throw e
    | none => throw { e with position := some (positionAt (← text) (← index)) }

def observe (x : Scan α) : Scan (Except Error α) :=
  tryCatch (Except.ok <$> x) (fun e => pure (.error e))

def lex (f : ByteArray → Nat → Lexed α) : Scan α := do
  let t ← text
  match f t (← index) with
  | .ok (a, j) => set j; pure a
  | .error (fault, at_) => throw ⟨.malformed fault, some (positionAt t at_)⟩

def lexSkip (f : ByteArray → Nat → Except (SyntaxFault × Nat) Nat) : Scan Unit := do
  let t ← text
  match f t (← index) with
  | .ok j => set j
  | .error (fault, at_) => throw ⟨.malformed fault, some (positionAt t at_)⟩

def peekToken : Scan (Option UInt8) := do
  let t ← text
  let i := skipBlank t (← index)
  set i
  pure (if h : i < t.size then some t[i] else none)

def bump : Scan Unit := modify (· + 1)

def quoted : Scan String := do bump; lex readString

def keywordRest (rest : List UInt8) : Scan Unit := lexSkip fun t i => keyword t i rest

def number : Scan Number := do
  let t ← text
  if byteAt t (← index) == 45 then bump; lex fun t i => readNumber t false i
  else lex fun t i => readNumber t true i

def skip : Scan Unit := lexSkip fun t i => skipValue t (3 * t.size + 3) i [] .value

def mismatch (expected : String) : Scan α := fix do
  match ← peekToken with
  | some 110 => bump; keywordRest [117, 108, 108]; fault (.invalidType .null expected)
  | some 116 => bump; keywordRest [114, 117, 101]; fault (.invalidType (.bool true) expected)
  | some 102 => bump; keywordRest [97, 108, 115, 101]; fault (.invalidType (.bool false) expected)
  | some 34 => let s ← quoted; fault (.invalidType (.str s) expected)
  | some 91 => fault (.invalidType .seq expected)
  | some 123 => fault (.invalidType .map expected)
  | some b =>
    if b == 45 || isDigit b then
      match ← number with
      | .nat n => fault (.invalidType (.unsigned n.toNat) expected)
      | .neg n => fault (.invalidType (.signed n.toInt) expected)
      | .float bits => fault (.invalidType (.float bits) expected)
    else failNext .expectedSomeValue
  | none => failNext .expectedSomeValue

def colon : Scan Unit := do
  match ← peekToken with
  | some 58 => bump
  | some _ => failNext .expectedColon
  | none => failNext .eofWhileParsingObject

def closeObject : Scan Unit := do
  match ← peekToken with
  | some 125 => bump
  | some 44 => failNext .trailingComma
  | some _ => failNext .trailingCharacters
  | none => failNext .eofWhileParsingObject

def closeArray : Scan Unit := do
  match ← peekToken with
  | some 93 => bump
  | some 44 =>
    bump
    match ← peekToken with
    | some 93 => failNext .trailingComma
    | _ => failNext .trailingCharacters
  | some _ => failNext .trailingCharacters
  | none => failNext .eofWhileParsingList

def enclosed (body : Scan α) (close : Scan Unit) : Scan α := do
  let r ← observe body
  let c ← observe close
  match r, c with
  | .error e, _ => throw e
  | .ok _, .error e => throw e
  | .ok a, .ok _ => pure a

def nextElement (first : Bool) : Scan Bool := do
  let peek ← match ← peekToken with
    | some 93 => return false
    | some 44 => if first then pure (some 44) else bump; peekToken
    | some b => if first then pure (some b) else failNext .expectedListCommaOrEnd
    | none => failNext .eofWhileParsingList
  match peek with
  | some 93 => failNext .trailingComma
  | some _ => pure true
  | none => failNext .eofWhileParsingValue

def nextKey (first : Bool) : Scan (Option String) := do
  let peek ← match ← peekToken with
    | some 125 => return none
    | some 44 => if first then failNext .keyMustBeAString else bump; peekToken
    | some b => if first then pure (some b) else failNext .expectedObjectCommaOrEnd
    | none => failNext .eofWhileParsingObject
  match peek with
  | some 34 => some <$> quoted
  | some 125 => failNext .trailingComma
  | some _ => failNext .keyMustBeAString
  | none => failNext .eofWhileParsingValue

def elements (elem : Scan α) : Nat → Bool → List α → Scan (List α)
  | 0, _, acc => pure acc.reverse
  | fuel + 1, first, acc => do
    if ← nextElement first then
      let a ← elem
      elements elem fuel false (a :: acc)
    else pure acc.reverse

def stringWith (expected : String) (visit : String → Except Fault α) : Scan α := fix do
  match ← peekToken with
  | some 34 =>
    let s ← quoted
    match visit s with
    | .ok a => pure a
    | .error f => fault f
  | some _ => mismatch expected
  | none => failNext .eofWhileParsingValue

def string : Scan String := stringWith "a string" .ok

def option (inner : Scan α) : Scan (Option α) := do
  match ← peekToken with
  | some 110 => bump; keywordRest [117, 108, 108]; pure none
  | _ => some <$> inner

def unit : Scan Unit := fix do
  match ← peekToken with
  | some 110 => bump; keywordRest [117, 108, 108]
  | some _ => mismatch "unit"
  | none => failNext .eofWhileParsingValue

def list (elem : Scan α) : Scan (List α) := fix do
  match ← peekToken with
  | some 91 =>
    bump
    let t ← text
    enclosed (elements elem (t.size + 1) true []) closeArray
  | some _ => mismatch "a sequence"
  | none => failNext .eofWhileParsingValue

/-- An enum value: a bare string names a variant without data and goes to
`bare`; an object with one key names a variant whose value `withData` reads.
The variant name is turned into a tag by `variant`. -/
def enum (variant : String → Except Fault β) (bare : β → Scan α) (withData : β → Scan α) :
    Scan α := do
  match ← peekToken with
  | some 123 =>
    bump
    let tag ← stringWith "variant identifier" variant
    colon
    let a ← withData tag
    match ← peekToken with
    | some 125 => bump; pure a
    | some _ => failHere .expectedSomeValue
    | none => failHere .eofWhileParsingObject
  | some 34 =>
    let tag ← stringWith "variant identifier" variant
    bare tag
  | some _ => failNext .expectedSomeValue
  | none => failNext .eofWhileParsingValue

def variantIndex (names : List String) (s : String) : Except Fault Nat :=
  match names.idxOf? s with
  | some k => .ok k
  | none => .error (.unknownVariant s names)

def recordFields (r : Record Scan σ α) : Nat → Bool → σ → Scan σ
  | 0, _, s => pure s
  | fuel + 1, first, s => do
    match ← nextKey first with
    | none => pure s
    | some key =>
      match r.fields.idxOf? key with
      | some k =>
        if r.given k s then fault (.duplicateField key)
        else
          colon
          let s ← r.field k s
          recordFields r fuel false s
      | none =>
        colon
        skip
        recordFields r fuel false s

def recordElements (r : Record Scan σ α) : Nat → List Nat → Bool → σ → Scan σ
  | _, [], _, s => pure s
  | 0, _, _, s => pure s
  | fuel + 1, k :: ks, first, s => do
    if ← nextElement first then
      let s ← r.field k s
      recordElements r fuel ks false s
    else if r.required k then
      fault (.invalidLength k (r.name ++ " with " ++ toString r.fields.length ++ " elements"))
    else recordElements r fuel ks first s

def ofExcept : Except Fault α → Scan α
  | .ok a => pure a
  | .error f => fault f

def record (r : Record Scan σ α) : Scan α := fix do
  let t ← text
  match ← peekToken with
  | some 123 =>
    bump
    enclosed (do ofExcept (r.finish (← recordFields r (t.size + 1) true r.start))) closeObject
  | some 91 =>
    bump
    enclosed (do ofExcept (r.finish
      (← recordElements r (t.size + 1) (List.range r.fields.length) true r.start))) closeArray
  | some _ => mismatch r.name
  | none => failNext .eofWhileParsingValue

def finishText : Scan Unit := do
  match ← peekToken with
  | some _ => failNext .trailingCharacters
  | none => pure ()

def run (x : Scan α) (s : String) : Except Error α :=
  (Id.run ((ExceptT.run (ReaderT.run (x <* finishText) s.toUTF8)).run 0)).1

end Scan

end NativeBridge.Json
