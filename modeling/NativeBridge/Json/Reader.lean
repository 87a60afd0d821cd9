import NativeBridge.Json.Scan

/-!
Reading a JSON text into a document.

Objects come out with their keys in increasing order, a repeated key keeping its
last value. Arrays and objects nest at most 127 deep.
-/

namespace NativeBridge.Json

def insertField (k : String) (v : Json) : List (String × Json) → List (String × Json)
  | [] => [(k, v)]
  | (k', v') :: rest =>
    if k = k' then (k, v) :: rest
    else if k < k' then (k, v) :: (k', v') :: rest
    else (k', v') :: insertField k v rest

namespace Scan

def objectFields (value : Scan Json) : Nat → Bool → List (String × Json) → Scan (List (String × Json))
  | 0, _, acc => pure acc
  | fuel + 1, first, acc => do
    match ← nextKey first with
    | none => pure acc
    | some key =>
      colon
      let v ← value
      objectFields value fuel false (insertField key v acc)

/-- A document nested at most `depth - 1` deep. -/
def document : Nat → Scan Json
  | depth => fix do
    match ← peekToken with
    | some 110 => bump; keywordRest [117, 108, 108]; pure .null
    | some 116 => bump; keywordRest [114, 117, 101]; pure (.bool true)
    | some 102 => bump; keywordRest [97, 108, 115, 101]; pure (.bool false)
    | some 34 => .str <$> quoted
    | some 91 =>
      if h : depth ≤ 1 then failNext .recursionLimitExceeded
      else
        bump
        let t ← text
        .arr <$> enclosed (elements (document (depth - 1)) (t.size + 1) true []) closeArray
    | some 123 =>
      if h : depth ≤ 1 then failNext .recursionLimitExceeded
      else
        bump
        let t ← text
        .obj <$> enclosed (objectFields (document (depth - 1)) (t.size + 1) true []) closeObject
    | some b =>
      if b == 45 || isDigit b then .num <$> number else failNext .expectedSomeValue
    | none => failNext .eofWhileParsingValue
termination_by depth => depth
decreasing_by all_goals omega

end Scan

def parse (s : String) : Except Error Json := Scan.run (Scan.document 128) s

end NativeBridge.Json
