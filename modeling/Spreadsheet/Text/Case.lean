import Spreadsheet.Text.Case.Lower
import Spreadsheet.Text.Case.Upper

/-! Upper and lower case of text in every script. -/

namespace Spreadsheet.Text

/-- The code points that replace a character, the character itself if no table has it. -/
def mapCase (runs : List CaseRun) (expansions : List (Nat × List Nat)) (c : Char) : List Char :=
  -- No character is both in a run and in an expansion, so the order of the look-ups is free.
  match expansions.lookup c.toNat with
  | some codes => codes.map Char.ofNat
  | none =>
    match runs.findSome? (·.image? c.toNat) with
    | some code => [Char.ofNat code]
    | none => [c]

/-- The upper case of a character, which may be several characters. -/
def upperChar (c : Char) : List Char :=
  -- ASCII needs no table.
  if c.toNat < 0x80 then [c.toUpper] else mapCase upperRuns upperExpansions c

/-- The lower case of a character that is not a capital sigma. -/
def lowerChar (c : Char) : List Char :=
  -- ASCII needs no table.
  if c.toNat < 0x80 then [c.toLower] else mapCase lowerRuns lowerExpansions c

/-- The nearest character that is not a mark has a case. -/
def meetsCased (cs : List Char) : Bool :=
  -- Marks between a letter and its neighbour are passed over.
  match cs.dropWhile (inSpans caselessMarks) with
  | [] => false
  | c :: _ => inSpans casedSpans c

/-- Lower case of the rest of a text, given the part already passed, nearest character first. -/
def lowerFrom : List Char → List Char → List Char
  | _, [] => []
  | passed, c :: rest =>
    -- A capital sigma takes its final form behind a letter that no letter follows.
    let image :=
      if c = 'Σ' then [if meetsCased passed && !meetsCased rest then 'ς' else 'σ']
      else lowerChar c
    image ++ lowerFrom (c :: passed) rest

/-- A text in upper case. -/
def upper (s : String) : String :=
  -- Characters change independently of one another.
  String.ofList (s.toList.flatMap upperChar)

/-- A text in lower case. -/
def lower (s : String) : String :=
  -- Only the sigma looks at its surroundings.
  String.ofList (lowerFrom [] s.toList)

end Spreadsheet.Text
