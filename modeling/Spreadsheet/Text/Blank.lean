import Spreadsheet.Text.Span

/-! Blank characters: which they are, and cutting them off the ends of a text. -/

namespace Spreadsheet.Text

/-- White space of every script, with the four information separators. -/
def blankSpans : List Span :=
  [(0x09, 0x0D), (0x1C, 0x20), (0x85, 0x85), (0xA0, 0xA0), (0x1680, 0x1680), (0x2000, 0x200A),
    (0x2028, 0x2029), (0x202F, 0x202F), (0x205F, 0x205F), (0x3000, 0x3000)]

/-- A blank character. -/
def isBlank (c : Char) : Bool :=
  -- The table is the definition.
  inSpans blankSpans c

/-- One of the four information separators, U+001C to U+001F. -/
def isSeparator (c : Char) : Bool :=
  -- They are blank between tokens, yet no number may stand behind one.
  0x1C ≤ c.toNat && c.toNat ≤ 0x1F

/-- Drops what satisfies `p` from both ends. -/
def trimBy (p : Char → Bool) (cs : List Char) : List Char :=
  -- The far end is the near end of the reversed list.
  ((cs.dropWhile p).reverse.dropWhile p).reverse

/-- Drops the blanks from both ends. -/
def trim (cs : List Char) : List Char :=
  -- Inner blanks stay.
  trimBy isBlank cs

end Spreadsheet.Text
