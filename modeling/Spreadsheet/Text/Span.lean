/-! Tables of code points: spans of them, and runs that share one distance to their other case. -/

namespace Spreadsheet.Text

/-- The first and the last code point of a span, both included. -/
abbrev Span := Nat × Nat

/-- A character that lies in one of the spans. -/
def inSpans (spans : List Span) (c : Char) : Bool :=
  -- The spans are few and disjoint, so any hit decides.
  spans.any fun (first, last) => first ≤ c.toNat && c.toNat ≤ last

/-- Every `stride`-th code point from `first` to `last`, each `shift` away from its other case. -/
structure CaseRun where
  first : Nat
  last : Nat
  stride : Nat
  shift : Int

namespace CaseRun

/-- The code point that a run gives for a member of it. -/
def image? (run : CaseRun) (code : Nat) : Option Nat :=
  -- Membership is lying between the ends at a whole number of strides.
  if run.first ≤ code && code ≤ run.last && (code - run.first) % run.stride == 0 then
    some (code + run.shift).toNat
  else none

end CaseRun
end Spreadsheet.Text
