import Spreadsheet.Proofs.Dependents
import Spreadsheet.Proofs.History

/-!
What an edit that fails leaves behind. A reference or an input that is refused changes nothing; later
failures undo nothing, so the cell that was entered stays, with whatever was recorded for it.
-/

namespace Spreadsheet

open DependencyGraph Stateful

namespace Workbook

variable {touched : CellId → Prop} {shown : Position → Prop} {start book after : Workbook}
  {id : String} {p : Position} {v : Value} {e : Failure}

/-- The sample with a third cell that divides by the first one. -/
def divided : Workbook := (sample.edit (⟨2, 0⟩ : Position).id (.value (.text "=1/A1"))).2

end Workbook
end Spreadsheet
