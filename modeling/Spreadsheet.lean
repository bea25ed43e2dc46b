import Spreadsheet.Text.Blank
import Spreadsheet.Text.Digit
import Spreadsheet.Text.Case
import Spreadsheet.Text.Quoted
import Spreadsheet.Text.Decimal
import Spreadsheet.Fault
import Spreadsheet.Number.Double
import Spreadsheet.Number.Layout
import Spreadsheet.Number.Literal
import Spreadsheet.Number.Power
import Spreadsheet.Number.Summary
import Spreadsheet.Value.Convert
import Spreadsheet.Token.Lexer
import Spreadsheet.Expr.Parser
import Spreadsheet.Operator.Apply
import Spreadsheet.Function.Builtin
import Spreadsheet.Graph
import Spreadsheet.Worksheet
import Spreadsheet.Evaluator
import Spreadsheet.Session
import Spreadsheet.Proofs.Graph.Reach
import Spreadsheet.Proofs.Graph.Search
import Spreadsheet.Proofs.Graph.Links
import Spreadsheet.Proofs.Expr.Parser
import Spreadsheet.Proofs.Editing
import Spreadsheet.Proofs.Cache
import Spreadsheet.Proofs.Evaluator.Reference
import Spreadsheet.Proofs.Caching
import Spreadsheet.Proofs.Recalculation
import Spreadsheet.Proofs.Evaluator.Behaves
import Spreadsheet.Proofs.Invalidation
import Spreadsheet.Proofs.Evaluator.Failures
import Spreadsheet.Proofs.Evaluator.Dependence
import Spreadsheet.Proofs.Evaluator.Records
import Spreadsheet.Proofs.Spelling
import Spreadsheet.Proofs.Frame
import Spreadsheet.Proofs.Dependents
import Spreadsheet.Proofs.Failing
import Spreadsheet.Proofs.Respelling
import Spreadsheet.Proofs.Expr.Written
import Spreadsheet.Proofs.Cache.History
import Spreadsheet.Proofs.Graph.History
import Spreadsheet.Proofs.Graph.Cycle
import Spreadsheet.Proofs.Graph.Order
import Spreadsheet.Proofs.Graph.Closure
import Spreadsheet.Proofs.Cache.Cascade
import Spreadsheet.Proofs.Cache.Batch
import Spreadsheet.Proofs.Recalculation.Order
import Spreadsheet.Proofs.Evaluator.Nested
import Spreadsheet.Proofs.Evaluator.Edges
import Spreadsheet.Proofs.Evaluator.Repeated
import Spreadsheet.Proofs.Token.Reread
import Spreadsheet.Proofs.Worksheet
import Spreadsheet.Proofs.Token.Recased
import Spreadsheet.Proofs.Position.Id
import Spreadsheet.Proofs.Area
import Spreadsheet.Proofs.Number.Writable
import Spreadsheet.Proofs.Operator.Operands
import Spreadsheet.Proofs.Number.Worth
import Spreadsheet.Proofs.Number.Rounding
import Spreadsheet.Proofs.Number.Nearest
import Spreadsheet.Proofs.Number.Arithmetic
import Spreadsheet.Proofs.Number.Power
import Spreadsheet.Proofs.Number.Decimal
import Spreadsheet.Proofs.Number.Leading
import Spreadsheet.Proofs.Function.Argument
import Spreadsheet.Proofs.Function.Native
import Spreadsheet.Proofs.Function.Textual
import Spreadsheet.Proofs.Function.Aggregate
import Spreadsheet.Proofs.Function.Statistics
import Spreadsheet.Proofs.Function.Draw
import Spreadsheet.Proofs.Function.Damage
import Spreadsheet.Proofs.Function.Rounding
