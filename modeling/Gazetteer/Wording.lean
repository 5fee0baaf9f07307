import Gazetteer.Regex.Search
import Gazetteer.Vocabulary

/-! What is said of text that is refused.

That a pattern or a document is refused is settled here; in which words is a matter of the engine
and the parsers that refuse it, so the words are a parameter. -/
namespace Gazetteer

/-- What the engine and the parsers say of text that they refuse. -/
structure Wording where
  /-- What is said of a pattern, under the options it was to be compiled with. -/
  pattern : Regex.Options → String → String
  /-- What is said of a document, in the format it was to be read in. -/
  document : Vocabulary.Format → String → String

end Gazetteer
