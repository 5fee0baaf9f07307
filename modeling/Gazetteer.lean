import Gazetteer.Main
import Gazetteer.Proofs.Group.Choice
import Gazetteer.Proofs.Group.Priority
import Gazetteer.Proofs.Group.Slots
import Gazetteer.Proofs.Group.Source
import Gazetteer.Proofs.Group.WordBoundary
import Gazetteer.Proofs.Matching.Between
import Gazetteer.Proofs.Matching.Outcome
import Gazetteer.Proofs.Matching.Search
import Gazetteer.Proofs.Matching.Thread
import Gazetteer.Proofs.Outline.Agreement
import Gazetteer.Proofs.Outline.Anchors
import Gazetteer.Proofs.Outline.Class
import Gazetteer.Proofs.Outline.Framing
import Gazetteer.Proofs.Outline.Passage
import Gazetteer.Proofs.Outline.Separators
import Gazetteer.Proofs.Reading.Blank
import Gazetteer.Proofs.Reading.Bracket
import Gazetteer.Proofs.Reading.ClassRun
import Gazetteer.Proofs.Reading.Draft
import Gazetteer.Proofs.Reading.Escape
import Gazetteer.Proofs.Reading.Flags
import Gazetteer.Proofs.Reading.Groups
import Gazetteer.Proofs.Reading.Outermost
import Gazetteer.Proofs.Reading.Primitive
import Gazetteer.Proofs.Reading.Renumber
import Gazetteer.Proofs.Reading.Token
import Gazetteer.Proofs.Reading.Within
import Gazetteer.Proofs.Matching.Extent
import Gazetteer.Proofs.Group.Extraction
import Gazetteer.Proofs.Group.Isolation
import Gazetteer.Proofs.Recognizer.Merge
import Gazetteer.Proofs.Group.Rows
import Gazetteer.Proofs.Narrowing.Class
import Gazetteer.Proofs.Narrowing.Draft
import Gazetteer.Proofs.Narrowing.Pattern
import Gazetteer.Proofs.Vocabulary.History
import Gazetteer.Proofs.Vocabulary.Decode
import Gazetteer.Proofs.Entity.Lists
import Gazetteer.Proofs.Report.Records
import Gazetteer.Proofs.Report.Entities
import Gazetteer.Proofs.Report.Rows
import Gazetteer.Proofs.Entity.Display
import Gazetteer.Proofs.Command.Outcome
import Gazetteer.Proofs.Group.Rejection
import Gazetteer.Proofs.Symbol.Table
import Gazetteer.Proofs.Outline.Pieces
import Gazetteer.Proofs.Narrowing.Pieces
import Gazetteer.Proofs.Group.Comment
import Gazetteer.Proofs.Text.CharSpan
import Gazetteer.Proofs.Entity.Order
import Gazetteer.Proofs.Flags.Directive
import Gazetteer.Proofs.Entity.Untyped
import Gazetteer.Proofs.Discovery.Chain
import Gazetteer.Proofs.Discovery.Nearest
import Gazetteer.Proofs.Reading.Living
import Gazetteer.Proofs.Group.Ownership
