import Gazetteer.Error

/-! What the message of an error mentions.

A message mentions everything that its error is about: what was asked for, what there is to choose
from, the path, the reason (`Error.mentions_message`). What the engine or a parser says is in it as
it was said, whatever that is. -/
namespace Gazetteer

/-! ### Mentioning -/

/-- The parts stand in the text, each behind the one before. -/
def Mentions (text : String) : List String → Prop
  | [] => True
  | part :: parts =>
    ∃ before behind, text = before ++ part ++ behind ∧ Mentions behind parts

namespace Mentions
variable {s t part : String} {parts others : List String}

theorem nothing (s : String) : Mentions s [] := trivial

theorem after (s : String) (h : Mentions t parts) : Mentions (s ++ t) parts := by
  cases parts with
  | nil => trivial
  | cons part parts =>
    obtain ⟨before, behind, rfl, hrest⟩ := h
    exact ⟨s ++ before, behind, by simp only [String.append_assoc], hrest⟩

theorem append (h : Mentions s parts) (h' : Mentions t others) :
    Mentions (s ++ t) (parts ++ others) := by
  induction parts generalizing s with
  | nil => exact h'.after s
  | cons part parts ih =>
    obtain ⟨before, behind, rfl, hrest⟩ := h
    exact ⟨before, behind ++ t, by simp only [String.append_assoc], ih hrest⟩

theorem self (part : String) : Mentions part [part] :=
  ⟨"", "", by rw [String.empty_append, String.append_empty], trivial⟩

theorem before (t : String) (h : Mentions s parts) : Mentions (s ++ t) parts := by
  have happend := h.append (nothing t)
  rwa [List.append_nil] at happend

/-- One part more stands behind the others. -/
theorem next (part : String) (h : Mentions s parts) : Mentions (s ++ part) (parts ++ [part]) :=
  h.append (self part)

/-- A list in a text is mentioned in its order. -/
theorem intercalate (separator : String) (parts : List String) :
    Mentions (separator.intercalate parts) parts := by
  induction parts with
  | nil => trivial
  | cons part parts ih =>
    cases parts with
    | nil =>
      rw [String.intercalate_singleton]
      exact self part
    | cons other parts =>
      rw [String.intercalate_cons_cons, String.append_assoc]
      exact (self part).append (ih.after separator)

end Mentions

/-! ### Messages -/

/-- What the message of a flag error mentions: what was given, and the flags there are. -/
def FlagError.named : FlagError → List String
  | .unknownToken token => token :: FlagName.words
  | .unknownBits bits => toString bits :: FlagName.words

theorem FlagError.mentions_message (e : FlagError) : Mentions e.message e.named := by
  have hwords := Mentions.intercalate ", " FlagName.words
  cases e with
  | unknownToken token =>
    exact ((((Mentions.nothing "invalid flag '").next token).before "' (allowed values: ").append
      hwords).before ")"
  | unknownBits bits =>
    exact ((((Mentions.nothing "invalid flag value ").next (toString bits)).before
      " (allowed flags: ").append hwords).before ")"

/-- What the message of a compile error mentions. -/
def CompileError.named (w : Wording) : CompileError → List String
  | .emptyGroup => []
  | .symbolCollision c => [c.first, c.second, c.symbol]
  | .flags cause => cause.named
  | .invalidRegex options pattern => [w.pattern options pattern]

theorem CompileError.mentions_message (w : Wording) (e : CompileError) :
    Mentions (e.message w) (e.named w) := by
  cases e with
  | emptyGroup => trivial
  | symbolCollision c =>
    exact ((((((Mentions.nothing "terms '").next c.first).before "' and '").next c.second).before
      "' both map to capture symbol '").next c.symbol).before "'"
  | flags cause => exact cause.mentions_message
  | invalidRegex options pattern => exact (Mentions.nothing _).next _

namespace Error

/-- What the message of an error mentions: what was given or asked for, and behind it what would
have been valid, or why it fails. -/
def named (w : Wording) : Error → List String
  | .configType found expected => [found, expected]
  | .config message _ => [message]
  | .malformed format text _ => [w.document format text]
  | .unknownGroup group valid => group :: valid
  | .unknownTerm group term valid => term :: group :: valid
  | .unknownMethod method => method :: methodNames
  | .listType found => [found]
  | .compilation group cause => group :: cause.named w
  | .argument text => [text]
  | .io path reason => [path, reason]

theorem mentions_allowed (valid : List String) : Mentions (allowed valid) valid :=
  ((Mentions.nothing " (allowed values: ").append (.intercalate ", " valid)).before ")"

/-- **A message mentions what its error is about.** -/
theorem mentions_message (w : Wording) (e : Error) : Mentions (e.message w) (e.named w) := by
  cases e with
  | configType found expected =>
    exact ((Mentions.self found).before " is not a valid pattern config: expected ").next expected
  | config message path => exact (Mentions.nothing _).next message
  | malformed format text path => exact (Mentions.nothing _).next (w.document format text)
  | unknownGroup group valid =>
    exact (((Mentions.nothing "unknown entity group '").next group).before "'").append
      (mentions_allowed valid)
  | unknownTerm group term valid =>
    exact (((((Mentions.nothing "'").next term).before "' is not a valid term for '").next
      group).before "'").append (mentions_allowed valid)
  | unknownMethod method =>
    exact (((Mentions.nothing "'").next method).before "' is not a valid method").append
      (mentions_allowed methodNames)
  | listType found => exact (Mentions.nothing _).next found
  | compilation group cause =>
    exact (((Mentions.nothing "failed to compile entity group '").next group).before "': ").append
      (cause.mentions_message w)
  | argument text => exact (Mentions.nothing _).next text
  | io path reason =>
    exact (((Mentions.nothing "io error: ").next path).before ": ").next reason

end Error
end Gazetteer
