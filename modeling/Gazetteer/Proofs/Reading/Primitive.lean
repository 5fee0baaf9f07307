import Gazetteer.Proofs.Reading.Token

/-! Tokens that are a pattern of their own.

A token is added to a draft as an item only if it is a single character, a condition or a class.
Everything with parts is put together by the draft. -/
namespace Gazetteer.Regex

/-- Whether a pattern has no parts that are patterns. -/
def Ast.isPrimitive : Ast → Bool
  | .literal _ _ | .dot | .assertion _ | .set _ => true
  | _ => false

namespace Escape

/-- The letter that names a class behind a backslash. -/
def letter : EscapeClass → Bool → Char
  | .digit, false => 'd'
  | .digit, true => 'D'
  | .space, false => 's'
  | .space, true => 'S'
  | .word, false => 'w'
  | .word, true => 'W'

/-- What an escape can say that begins with a character. -/
inductive Says : Char → Ast → Prop
  | literal {c d : Char} {byte : Bool} : Says c (.literal d byte)
  | assertion {c : Char} {edge : Assertion} (h : edge = .wordBoundary → c = 'b') :
    Says c (.assertion edge)
  | oneLetter (k : EscapeClass) (negated : Bool) :
    Says (letter k negated) (.set (.escape k negated))
  | property {c : Char} {q : PropertyQuery} {negated : Bool} : Says c (.set (.property q negated))

variable {verbose : Bool} {c : Char} {cs rest : List Char} {a : Ast}

theorem Says.isPrimitive (h : Says c a) : a.isPrimitive := by
  cases h <;> rfl

theorem says_of_readCode {width : Nat} (h : readCode verbose width cs = some (a, rest)) :
    Says c a := by
  unfold readCode at h
  split at h
  · split at h
    · split at h
      · exact absurd h (by simp)
      · obtain ⟨c, -, hc⟩ := Option.map_eq_some_iff.1 h
        obtain ⟨rfl, -⟩ := Prod.mk.inj hc
        exact .literal
    · exact absurd h (by simp)
  · split at h
    · obtain ⟨c, -, hc⟩ := Option.map_eq_some_iff.1 h
      obtain ⟨rfl, -⟩ := Prod.mk.inj hc
      exact .literal
    · exact absurd h (by simp)

theorem says_of_readProperty {negated : Bool}
    (h : readProperty verbose negated cs = some (a, rest)) : Says c a := by
  unfold readProperty at h
  split at h
  · exact absurd h (by simp)
  · split at h
    · obtain ⟨rfl, -⟩ := Prod.mk.inj (Option.some.inj h)
      exact .property
    · exact absurd h (by simp)
  · split at h
    · exact absurd h (by simp)
    · obtain ⟨rfl, -⟩ := Prod.mk.inj (Option.some.inj h)
      exact .property

theorem edge_of_readBoundary (h : readBoundary verbose cs = some (a, rest)) :
    ∃ edge, a = .assertion edge := by
  unfold readBoundary at h
  simp only at h
  split at h
  · split at h
    · exact absurd h (by simp)
    · split at h
      · split at h
        · obtain ⟨edge, -, hedge⟩ := Option.map_eq_some_iff.1 h
          obtain ⟨rfl, -⟩ := Prod.mk.inj hedge
          exact ⟨_, rfl⟩
        · exact absurd h (by simp)
      · obtain ⟨rfl, -⟩ := Prod.mk.inj (Option.some.inj h)
        exact ⟨_, rfl⟩
  · obtain ⟨rfl, -⟩ := Prod.mk.inj (Option.some.inj h)
    exact ⟨_, rfl⟩

theorem says_of_ofChar? (h : ofChar? c = some a) : Says c a := by
  unfold ofChar? at h
  split at h
  case h_1 => exact Option.some.inj h ▸ .oneLetter .digit false
  case h_2 => exact Option.some.inj h ▸ .oneLetter .digit true
  case h_3 => exact Option.some.inj h ▸ .oneLetter .space false
  case h_4 => exact Option.some.inj h ▸ .oneLetter .space true
  case h_5 => exact Option.some.inj h ▸ .oneLetter .word false
  case h_6 => exact Option.some.inj h ▸ .oneLetter .word true
  case h_18 =>
    split at h
    · exact Option.some.inj h ▸ .literal
    · exact absurd h (by simp)
  case h_13 | h_14 | h_15 | h_16 | h_17 => exact Option.some.inj h ▸ .assertion (by simp)
  all_goals exact Option.some.inj h ▸ .literal

theorem says_of_read (h : read verbose (c :: cs) = some (a, rest)) : Says c a := by
  unfold read at h
  split at h
  case h_1 heq => exact absurd heq (by simp)
  case h_2 | h_3 | h_4 => exact says_of_readCode h
  case h_5 | h_6 => exact says_of_readProperty h
  case h_7 heq =>
    obtain ⟨edge, rfl⟩ := edge_of_readBoundary h
    exact .assertion fun _ => (List.cons.inj heq).1
  case h_8 heq =>
    obtain ⟨rfl, -⟩ := List.cons.inj heq
    obtain ⟨a', ha, heq⟩ := Option.map_eq_some_iff.1 h
    obtain ⟨rfl, -⟩ := Prod.mk.inj heq
    exact says_of_ofChar? ha

theorem Spells.meaning {z : List Char} (h : Spells verbose (c :: z) a) : Says c a := by
  obtain ⟨rest, hread, -⟩ := h.reads [] fun _ => rfl
  exact says_of_read hread

end Escape

namespace Token

theorem isPrimitive_of_single? {c : Char} {a : Ast} (h : single? c = some a) :
    a.isPrimitive := by
  unfold single? at h
  split at h
  · exact absurd h (by simp)
  · split at h
    all_goals
      obtain rfl := Option.some.inj h
      rfl

theorem opens_of_readGroup {cs rest : List Char} {t : Token}
    (h : readGroup cs = some (t, rest)) :
    (∃ start, t = .openGroup start) ∨ ∃ changes, t = .flags changes := by
  unfold readGroup at h
  split at h
  case h_5 | h_6 =>
    obtain ⟨_, -, heq⟩ := Option.map_eq_some_iff.1 h
    exact .inl ⟨_, (Prod.mk.inj heq).1.symm⟩
  case h_7 =>
    split at h
    · exact absurd h (by simp)
    · exact .inl ⟨_, (Prod.mk.inj (Option.some.inj h)).1.symm⟩
    · split at h
      · exact absurd h (by simp)
      · exact .inr ⟨_, (Prod.mk.inj (Option.some.inj h)).1.symm⟩
  case h_8 => exact .inl ⟨_, (Prod.mk.inj (Option.some.inj h)).1.symm⟩
  all_goals exact absurd h (by simp)

/-- A question mark behind a parenthesis opens a group or sets flags. -/
theorem Head.opens {h : List Char} {t : Token} (hh : Head h t) :
    (∃ start, t = .openGroup start) ∨ ∃ changes, t = .flags changes :=
  opens_of_readGroup (hh.reads [])

/-- Whether the item that the token is, if it is one, has no parts. -/
def isSimple : Token → Bool
  | .atom a => a.isPrimitive
  | _ => true

def isBar : Token → Bool
  | .bar => true
  | _ => false

theorem Lexeme.isSimple {verbose : Bool} {tl w : List Char} {t : Token}
    (h : Lexeme verbose tl w t) : t.isSimple := by
  cases h with
  | escape he hends =>
    obtain ⟨c, z, -, rfl, -, -⟩ := he.shape
    exact he.meaning.isPrimitive
  | single hc => exact isPrimitive_of_single? hc
  | group _ hh => rcases hh.opens with ⟨_, rfl⟩ | ⟨_, rfl⟩ <;> rfl
  | _ => rfl

theorem Lexeme.eq_bar {verbose : Bool} {tl w : List Char} (h : Lexeme verbose tl w .bar) :
    w = ['|'] := by
  cases h with
  | group _ hh => rcases hh.opens with ⟨_, h⟩ | ⟨_, h⟩ <;> exact absurd h (by simp)
  | bar => rfl

end Token
end Gazetteer.Regex
