import Gazetteer.Proofs.Reading.Renumber

/-! A text read inside a group.

A draft may be worked on inside another one, in a group that was just opened there: `Draft.within`.
Each token that the inner draft takes does the same to both, unless it reuses a name, and the
whole text is refused then. -/
namespace Gazetteer.Regex

namespace Level

def renumber (f : Nat → Nat) (l : Level) : Level :=
  ⟨l.branches.map (Ast.renumber f), l.items.map (Ast.renumber f)⟩

variable {f : Nat → Nat}

theorem push_renumber (l : Level) (a : Ast) :
    (l.push a).renumber f = (l.renumber f).push (a.renumber f) := rfl

theorem branch_renumber (l : Level) : (l.renumber f).branch = l.branch.renumber f := by
  unfold branch
  rw [Ast.renumber_ofItems, List.map_reverse]
  rfl

theorem bar_renumber (l : Level) : l.bar.renumber f = (l.renumber f).bar := by
  unfold bar
  rw [branch_renumber]
  rfl

theorem content_renumber (l : Level) : (l.renumber f).content = l.content.renumber f := by
  unfold content
  rw [branch_renumber, Ast.renumber_ofBranches, List.map_reverse]
  rfl

theorem repeatLast_renumber (l : Level) (least : Nat) (most : Option Nat) (greedy : Bool) :
    (l.renumber f).repeatLast least most greedy =
      (l.repeatLast least most greedy).map (renumber f) := by
  obtain ⟨branches, items⟩ := l
  cases items with
  | nil => rfl
  | cons a items =>
    show (if (a.renumber f).isRepeatable then some _ else none) =
      (if a.isRepeatable then some _ else none).map _
    rw [Ast.isRepeatable_renumber]
    split <;> rfl

end Level

namespace GroupKind

def renumber (f : Nat → Nat) : GroupKind → GroupKind
  | .capture index name => .capture (f index) name
  | .plain changes => .plain changes

theorem renumber_group (f : Nat → Nat) (kind : GroupKind) (inner : Ast) :
    (Ast.group kind inner).renumber f = .group (kind.renumber f) (inner.renumber f) := by
  cases kind <;> rfl

end GroupKind

namespace Draft

/-- The draft `e` as it goes on inside `d`, where a group was just opened. -/
def within (d e : Draft) : Draft where
  level := e.level.renumber (d.captures + ·)
  opened :=
    e.opened.map (fun g => ⟨g.kind.renumber (d.captures + ·), g.outer.renumber (d.captures + ·),
      g.verbose⟩) ++ d.opened
  verbose := e.verbose
  captures := d.captures + e.captures
  names := e.names ++ d.names

theorem within_start {d : Draft} (h : d.level = .empty) : d.within (.start d.verbose) = d := by
  obtain ⟨level, opened, verbose, captures, names⟩ := d
  obtain rfl : level = .empty := h
  rfl

/-- A token has the same effect inside. -/
theorem add_within {d e e' x : Draft} {t : Token} (ht : t.isSimple) (he : e.add t = some e')
    (hx : (d.within e).add t = some x) : x = d.within e' := by
  unfold add at he
  split at he
  · unfold openGroup at he
    split at he
    · obtain rfl := Option.some.inj he
      exact (Option.some.inj hx).symm
    · split at he
      · exact absurd he (by simp)
      · obtain rfl := Option.some.inj he
        rename_i name _
        have hx : (if (e.names ++ d.names).contains name then none else some _) = some x := hx
        split at hx
        · exact absurd hx (by simp)
        · exact (Option.some.inj hx).symm
    · obtain rfl := Option.some.inj he
      exact (Option.some.inj hx).symm
  · obtain rfl := Option.some.inj he
    exact (Option.some.inj hx).symm
  · split at he
    · exact absurd he (by simp)
    · rename_i g opened hopened
      obtain rfl := Option.some.inj he
      unfold add within at hx
      rw [hopened] at hx
      obtain rfl := Option.some.inj hx
      unfold within
      rw [Level.push_renumber, GroupKind.renumber_group, ← Level.content_renumber]
      rfl
  · obtain rfl := Option.some.inj he
    obtain rfl := Option.some.inj hx
    unfold within
    rw [Level.bar_renumber]
  · rename_i least most greedy
    obtain ⟨l, hl, rfl⟩ := Option.map_eq_some_iff.1 he
    have hx : ((e.level.renumber (d.captures + ·)).repeatLast least most greedy).map _ = some x :=
      hx
    rw [Level.repeatLast_renumber, hl] at hx
    exact (Option.some.inj hx).symm
  · obtain rfl := Option.some.inj he
    obtain rfl := Option.some.inj hx
    unfold within
    rw [Level.push_renumber, Ast.renumber_of_isPrimitive ht]

/-- A text that can be read alone is read the same inside, up to the text behind it. -/
theorem Lexed.addText_within {d e d₀ z : Draft} {cs tail : List Char} {o : Bool}
    (h : Lexed d cs e o) (hn : Neutral e.verbose o tail)
    (hz : (d₀.within d).addText (cs ++ tail) = some z) :
    (d₀.within e).addText (if o then dropBlanks true tail else tail) = some z := by
  induction h with
  | @blank d b o hb =>
    rw [← hz]
    exact (addText_congr (d := d₀.within d) (hb.skip tail)).symm
  | @token d d' e b w tl t o hb hw hsolid ha hlexed ih =>
    have hw' : Token.Lexeme d.verbose (tl ++ tail) w t := hw.congr fun ht => by
      rw [← verbose_of_lasts ht ha]
      exact hlexed.alike hn
    rw [List.append_assoc, List.append_assoc] at hz
    cases hadd : (d₀.within d).add t with
    | none =>
      rw [addText_token_none (d := d₀.within d) hb hw' hsolid hadd] at hz
      exact absurd hz (by simp)
    | some x =>
      rw [addText_token (d := d₀.within d) hb hw' hsolid hadd] at hz
      rw [add_within hw.isSimple ha hadd] at hz
      exact ih hn hz

end Draft
end Gazetteer.Regex
