import Gazetteer.Proofs.Narrowing.Draft

/-! Texts that are refused.

A draft refuses a text if no token can be read first in it or the token has no place in the draft
(`Draft.Refuses`). It still does so with other groups around it, with its items narrowed or with
anchors between them. Apart from that, the groups that are open behind a text and whether it is
verbose there depend on nothing else that was read before (`Draft.Lexed.addText_frames`). -/
namespace Gazetteer.Regex

open Pattern (Outline)

/-! ### Tokens without a place -/

/-- Whether a repetition has something to repeat. -/
def Level.canRepeat (l : Level) : Bool := l.items.head?.any Ast.isRepeatable

theorem Level.repeatLast_of_not_canRepeat {l : Level} (h : l.canRepeat = false) (least : Nat)
    (most : Option Nat) (greedy : Bool) : l.repeatLast least most greedy = none := by
  unfold canRepeat at h
  unfold repeatLast
  cases hitems : l.items with
  | nil => rfl
  | cons a items =>
    rw [hitems] at h
    exact if_neg (by simpa using h)

theorem Level.canRepeat_renumber (f : Nat → Nat) (l : Level) :
    (l.renumber f).canRepeat = l.canRepeat := by
  obtain ⟨branches, items⟩ := l
  cases items with
  | nil => rfl
  | cons a items => exact Ast.isRepeatable_renumber f a

theorem Level.canRepeat_asciiOnly (l : Level) : l.asciiOnly.canRepeat = l.canRepeat := by
  obtain ⟨branches, items⟩ := l
  cases items with
  | nil => rfl
  | cons a items => exact Ast.isRepeatable_asciiOnly a

namespace Draft

/-- Whether a token has no place in the draft: it uses a name again or has nothing to repeat. If
anchors are still to be placed (`bounded`), one of them could be repeated where an alternative of
the whole pattern begins. -/
def Rejects (bounded : Bool) (d : Draft) : Token → Prop
  | .openGroup (.capture (some name)) => name ∈ d.names
  | .repetition _ _ _ =>
    d.level.canRepeat = false ∧ (bounded → d.opened ≠ [] ∨ d.level.items ≠ [])
  | _ => False

/-- The text begins with a token that cannot be read or has no place in the draft. -/
structure Refuses (bounded : Bool) (d : Draft) (cs : List Char) : Prop where
  solid : cs.head?.any (isSolid d.verbose)
  rejects : ∀ t rest, Token.read d.verbose cs = some (t, rest) → d.Rejects bounded t

variable {bounded : Bool} {d d' e x x' z : Draft} {t : Token} {cs tail : List Char}

theorem Rejects.add_within (h : e.Rejects bounded t) (d : Draft) : (d.within e).add t = none := by
  unfold Rejects at h
  split at h
  · rename_i name
    have hmem : (e.names ++ d.names).contains name := by
      simpa using Or.inl h
    exact if_pos hmem
  · rename_i least most greedy
    have hlevel := Level.repeatLast_of_not_canRepeat
      ((Level.canRepeat_renumber (d.captures + ·) e.level).trans h.1) least most greedy
    exact Option.map_eq_none_iff.mpr hlevel
  · exact h.elim

theorem Rejects.asciiOnly (h : d.Rejects bounded t) : d.asciiOnly.Rejects bounded t := by
  unfold Rejects at h ⊢
  split at h
  · exact h
  · refine ⟨(Level.canRepeat_asciiOnly d.level).trans h.1, fun hb => (h.2 hb).imp ?_ ?_⟩
    · exact mt List.map_eq_nil_iff.mp
    · exact mt List.map_eq_nil_iff.mp
  · exact h

/-- An anchor that stands before other items is not repeated in their place. -/
theorem Rejects.anchored (h : d.Rejects true t) (a : Ast) (done : List Ast) :
    (d.anchored a done).Rejects false t := by
  unfold Rejects at h ⊢
  split at h
  · exact h
  · refine ⟨?_, fun hb => absurd hb (by simp)⟩
    obtain ⟨level, opened, verbose, captures, names⟩ := d
    cases opened with
    | cons g opened => exact h.1
    | nil =>
      obtain ⟨branches, items⟩ := level
      cases items with
      | nil => exact ((h.2 rfl).elim (· rfl) (· rfl)).elim
      | cons b items => exact h.1
  · exact h

/-- No draft that is verbose where `d` is and has no place for the same tokens goes on with the
text. -/
theorem Refuses.addText_eq_none (h : d.Refuses bounded cs) (hv : x.verbose = d.verbose)
    (hx : ∀ t, d.Rejects bounded t → x.add t = none) : x.addText cs = none := by
  cases cs with
  | nil => exact absurd h.solid (by simp)
  | cons c cs =>
    have hsolid : isSolid d.verbose c := h.solid
    rw [addText_eq, hv, skipBlanks_of_isSolid hsolid]
    simp only
    cases hread : Token.read d.verbose (c :: cs) with
    | none => rfl
    | some r => exact congrArg (Option.bind · _) (hx r.1 (h.rejects r.1 r.2 hread))

theorem Refuses.addText_within (h : e.Refuses bounded cs) (d : Draft) :
    (d.within e).addText cs = none :=
  h.addText_eq_none (x := d.within e) rfl fun _ ht => ht.add_within d

theorem Refuses.asciiOnly (h : d.Refuses bounded cs) : d.asciiOnly.Refuses bounded cs :=
  ⟨h.solid, fun t rest hread => (h.rejects t rest hread).asciiOnly⟩

theorem Refuses.anchored (h : d.Refuses true cs) (a : Ast) (done : List Ast) :
    (d.anchored a done).Refuses false cs :=
  ⟨h.solid, fun t rest hread => (h.rejects t rest hread).anchored a done⟩

/-- A class that no bracket closes is refused. -/
theorem refuses_of_not_mem (h : ']' ∉ cs) : d.Refuses bounded ('[' :: cs) := by
  refine ⟨by cases d.verbose <;> rfl, fun t rest hread => ?_⟩
  obtain ⟨w, tl, htext, -, hw⟩ := Token.read_sound hread
  cases hw with
  | @set o u b s ho hu =>
    obtain ⟨p, rfl⟩ := hu.closed.last
    rw [List.cons_append] at htext
    obtain ⟨-, rfl⟩ := List.cons.inj htext
    exact absurd (by simp) h
  | many hc | few hc | single hc =>
    obtain ⟨rfl, -⟩ := List.cons.inj htext
    have hc : none = some _ := hc
    exact absurd hc (by simp)
  | _ => exact absurd (List.cons.inj htext).1 (by decide)

/-! ### Open groups -/

/-- Whether it is verbose around each of the open groups, innermost first. -/
def frames (d : Draft) : List Bool := d.opened.map OpenGroup.verbose

theorem add_frames (hv : x.verbose = d.verbose) (hf : x.frames = d.frames) (ha : d.add t = some d')
    (hx : x.add t = some x') : x'.verbose = d'.verbose ∧ x'.frames = d'.frames := by
  obtain ⟨level, opened, verbose, captures, names⟩ := d
  obtain ⟨level', opened', verbose', captures', names'⟩ := x
  obtain rfl : verbose' = verbose := hv
  have hf : opened'.map OpenGroup.verbose = opened.map OpenGroup.verbose := hf
  have hcons : ∀ b, b :: opened'.map OpenGroup.verbose = b :: opened.map OpenGroup.verbose :=
    fun b => congrArg (b :: ·) hf
  cases t with
  | openGroup s =>
    match s with
    | .capture none =>
      obtain rfl := Option.some.inj ha
      obtain rfl := Option.some.inj hx
      exact ⟨rfl, hcons verbose'⟩
    | .capture (some name) =>
      have ha : (if names.contains name then none else some _) = some d' := ha
      have hx : (if names'.contains name then none else some _) = some x' := hx
      split at ha
      · exact absurd ha (by simp)
      · split at hx
        · exact absurd hx (by simp)
        · obtain rfl := Option.some.inj ha
          obtain rfl := Option.some.inj hx
          exact ⟨rfl, hcons verbose'⟩
    | .plain changes =>
      obtain rfl := Option.some.inj ha
      obtain rfl := Option.some.inj hx
      exact ⟨rfl, hcons verbose'⟩
  | closeGroup =>
    cases opened with
    | nil => exact absurd ha (by simp [Draft.add])
    | cons g opened =>
      cases opened' with
      | nil => exact absurd hx (by simp [Draft.add])
      | cons g' opened' =>
        obtain rfl := Option.some.inj ha
        obtain rfl := Option.some.inj hx
        exact List.cons.inj hf
  | repetition least most greedy =>
    obtain ⟨l, -, rfl⟩ := Option.map_eq_some_iff.1 ha
    obtain ⟨l', -, rfl⟩ := Option.map_eq_some_iff.1 hx
    exact ⟨rfl, hf⟩
  | flags _ | bar | atom _ =>
    obtain rfl := Option.some.inj ha
    obtain rfl := Option.some.inj hx
    exact ⟨rfl, hf⟩

/-- A text opens and closes the same groups in every draft with the same groups open. -/
theorem Lexed.addText_frames {o : Bool} (h : Lexed d cs e o) (hn : Neutral e.verbose o tail)
    (hv : x.verbose = d.verbose) (hf : x.frames = d.frames)
    (hz : x.addText (cs ++ tail) = some z) :
    ∃ y : Draft, y.verbose = e.verbose ∧ y.frames = e.frames ∧
      y.addText (if o then dropBlanks true tail else tail) = some z := by
  induction h generalizing x with
  | @blank d b o hb =>
    refine ⟨x, hv, hf, ?_⟩
    rw [← hz]
    refine (addText_congr ?_).symm
    rw [hv]
    exact hb.skip tail
  | @token d d' e b w tl t o hb hw hsolid ha hlexed ih =>
    have hw' : Token.Lexeme d.verbose (tl ++ tail) w t := hw.congr fun ht => by
      rw [← verbose_of_lasts ht ha]
      exact hlexed.alike hn
    rw [List.append_assoc, List.append_assoc] at hz
    rw [← hv] at hb hw' hsolid
    cases hadd : x.add t with
    | none =>
      rw [addText_token_none hb hw' hsolid hadd] at hz
      exact absurd hz (by simp)
    | some x' =>
      rw [addText_token hb hw' hsolid hadd] at hz
      obtain ⟨hv', hf'⟩ := add_frames hv hf ha hadd
      exact ih hn hv' hf' hz

/-! ### Texts that were read -/

/-- A text that an item can follow leaves no comment open. -/
theorem Lexed.of_addText (he : d.addText cs = some e) (hx : d.addText (cs ++ ['.']) = some x)
    (hne : x.level.items ≠ e.level.items) : Lexed d cs e false := by
  obtain ⟨o, h⟩ := addText_sound he
  cases o with
  | false => exact h
  | true =>
    have hn : Neutral e.verbose true ['.'] := by
      refine ⟨by simp, ?_, rfl⟩
      cases e.verbose <;> simp [upcoming, skipBlanks, dropBlanks]
    rw [h.addText_append hn] at hx
    have hx : e.addText [] = some x := hx
    rw [addText_nil] at hx
    exact absurd (congrArg (·.level.items) (Option.some.inj hx)).symm hne

theorem addText_dot (d : Draft) : d.addText ['.'] = some (d.push .dot) := by
  have hsolid : isSolid d.verbose '.' := by cases d.verbose <;> decide
  have hread : d.addText ['.'] = (d.push .dot).addText [] :=
    addText_token (b := []) (w := ['.']) (Blank.nil _) (.single rfl) hsolid rfl
  exact hread.trans (addText_nil _)

theorem items_push_ne {a : Ast} (h : x.level.items = e.level.items) :
    (x.push a).level.items ≠ e.level.items := by
  intro heq
  have hlength := congrArg List.length (heq.trans h.symm)
  simp [push, Level.push] at hlength

/-- Behind a text the scan is as deep in groups as the reader. -/
theorem Lexed.after {scanned o : Bool} (h : Lexed d cs e o) (ha : d.agrees scanned cs) :
    (Outline.level d.opened.length).after scanned cs =
      { Outline.level e.opened.length with inComment := o } := by
  induction h with
  | blank hb => exact (agrees_blank hb ha _).after
  | @token d d' e b w tl t o hb hw hsolid hadd hlexed ih =>
    obtain ⟨-, hinert, hpass, hrest⟩ := agrees_token hb hw hsolid hadd ha
    rw [Outline.after_append, Outline.after_append, (hinert _).after, ← ih hrest]
    congr 1
    rw [length_opened hadd]
    by_cases hbar : t = .bar
    · subst hbar
      obtain rfl := hw.eq_bar
      rfl
    · exact (hpass hbar _).after

end Draft
end Gazetteer.Regex
