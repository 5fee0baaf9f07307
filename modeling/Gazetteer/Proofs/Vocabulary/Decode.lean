import Mathlib.Data.List.Forall2
import Gazetteer.Proofs.Vocabulary.Configuration
import Gazetteer.Proofs.Vocabulary.Place

/-! Reading configurations.

A configuration is read entry by entry, and an entry replaces an earlier one of the same name. What
comes of it can be said of the whole tree (`Vocabulary.readsExactly`): names stand in the order in
which they first occur and hold what their last entry says, and of what is wrong the first is
reported, whatever comes behind it.

The entries that have been read grow at their end. A group or a vocabulary that is right for them is
right with one more entry, or this entry is the first that is at fault. -/
namespace Gazetteer.Vocabulary

/-! ### What a configuration stands for -/

/-- The directive of a name or a number. -/
inductive IsFlagOf : Tree → Directive → Prop
  | token (name : String) : IsFlagOf (.string name) (.token name)
  | bits {n : Int} (h : IsFlag (.int n)) : IsFlagOf (.int n) (.bits n)

/-- The directive of the flags of a group: that of a name or a number, the names of a list of names,
or the directives of a list that has a number in it. -/
inductive Directs : Tree → Directive → Prop
  | flag {v : Tree} {directive : Directive} (h : IsFlagOf v directive) : Directs v directive
  | tokens (names : List String) : Directs (.list (names.map .string)) (.tokens names)
  | mixed {items : List Tree} {directives : List Directive}
      (h : List.Forall₂ IsFlagOf items directives) {n : Int} (hn : .int n ∈ items) :
      Directs (.list items) (.mixed directives)

/-- The names of the entries of a mapping. -/
def keyNames (entries : List (Tree × Tree)) : List String := entries.filterMap (·.1.name?)

/-- The value of the last entry of a name. -/
def lastUnder? (name : String) (entries : List (Tree × Tree)) : Option Tree :=
  (entries.reverse.find? (·.1.name? == some name)).map (·.2)

/-- The group that the entries of a mapping stand for. -/
structure IsGroupOf (name : String) (entries : List (Tree × Tree)) (g : TermGroup) : Prop where
  name : g.name = name
  /-- Terms stand in the order in which their names first occur. -/
  names : g.terms.map Term.name = ((keyNames entries).filter (· != flagsKey)).eraseDups
  nodup : (g.terms.map Term.name).Nodup
  patterns : ∀ t ∈ g.terms, lastUnder? t.name entries = some (.string t.pattern)
  flags : Option.Rel Directs (lastUnder? flagsKey entries) g.flags

/-- The vocabulary that the entries of a mapping stand for. -/
structure IsVocabularyOf (entries : List (Tree × Tree)) (v : Vocabulary) : Prop where
  /-- Groups stand in the order in which their names first occur. -/
  names : v.groups.map TermGroup.name = (keyNames entries).eraseDups
  nodup : (v.groups.map TermGroup.name).Nodup
  groups : ∀ g ∈ v.groups, ∃ terms, lastUnder? g.name entries = some (.mapping terms) ∧
    IsGroupOf g.name terms g

theorem keyNames_concat {key : Tree} {name : String} (entries : List (Tree × Tree)) (value : Tree)
    (h : key.name? = some name) :
    keyNames (entries ++ [(key, value)]) = keyNames entries ++ [name] := by
  have hname : keyNames [(key, value)] = [name] := by simp [keyNames, h]
  rw [keyNames, List.filterMap_append]
  exact congrArg _ hname

theorem lastUnder?_concat {key : Tree} {name : String} (n : String) (entries : List (Tree × Tree))
    (value : Tree) (h : key.name? = some name) :
    lastUnder? n (entries ++ [(key, value)]) =
      if name = n then some value else lastUnder? n entries := by
  unfold lastUnder?
  rw [find?_reverse_concat, h]
  by_cases hn : name = n <;> simp [hn]

/-! ### Outcomes -/

/-- A reading ends with something that is right, or reports the first of the faults. -/
inductive Reports {α : Type} (R : α → Prop) : List Fault → Except Error α → Prop
  | ok {a : α} (h : R a) : Reports R [] (.ok a)
  | error (f : Fault) (others : List Fault) : Reports R (f :: others) (.error f.error)

namespace Reports
variable {α β : Type} {R : α → Prop} {S : β → Prop} {fs fs' : List Fault} {x : Except Error α}

/-- What is read behind something at fault does not count. -/
theorem bind {f : α → Except Error β} (hx : Reports R fs x)
    (hf : ∀ a, R a → Reports S fs' (f a)) : Reports S (fs ++ fs') (x >>= f) := by
  cases hx with
  | ok h => exact hf _ h
  | error f others => exact .error f (others ++ fs')

theorem map {f : α → β} (hx : Reports R fs x) (hf : ∀ a, R a → S (f a)) :
    Reports S fs (x >>= fun a => pure (f a)) := by
  rw [← List.append_nil fs]
  exact hx.bind fun a ha => .ok (hf a ha)

theorem imp {R' : α → Prop} (hx : Reports R fs x) (h : ∀ a, R a → R' a) : Reports R' fs x := by
  cases hx with
  | ok ha => exact .ok (h _ ha)
  | error f others => exact .error f others

theorem of_eq_ok {a : α} (hx : Reports R fs x) (h : x = .ok a) : R a := by
  cases hx with
  | ok ha => exact Except.ok.inj h ▸ ha
  | error => exact absurd h (by simp)

end Reports

/-! ### Flags -/

theorem reports_flagOfTree (group : String) (v : Tree) :
    Reports (IsFlagOf v) (flagFaults group v) (flagOfTree group v) := by
  cases v with
  | string name => exact .ok (.token name)
  | int n =>
    rw [flagOfTree, flagFaults]
    by_cases h : IsFlag (.int n)
    · rw [if_pos h, if_pos (isSigned64_iff.mpr h)]
      exact .ok (.bits h)
    · rw [if_neg h, if_neg (mt isSigned64_iff.mp h)]
      exact .error ⟨.flags group, .int n⟩ []
  | _ => exact .error ⟨.flags group, _⟩ []

theorem reports_flagsOfItems (group : String) (items : List Tree) :
    Reports (List.Forall₂ IsFlagOf items) (items.flatMap (flagFaults group))
      (flagsOfItems group items) := by
  induction items with
  | nil => exact .ok .nil
  | cons v items ih =>
    exact (reports_flagOfTree group v).bind fun d hd => ih.map fun ds hds => .cons hd hds

/-- A list of flags has only names in it, or a number. -/
theorem directs_list {items : List Tree} {directives : List Directive}
    (h : List.Forall₂ IsFlagOf items directives) :
    match tokens? directives with
    | some names => items = names.map .string
    | none => ∃ n, .int n ∈ items := by
  induction h with
  | nil => rfl
  | cons hflag _ ih =>
    cases hflag with
    | token name =>
      rename_i directives _
      unfold tokens?
      cases htokens : tokens? directives with
      | none =>
        rw [htokens] at ih
        obtain ⟨n, hn⟩ := ih
        exact ⟨n, List.mem_cons_of_mem _ hn⟩
      | some names =>
        rw [htokens] at ih
        exact congrArg _ ih
    | @bits n _ => exact ⟨n, List.mem_cons_self⟩

theorem reports_flagsOfTree (group : String) (v : Tree) :
    Reports (Directs v) (flagsFaults group v) (flagsOfTree group v) := by
  cases v with
  | list items =>
    rw [flagsFaults, ← List.append_nil (items.flatMap _)]
    refine (reports_flagsOfItems group items).bind fun directives h => ?_
    have hlist := directs_list h
    cases htokens : tokens? directives with
    | some names =>
      rw [htokens] at hlist
      obtain rfl := hlist
      exact .ok (.tokens names)
    | none =>
      rw [htokens] at hlist
      obtain ⟨n, hn⟩ := hlist
      exact .ok (.mixed h hn)
  | _ => exact (reports_flagOfTree group _).imp fun _ => .flag

/-! ### Groups -/

section Groups
variable {name term : String} {entries : List (Tree × Tree)} {g : TermGroup} {key value : Tree}

/-- What the flags of a group say is kept apart from its terms. -/
theorem IsGroupOf.name_ne (h : IsGroupOf name entries g) {t : Term} (ht : t ∈ g.terms) :
    t.name ≠ flagsKey := by
  have hname : t.name ∈ g.terms.map Term.name := List.mem_map_of_mem ht
  rw [h.names, List.mem_eraseDups] at hname
  simpa using (List.mem_filter.mp hname).2

theorem IsGroupOf.insertTerm (h : IsGroupOf name entries g) (hkey : key.name? = some term)
    (hterm : term ≠ flagsKey) (pattern : String) :
    IsGroupOf name (entries ++ [(key, .string pattern)]) (g.insertTerm term pattern) := by
  have hterms : (g.insertTerm term pattern).terms = place Term.name ⟨term, pattern⟩ g.terms :=
    TermGroup.insertInto_eq_place _ _
  have hlast := fun n => lastUnder?_concat n entries (.string pattern) hkey
  refine ⟨h.name, ?_, ?_, fun t ht => ?_, ?_⟩
  · have hfilter : [term].filter (· != flagsKey) = [term] := by simp [hterm]
    rw [hterms, map_place, keyNames_concat _ _ hkey, List.filter_append, hfilter, eraseDups_concat,
      h.names]
    simp only [List.mem_eraseDups]
  · rw [hterms]
    exact nodup_map_place h.nodup
  · rw [hterms] at ht
    rw [hlast]
    rcases eq_or_mem_of_mem_place h.nodup ht with rfl | ⟨ht, hne⟩
    · exact if_pos rfl
    · rw [if_neg (Ne.symm hne)]
      exact h.patterns t ht
  · rw [hlast, if_neg hterm]
    exact h.flags

theorem IsGroupOf.setFlags (h : IsGroupOf name entries g) (hkey : key.name? = some flagsKey)
    {directive : Directive} (hd : Directs value directive) :
    IsGroupOf name (entries ++ [(key, value)]) (g.setFlags (some directive)) := by
  have hlast := fun n => lastUnder?_concat n entries value hkey
  refine ⟨h.name, ?_, h.nodup, fun t ht => ?_, ?_⟩
  · have hfilter : [flagsKey].filter (· != flagsKey) = [] := by simp
    rw [keyNames_concat _ _ hkey, List.filter_append, hfilter, List.append_nil]
    exact h.names
  · rw [hlast, if_neg (Ne.symm (h.name_ne ht))]
    exact h.patterns t ht
  · rw [hlast, if_pos rfl]
    exact .some hd

end Groups

/-! ### Vocabularies -/

section Vocabularies
variable {name : String} {entries terms : List (Tree × Tree)} {v : Vocabulary} {g : TermGroup}
  {key : Tree}

theorem IsVocabularyOf.insertGroup (h : IsVocabularyOf entries v) (hkey : key.name? = some name)
    (hg : IsGroupOf name terms g) :
    IsVocabularyOf (entries ++ [(key, .mapping terms)]) (v.insertGroup g) := by
  obtain rfl := hg.name
  have hgroups : (v.insertGroup g).groups = place TermGroup.name g v.groups :=
    insertInto_eq_place _ _
  refine ⟨?_, ?_, fun d hd => ?_⟩
  · rw [hgroups, map_place, keyNames_concat _ _ hkey, eraseDups_concat, h.names]
    simp only [List.mem_eraseDups]
  · rw [hgroups]
    exact nodup_map_place h.nodup
  · rw [hgroups] at hd
    rw [lastUnder?_concat d.name entries _ hkey]
    rcases eq_or_mem_of_mem_place h.nodup hd with rfl | ⟨hd, hne⟩
    · exact ⟨terms, if_pos rfl, hg⟩
    · rw [if_neg (Ne.symm hne)]
      exact h.groups d hd

end Vocabularies

/-- The pattern that is at fault would have been replaced by the next. -/
example :
    ofTree (.mapping [(.string "G", .mapping [(.bool true, .null), (.string "true", .string "x")])]) =
      .error (.configType "pattern for 'G.true' (null)" "a string") := by
  rfl

end Gazetteer.Vocabulary
