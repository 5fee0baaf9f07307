import Gazetteer.Json.Reader
import Gazetteer.Proofs.Json.Token

/-! Reading back what was printed.

Between the text of a value and the value stand its tokens (`Json.tokens`). Both forms of the text
have these tokens, since line breaks and indentation are no part of them, and the reader builds the
value of its tokens whatever is open around it. So a value is read back from either form
(`Json.read_render`, `Json.read_renderIndented`) if it has no floats, its integers are words and it
does not nest too deep. -/
namespace Gazetteer.Json

/-! ### Values that are read back -/

mutual
/-- The value holds no floats and only integers that are words, and arrays and objects stand in each
other no more than `room` deep. -/
def IsReadable (room : Nat) : Json → Prop
  | .int n => IsWord n
  | .float _ => False
  | .array items => 0 < room ∧ ItemsReadable (room - 1) items
  | .object members => 0 < room ∧ MembersReadable (room - 1) members
  | _ => True

def ItemsReadable (room : Nat) : List Json → Prop
  | [] => True
  | v :: items => v.IsReadable room ∧ ItemsReadable room items

def MembersReadable (room : Nat) : List (String × Json) → Prop
  | [] => True
  | (_, v) :: members => v.IsReadable room ∧ MembersReadable room members
end

theorem itemsReadable_iff {room : Nat} {items : List Json} :
    ItemsReadable room items ↔ ∀ v ∈ items, v.IsReadable room := by
  induction items with
  | nil => simp [ItemsReadable]
  | cons v items ih => rw [ItemsReadable, ih, List.forall_mem_cons]

/-! ### Tokens -/

mutual
def tokens : Json → List Token
  | .array items => .openArray :: itemTokens items
  | .object members => .openObject :: memberTokens members
  | v => [.scalar v]

/-- The tokens of the items after an opening bracket, with the closing one. -/
def itemTokens : List Json → List Token
  | [] => [.closeArray]
  | [v] => v.tokens ++ [.closeArray]
  | v :: items => v.tokens ++ .comma :: itemTokens items

/-- The tokens of the members after an opening brace, with the closing one. -/
def memberTokens : List (String × Json) → List Token
  | [] => [.closeObject]
  | [(name, v)] => .scalar (.string name) :: .colon :: v.tokens ++ [.closeObject]
  | (name, v) :: members =>
    .scalar (.string name) :: .colon :: v.tokens ++ .comma :: memberTokens members
end

/-! ### From the text to the tokens -/

section Text
open Token
variable {tail : List Char} {ts : List Token}

theorem endsNumber_cons {c : Char} (cs : List Char) (h : continuesNumber c = false) :
    EndsNumber (c :: cs) := fun _ hd => Option.some.inj hd ▸ h

theorem ofText_scalarText {room : Nat} {v : Json} (hv : v.IsReadable room)
    (harray : ∀ items, v ≠ .array items) (hobject : ∀ members, v ≠ .object members)
    (htail : EndsNumber tail) (h : ofText tail = some ts) :
    ofText (scalarText v ++ tail) = some (.scalar v :: ts) := by
  have hread : Token.read (scalarText v ++ tail) = some (.scalar v, tail) := by
    cases v with
    | null => rfl
    | bool b => cases b <;> rfl
    | int n => exact read_int hv htail
    | float f => exact hv.elim
    | string s => exact read_quote s tail
    | array items => exact absurd rfl (harray items)
    | object members => exact absurd rfl (hobject members)
  rw [ofText_of_read hread, h]
  rfl

mutual
theorem ofText_compact {room : Nat} {v : Json} {tail : List Char} {ts : List Token}
    (hv : v.IsReadable room) (htail : EndsNumber tail) (h : ofText tail = some ts) :
    ofText (v.compact ++ tail) = some (v.tokens ++ ts) := by
  cases v with
  | array items =>
    rw [compact, List.cons_append, ofText_openArray, ofText_compactItems hv.2 h]
    rfl
  | object members =>
    rw [compact, List.cons_append, ofText_openObject, ofText_compactMembers hv.2 h]
    rfl
  | float f => exact hv.elim
  | null | bool | int | string => exact ofText_scalarText hv nofun nofun htail h

theorem ofText_compactItems {room : Nat} {items : List Json} {tail : List Char} {ts : List Token}
    (hitems : ItemsReadable room items) (h : ofText tail = some ts) :
    ofText (compactItems items ++ tail) = some (itemTokens items ++ ts) := by
  match items with
  | [] =>
    rw [compactItems, List.singleton_append, ofText_closeArray, h]
    rfl
  | [v] =>
    rw [compactItems, itemTokens, List.append_assoc, List.append_assoc]
    refine ofText_compact hitems.1 (endsNumber_cons _ rfl) ?_
    rw [List.singleton_append, ofText_closeArray, h]
    rfl
  | v :: w :: items =>
    rw [compactItems, itemTokens, List.append_assoc, List.append_assoc]
    · refine ofText_compact hitems.1 (endsNumber_cons _ rfl) ?_
      rw [List.cons_append, ofText_comma, ofText_compactItems hitems.2 h]
      rfl
    · exact nofun
    · exact nofun

theorem ofText_compactMembers {room : Nat} {members : List (String × Json)} {tail : List Char}
    {ts : List Token} (hmembers : MembersReadable room members) (h : ofText tail = some ts) :
    ofText (compactMembers members ++ tail) = some (memberTokens members ++ ts) := by
  match members with
  | [] =>
    rw [compactMembers, List.singleton_append, ofText_closeObject, h]
    rfl
  | [(name, v)] =>
    have hvalue : ofText (v.compact ++ '}' :: tail) = some (v.tokens ++ .closeObject :: ts) := by
      refine ofText_compact hmembers.1 (endsNumber_cons _ rfl) ?_
      rw [ofText_closeObject, h]
      rfl
    simp only [compactMembers, memberTokens, List.append_assoc, List.cons_append, List.nil_append,
      ofText_quote, ofText_colon, hvalue, Option.map_some]
  | (name, v) :: m :: members =>
    have hvalue : ofText (v.compact ++ ',' :: (compactMembers (m :: members) ++ tail)) =
        some (v.tokens ++ .comma :: (memberTokens (m :: members) ++ ts)) := by
      refine ofText_compact hmembers.1 (endsNumber_cons _ rfl) ?_
      rw [ofText_comma, ofText_compactMembers hmembers.2 h]
      rfl
    simp only [compactMembers, memberTokens, List.append_assoc, List.cons_append,
      ofText_quote, ofText_colon, hvalue, Option.map_some]
end

mutual
theorem ofText_indented (depth : Nat) {room : Nat} {v : Json} {tail : List Char} {ts : List Token}
    (hv : v.IsReadable room) (htail : EndsNumber tail) (h : ofText tail = some ts) :
    ofText (v.indented depth ++ tail) = some (v.tokens ++ ts) := by
  match v with
  | .array [] =>
    simp only [indented, tokens, itemTokens, List.cons_append, List.nil_append, ofText_openArray,
      ofText_closeArray, h, Option.map_some]
  | .array (v :: items) =>
    have hitems := ofText_indentedItems depth hv.2 h
    simp only [indented, tokens, List.cons_append, List.append_assoc, ofText_openArray,
      ofText_newline, hitems, Option.map_some]
  | .object [] =>
    simp only [indented, tokens, memberTokens, List.cons_append, List.nil_append,
      ofText_openObject, ofText_closeObject, h, Option.map_some]
  | .object (m :: members) =>
    have hmembers := ofText_indentedMembers depth hv.2 h
    simp only [indented, tokens, List.cons_append, List.append_assoc, ofText_openObject,
      ofText_newline, hmembers, Option.map_some]
  | .float f => exact hv.elim
  | .null | .bool _ | .int _ | .string _ => exact ofText_scalarText hv nofun nofun htail h

theorem ofText_indentedItems (depth : Nat) {room : Nat} {items : List Json} {tail : List Char}
    {ts : List Token} (hitems : ItemsReadable room items) (h : ofText tail = some ts) :
    ofText (indentedItems depth items ++ tail) = some (itemTokens items ++ ts) := by
  match items with
  | [] =>
    simp only [indentedItems, itemTokens, List.append_assoc, List.singleton_append, ofText_newline,
      ofText_closeArray, h, Option.map_some]
  | [v] =>
    have hvalue : ofText (v.indented (depth + 1) ++ (newline depth ++ ']' :: tail)) =
        some (v.tokens ++ .closeArray :: ts) := by
      refine ofText_indented (depth + 1) hitems.1 (endsNumber_cons _ rfl) ?_
      rw [ofText_newline, ofText_closeArray, h]
      rfl
    simp only [indentedItems, itemTokens, List.append_assoc, List.singleton_append, hvalue]
  | v :: w :: items =>
    have hvalue : ofText (v.indented (depth + 1) ++ ',' :: (newline (depth + 1) ++
        (indentedItems depth (w :: items) ++ tail))) =
        some (v.tokens ++ .comma :: (itemTokens (w :: items) ++ ts)) := by
      refine ofText_indented (depth + 1) hitems.1 (endsNumber_cons _ rfl) ?_
      rw [ofText_comma, ofText_newline, ofText_indentedItems depth hitems.2 h]
      rfl
    simp only [indentedItems, itemTokens, List.append_assoc, List.cons_append, hvalue]

theorem ofText_indentedMembers (depth : Nat) {room : Nat} {members : List (String × Json)}
    {tail : List Char} {ts : List Token} (hmembers : MembersReadable room members)
    (h : ofText tail = some ts) :
    ofText (indentedMembers depth members ++ tail) = some (memberTokens members ++ ts) := by
  match members with
  | [] =>
    simp only [indentedMembers, memberTokens, List.append_assoc, List.singleton_append,
      ofText_newline, ofText_closeObject, h, Option.map_some]
  | [(name, v)] =>
    have hvalue : ofText (v.indented (depth + 1) ++ (newline depth ++ '}' :: tail)) =
        some (v.tokens ++ .closeObject :: ts) := by
      refine ofText_indented (depth + 1) hmembers.1 (endsNumber_cons _ rfl) ?_
      rw [ofText_newline, ofText_closeObject, h]
      rfl
    simp only [indentedMembers, memberTokens, List.append_assoc, List.cons_append, List.nil_append,
      ofText_quote, ofText_colon, ofText_space, hvalue, Option.map_some]
  | (name, v) :: m :: members =>
    have hvalue : ofText (v.indented (depth + 1) ++ ',' :: (newline (depth + 1) ++
        (indentedMembers depth (m :: members) ++ tail))) =
        some (v.tokens ++ .comma :: (memberTokens (m :: members) ++ ts)) := by
      refine ofText_indented (depth + 1) hmembers.1 (endsNumber_cons _ rfl) ?_
      rw [ofText_comma, ofText_newline, ofText_indentedMembers depth hmembers.2 h]
      rfl
    simp only [indentedMembers, memberTokens, List.append_assoc, List.cons_append, List.nil_append,
      ofText_quote, ofText_colon, ofText_space, hvalue, Option.map_some]
end

end Text

/-! ### From the tokens to the value -/

namespace Partial

/-- The reader waits for a value: anywhere, or at the start of an array. -/
inductive AwaitsValue : Partial → Prop
  | value {frames : List Frame} : AwaitsValue ⟨frames, .value⟩
  | item {outer : List Frame} : AwaitsValue ⟨.array [] :: outer, .itemOrEnd⟩

theorem AwaitsValue.add_eq_begin {p : Partial} (h : p.AwaitsValue) {t : Token}
    (ht : t ≠ .closeArray) : p.add t = begin p.frames t := by
  cases h with
  | value => rfl
  | item => cases t <;> first | rfl | exact absurd rfl ht

/-- There is room for arrays and objects in what is open. -/
def HasRoom (frames : List Frame) (room : Nat) : Prop := frames.length + room ≤ depthLimit

theorem HasRoom.lt {frames : List Frame} {room : Nat} (h : HasRoom frames room) (hroom : 0 < room) :
    frames.length < depthLimit := Nat.lt_of_lt_of_le (Nat.lt_add_of_pos_right hroom) h

theorem HasRoom.cons {frames : List Frame} {room : Nat} (h : HasRoom frames room)
    (hroom : 0 < room) (f : Frame) : HasRoom (f :: frames) (room - 1) := by
  unfold HasRoom at *
  rw [List.length_cons]
  omega

mutual
/-- The tokens of a value take the reader from where a value is due to behind the value. -/
theorem foldlM_tokens {room : Nat} {v : Json} (hv : v.IsReadable room) {p : Partial}
    (hp : p.AwaitsValue) (hroom : HasRoom p.frames room) (ts : List Token) :
    (v.tokens ++ ts).foldlM add p = ts.foldlM add ⟨p.frames, .next v⟩ := by
  match v with
  | .array items =>
    have hbegin : p.add .openArray = some ⟨.array [] :: p.frames, .itemOrEnd⟩ :=
      (hp.add_eq_begin Token.noConfusion).trans (if_pos (hroom.lt hv.1))
    rw [tokens, List.cons_append, List.foldlM_cons, hbegin]
    -- Only an empty array may end where an item is due.
    by_cases hne : items = []
    · rw [hne]
      rfl
    · exact foldlM_itemTokens hv.2 hne .item [] rfl (hroom.cons hv.1) ts
  | .object members =>
    have hbegin : p.add .openObject = some ⟨p.frames, .nameOrEnd p.frames⟩ :=
      (hp.add_eq_begin Token.noConfusion).trans (if_pos (hroom.lt hv.1))
    rw [tokens, List.cons_append, List.foldlM_cons, hbegin]
    by_cases hne : members = []
    · rw [hne]
      rfl
    · exact foldlM_memberTokens hv.2 hne [] (fun _ => rfl) (hroom.cons hv.1) ts
  | .float f => exact hv.elim
  | .null | .bool _ | .int _ | .string _ =>
    exact congrArg (· >>= ts.foldlM add) (hp.add_eq_begin Token.noConfusion)

/-- The tokens of items take the reader behind the array, which has the items that were there
before as well. -/
theorem foldlM_itemTokens {room : Nat} {items : List Json} (hitems : ItemsReadable room items)
    (hne : items ≠ []) {p : Partial} (hp : p.AwaitsValue) (done : List Json) {outer : List Frame}
    (hframes : p.frames = .array done :: outer) (hroom : ∀ f, HasRoom (f :: outer) room)
    (ts : List Token) :
    (itemTokens items ++ ts).foldlM add p =
      ts.foldlM add ⟨outer, .next (.array (done.reverse ++ items))⟩ := by
  match items with
  | [] => exact absurd rfl hne
  | [v] =>
    have hvalue := foldlM_tokens hitems.1 hp (hframes ▸ hroom _)
    rw [itemTokens, List.append_assoc, hvalue, hframes, ← List.reverse_cons]
    rfl
  | v :: w :: items =>
    have hvalue := foldlM_tokens hitems.1 hp (hframes ▸ hroom _)
    have hothers := foldlM_itemTokens hitems.2 nofun .value (v :: done) rfl hroom ts
    rw [List.reverse_cons, List.append_assoc] at hothers
    rw [itemTokens, List.append_assoc, hvalue, hframes]
    · exact hothers
    · exact nofun

theorem foldlM_memberTokens {room : Nat} {members : List (String × Json)}
    (hmembers : MembersReadable room members) (hne : members ≠ []) {p : Partial}
    (done : List (String × Json)) {outer : List Frame}
    (hp : ∀ name, p.add (.scalar (.string name)) = some ⟨.object done name :: outer, .colon⟩)
    (hroom : ∀ f, HasRoom (f :: outer) room) (ts : List Token) :
    (memberTokens members ++ ts).foldlM add p =
      ts.foldlM add ⟨outer, .next (.object (done.reverse ++ members))⟩ := by
  have hname (name : String) (ts : List Token) :
      (Token.scalar (.string name) :: .colon :: ts).foldlM add p =
        ts.foldlM add ⟨.object done name :: outer, .value⟩ := by
    rw [List.foldlM_cons, hp]
    rfl
  have hdue (name : String) : AwaitsValue ⟨.object done name :: outer, .value⟩ := .value
  match members with
  | [] => exact absurd rfl hne
  | [(name, v)] =>
    have hvalue := foldlM_tokens hmembers.1 (hdue name) (hroom _)
    simp only [memberTokens, List.cons_append, List.append_assoc, hname, hvalue,
      ← List.reverse_cons]
    rfl
  | (name, v) :: m :: members =>
    have hvalue := foldlM_tokens hmembers.1 (hdue name) (hroom _)
    have hothers := foldlM_memberTokens hmembers.2 nofun ((name, v) :: done)
      (p := ⟨outer, .name ((name, v) :: done) outer⟩) (fun _ => rfl) hroom ts
    rw [List.reverse_cons, List.append_assoc] at hothers
    simp only [memberTokens, List.cons_append, List.append_assoc, hname, hvalue]
    exact hothers
end

end Partial

/-! ### Reading back -/

theorem read_of_tokens {room : Nat} {v : Json} (hv : v.IsReadable room)
    (hroom : room ≤ Partial.depthLimit) {text : String}
    (htext : Token.ofText text.toList = some v.tokens) : read text = some v := by
  have hstart : Partial.HasRoom [] room := Nat.le_trans (Nat.le_of_eq (Nat.zero_add room)) hroom
  have hfold := Partial.foldlM_tokens hv .value hstart []
  rw [List.append_nil] at hfold
  simp only [read, htext, Partial.start, hfold, Option.bind_eq_bind, Option.bind_some]
  rfl

theorem read_render {room : Nat} {v : Json} (hv : v.IsReadable room)
    (hroom : room ≤ Partial.depthLimit) : read v.render = some v := by
  have htext := ofText_compact hv (fun _ => nofun : Token.EndsNumber []) Token.ofText_nil
  rw [List.append_nil, List.append_nil] at htext
  exact read_of_tokens hv hroom ((congrArg Token.ofText String.toList_ofList).trans htext)

theorem read_renderIndented {room : Nat} {v : Json} (hv : v.IsReadable room)
    (hroom : room ≤ Partial.depthLimit) : read (v.renderIndented ++ "\n") = some v := by
  have hnewline : Token.ofText ['\n'] = some [] :=
    (Token.ofText_newline [] 0).trans Token.ofText_nil
  have htext := ofText_indented 0 hv (endsNumber_cons _ rfl) hnewline
  rw [List.append_nil] at htext
  refine read_of_tokens hv hroom ?_
  rw [String.toList_append, renderIndented, String.toList_ofList]
  exact htext

end Gazetteer.Json
