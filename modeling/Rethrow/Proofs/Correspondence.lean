import Mathlib.Data.List.Forall2
import Rethrow.Proofs.Patch

/-!
Nodes before and after a batch of fixes. A node that is still there has the kind and the part that it had; what is
looked up below it is found again, and words and constructor names read as before.
-/
set_option autoImplicit false

namespace Rethrow

section Related
variable {α β γ δ : Type} {related : α → β → Prop} {result : γ → δ → Prop}

theorem rel_inversion {left : Option α} {right : Option β} (both : Option.Rel related left right) :
    left = none ∧ right = none ∨ ∃ a b, left = some a ∧ right = some b ∧ related a b := by
  cases both with
  | none => exact .inl ⟨rfl, rfl⟩
  | some pair => exact .inr ⟨_, _, rfl, rfl, pair⟩

theorem rel_bind {left : Option α} {right : Option β} {f : α → Option γ} {g : β → Option δ}
    (both : Option.Rel related left right)
    (step : ∀ a b, left = some a → related a b → Option.Rel result (f a) (g b)) :
    Option.Rel result (left.bind f) (right.bind g) := by
  cases both with
  | none => exact .none
  | some pair => exact step _ _ rfl pair

theorem rel_find {p : α → Bool} {q : β → Bool} {lefts : List α} {rights : List β}
    (pairs : List.Forall₂ related lefts rights) (agree : ∀ a b, related a b → p a = q b) :
    Option.Rel related (lefts.find? p) (rights.find? q) := by
  induction pairs with
  | nil => exact .none
  | @cons left right lefts rights pair _ ih =>
      rw [List.find?_cons, List.find?_cons, agree left right pair]
      cases q right with
      | true => exact .some pair
      | false => exact ih

theorem rel_head {lefts : List α} {rights : List β} (pairs : List.Forall₂ related lefts rights) :
    Option.Rel related lefts.head? rights.head? := by
  cases pairs with
  | nil => exact .none
  | cons pair _ => exact .some pair

theorem rel_last {lefts : List α} {rights : List β} (pairs : List.Forall₂ related lefts rights) :
    Option.Rel related lefts.getLast? rights.getLast? := by
  rw [← List.head?_reverse, ← List.head?_reverse]
  exact rel_head (List.rel_reverse pairs)

theorem exists_left {lefts : List α} {rights : List β} (pairs : List.Forall₂ related lefts rights) (right : β)
    (member : right ∈ rights) : ∃ left, related left right := by
  induction pairs with
  | nil => cases member
  | cons pair _ ih =>
      rcases List.mem_cons.mp member with rfl | later
      · exact ⟨_, pair⟩
      · exact ih later

theorem exists_right {lefts : List α} {rights : List β} (pairs : List.Forall₂ related lefts rights) (left : α)
    (member : left ∈ lefts) : ∃ right, related left right := exists_left pairs.flip left member

theorem rel_guard {p q : Prop} [Decidable p] [Decidable q] (agree : p ↔ q) :
    Option.Rel (fun (_ _ : Unit) => True) (guard p) (guard q) := by
  by_cases holds : p
  · rw [guard, guard, if_pos holds, if_pos (agree.mp holds)]
    exact .some trivial
  · rw [guard, guard, if_neg holds, if_neg fun other => holds (agree.mpr other)]
    exact .none

end Related

/-- The script `after` is what reading the fixed text of `before` gives. -/
structure Repaired (before after : Script) (names : List String) (reads : String → Bool) : Prop where
  sound : before.ErrorFree
  words : before.root.PlainWords
  dotted : ∀ name ∈ names, '(' ∉ name.toList
  again : after.ErrorFree
  tree : before.patched after reads (before.amended names) before.root after.root = true

/-- A node of the old tree that is still there, and the node that it became. -/
structure Matches (before after : Script) (names : List String) (reads : String → Bool) (old new : Node) : Prop where
  old_mem : old ∈ before.root.preorder
  new_mem : new ∈ after.root.preorder
  patched : before.patched after reads (before.amended names) old new = true

theorem forall₂_members {α β : Type} {related : α → β → Prop} {lefts : List α} {rights : List β}
    (pairs : List.Forall₂ related lefts rights) :
    List.Forall₂ (fun left right => left ∈ lefts ∧ right ∈ rights ∧ related left right) lefts rights := by
  rw [List.forall₂_iff_zip] at pairs ⊢
  refine ⟨pairs.1, fun {left right} member => ?_⟩
  have both := List.of_mem_zip member
  exact ⟨both.1, both.2, pairs.2 member⟩

namespace Matches

variable {before after : Script} {names : List String} {reads : String → Bool} {old new : Node}

theorem kind (pair : Matches before after names reads old new) : new.kind = old.kind :=
  ((Script.patched_iff old new).mp pair.patched).1

theorem role (pair : Matches before after names reads old new) : new.role = old.role :=
  ((Script.patched_iff old new).mp pair.patched).2.1

theorem children_of_clear (pair : Matches before after names reads old new)
    (clear : ∀ child ∈ old.children, ∀ lapse ∈ before.amended names, lapse.candidate.place ≠ child) :
    List.Forall₂ (Matches before after names reads) old.children new.children := by
  have pairs := Script.patched_all_clear _ _ clear ((Script.patched_iff old new).mp pair.patched).2.2.2
  refine (forall₂_members pairs).imp ?_
  rintro child other ⟨direct, otherDirect, patched⟩
  exact ⟨Node.child_mem _ old _ pair.old_mem direct,
    Node.child_mem _ new _ pair.new_mem otherDirect,
    patched⟩

theorem children (pair : Matches before after names reads old new) (numbered : before.root.Numbered)
    (kind : old.kind ≠ .arguments) : List.Forall₂ (Matches before after names reads) old.children new.children :=
  pair.children_of_clear fun _ direct lapse member same =>
    kind (Script.place_kind numbered lapse member old pair.old_mem (same ▸ direct)).1

theorem lists_of_touched (pair : Matches before after names reads old new) (numbered : before.root.Numbered)
    (touched : ¬ old.Untouched (before.amended names)) :
    (∃ list ∈ old.preorder, list.kind = .arguments) ∧ ∃ list ∈ new.preorder, list.kind = .arguments := by
  induction old using Node.tree_induction generalizing new with
  | step old ih =>
      by_cases kind : old.kind = .arguments
      · exact ⟨⟨old, Node.self_mem_preorder old, kind⟩, new, Node.self_mem_preorder new, pair.kind.trans kind⟩
      · simp only [Node.Untouched, not_forall, not_not] at touched
        obtain ⟨lapse, member, below⟩ := touched
        obtain ⟨child, direct, held⟩ := (Node.mem_descendants_iff _ _).mp below
        have deeper : lapse.candidate.place ∈ child.descendants := by
          rcases (Node.mem_preorder_iff _ _).mp held with same | deeper
          · exact absurd (Script.place_kind numbered lapse member old pair.old_mem (same ▸ direct)).1 kind
          · exact deeper
        obtain ⟨index, bound, rfl⟩ := List.mem_iff_getElem.mp direct
        have pairs := List.forall₂_iff_get.mp (pair.children numbered kind)
        have otherBound : index < new.children.length := pairs.1 ▸ bound
        have otherDirect := List.getElem_mem otherBound
        have lifted := ih _ direct (pairs.2 index bound otherBound) fun clear => clear lapse member deeper
        obtain ⟨⟨list, inList, listKind⟩, other, inOther, otherKind⟩ := lifted
        have listBelow := (Node.mem_descendants_iff old list).mpr ⟨_, direct, inList⟩
        have otherBelow := (Node.mem_descendants_iff new other).mpr ⟨_, otherDirect, inOther⟩
        exact ⟨⟨list, Node.descendant_mem_preorder _ _ listBelow, listKind⟩,
          other, Node.descendant_mem_preorder _ _ otherBelow, otherKind⟩

theorem text_or_parenthesis (pair : Matches before after names reads old new) (sound : before.ErrorFree)
    (again : after.ErrorFree) :
    after.text new = before.text old ∨ '(' ∈ (before.text old).toList ∧ '(' ∈ (after.text new).toList := by
  by_cases untouched : old.Untouched (before.amended names)
  · exact .inl (((Script.patched_iff old new).mp pair.patched).2.2.1 untouched)
  · obtain ⟨⟨list, held, kind⟩, other, otherHeld, otherKind⟩ := pair.lists_of_touched sound.orderly.numbered untouched
    exact .inr ⟨before.parenthesis_in_text sound old list pair.old_mem held kind,
      after.parenthesis_in_text again new other pair.new_mem otherHeld otherKind⟩

theorem named_iff (pair : Matches before after names reads old new) (repaired : Repaired before after names reads) :
    after.text new ∈ names ↔ before.text old ∈ names := by
  rcases pair.text_or_parenthesis repaired.sound repaired.again with same | ⟨opened, newOpened⟩
  · rw [same]
  · exact ⟨fun listed => absurd newOpened (repaired.dotted _ listed),
      fun listed => absurd opened (repaired.dotted _ listed)⟩

-- A word has no throw in it, and it is no part of the way from a throw to its arguments.
theorem word_text (pair : Matches before after names reads old new) (repaired : Repaired before after names reads)
    (word : old.kind.isWord = true) : after.text new = before.text old := by
  refine ((Script.patched_iff old new).mp pair.patched).2.2.1 fun lapse member below => ?_
  have numbered := repaired.sound.orderly.numbered
  have owns := Script.amended_owns lapse member
  obtain ⟨between, constructor, list, rest, made⟩ := owns.shape
  have listMember := Node.below_mem _ _ _ owns.statement_mem made.list_below
  have direct := made.place_child lapse.name (Script.amended_lapse lapse member).2
  have listInside := Node.parent_inside before.root old list _ numbered pair.old_mem listMember direct below
  rcases Node.preorder_nested before.root lapse.candidate.statement old list numbered owns.statement_mem pair.old_mem
    (Node.descendant_mem_preorder _ _ made.list_below) listInside with held | held
  · rcases (Node.mem_preorder_iff _ _).mp held with same | inside
    · rw [← same, owns.throws] at word
      cases word
    · exact repaired.words old pair.old_mem word _ inside owns.throws
  · have notThrow : old ≠ lapse.candidate.statement := by
      rintro rfl
      rw [owns.throws] at word
      cases word
    have inside := ((Node.mem_preorder_iff _ _).mp held).resolve_left notThrow
    rcases (Node.mem_preorder_iff _ _).mp listInside with same | above
    · rw [← same, made.listKind] at word
      cases word
    · have part := Node.numbered_part _ _ numbered owns.statement_mem
      rcases made.above_list part old inside above with kind | kind | kind
      all_goals
        rw [kind] at word
        cases word

end Matches

namespace Matches

variable {before after : Script} {names : List String} {reads : String → Bool} {old new : Node}

theorem child (pair : Matches before after names reads old new) (numbered : before.root.Numbered)
    (kind : old.kind ≠ .arguments) (role : Role) :
    Option.Rel (Matches before after names reads) (old.child? role) (new.child? role) :=
  rel_find (pair.children numbered kind) fun _ _ both => by rw [both.role]

theorem significant_of_children
    (pairs : List.Forall₂ (Matches before after names reads) old.children new.children) :
    List.Forall₂ (Matches before after names reads) old.significant new.significant :=
  List.rel_filter (fun _ _ both => by simp [both.kind]) pairs

theorem unwrapped (pair : Matches before after names reads old new) (numbered : before.root.Numbered) :
    Option.Rel (Matches before after names reads) old.unwrapped new.unwrapped := by
  induction old using Node.tree_induction generalizing new with
  | step old ih =>
      rw [Node.unwrapped_eq, Node.unwrapped_eq, pair.kind]
      by_cases wrapped : old.kind = .parenthesized
      · rw [if_pos wrapped, if_pos wrapped]
        have pairs := significant_of_children (pair.children numbered (by simp [wrapped]))
        refine rel_bind (rel_head pairs) fun inner other first both => ?_
        exact ih inner (Node.significant_head_mem old inner first) both
      · rw [if_neg wrapped, if_neg wrapped]
        exact .some pair

theorem constructor (pair : Matches before after names reads old new) (numbered : before.root.Numbered) :
    Option.Rel (Matches before after names reads) old.constructor? new.constructor? := by
  unfold Node.constructor?
  rw [pair.kind]
  split
  · rename_i kind
    exact pair.child numbered (by simp [kind]) _
  · rename_i kind
    exact pair.child numbered (by simp [kind]) _
  · exact .none

theorem key_name (pair : Matches before after names reads old new) (repaired : Repaired before after names reads) :
    after.keyName? new = before.keyName? old := by
  unfold Script.keyName?
  rw [pair.kind]
  split
  · rename_i kind
    rw [pair.word_text repaired (by rw [kind]; rfl)]
  · rename_i kind
    rw [pair.word_text repaired (by rw [kind]; rfl)]
  · rfl

theorem cause_value (pair : Matches before after names reads old new) (repaired : Repaired before after names reads) :
    Option.Rel (Matches before after names reads) (before.causeValue? old) (after.causeValue? new) := by
  have numbered := repaired.sound.orderly.numbered
  unfold Script.causeValue?
  rw [pair.kind]
  split
  · rename_i kind
    refine rel_bind (pair.child numbered (by simp [kind]) .key) fun key key' _ keys => ?_
    refine rel_bind (pair.child numbered (by simp [kind]) .value) fun value value' _ values => ?_
    refine rel_bind (rel_guard (by rw [keys.key_name repaired])) fun _ _ _ _ => ?_
    exact .some values
  · rename_i kind
    rw [pair.word_text repaired (by rw [kind]; rfl)]
    split
    · exact .some pair
    · exact .none
  · exact .none

theorem cause (pair : Matches before after names reads old new) (repaired : Repaired before after names reads)
    (kind : old.kind = .object) :
    Option.Rel (Matches before after names reads) (before.cause? old) (after.cause? new) :=
  rel_last (List.rel_filterMap (fun _ _ both => both.cause_value repaired)
    (pair.children repaired.sound.orderly.numbered (by simp [kind])))

theorem is_named (pair : Matches before after names reads old new) (repaired : Repaired before after names reads)
    (name : String) : after.isNamed name new = before.isNamed name old := by
  unfold Script.isNamed
  rw [pair.kind]
  by_cases plain : old.kind = .identifier ∨ old.kind = .shorthand
  · have word : old.kind.isWord = true := by
      rcases plain with kind | kind <;> simp [kind, Kind.isWord]
    rw [pair.word_text repaired word]
  · push Not at plain
    simp [plain.1, plain.2]

theorem named_cause (pair : Matches before after names reads old new) (repaired : Repaired before after names reads)
    (kind : old.kind = .object) (name : String) :
    (after.cause? new).map (after.isNamed name) = (before.cause? old).map (before.isNamed name) := by
  rcases rel_inversion (pair.cause repaired kind) with ⟨left, right⟩ | ⟨value, value', left, right, values⟩
  · rw [left, right]
    rfl
  · rw [left, right, Option.map_some, Option.map_some, values.is_named repaired]

end Matches

theorem Script.named_cause_of_pasted {after : Script} {reads : String → Bool} (name : String) (node : Node)
    (pasted : after.pasted reads name node = true) :
    (after.cause? node).map (after.isNamed name) = some (reads name) := by
  obtain ⟨_, member, key, value, children, parts, pair, ⟨keyKind, keyRole, _, keyText⟩, valueKind, valueRole, _,
    valueText⟩ := Script.pasted_inversion name node pasted
  have value? : after.causeValue? member = some value := by
    simp [Script.causeValue?, pair, Node.child?, parts, keyRole, valueRole, Script.keyName?, keyKind, keyText]
  have cause? : after.cause? node = some value := by
    simp [Script.cause?, children, value?]
  rw [cause?, Option.map_some, Script.isNamed, valueKind, valueText]
  cases reads name <;> simp

end Rethrow
