import Mathlib.Data.List.Forall2
import Rethrow.Proofs.Rediscovery

/-!
What is found after the fixes are made: the findings that have no fix, except those inside literals that were
replaced.
-/
set_option autoImplicit false

namespace Rethrow

/-- The throws that are still found after the change. Those inside replaced literals are gone, and those that were
changed are linked, unless the caught name is not read as a name in the pasted options. -/
def Lapse.Survives (before : Script) (names : List String) (reads : String → Bool) (lapse : Lapse) : Prop :=
  (∀ outer ∈ before.amended names, ¬ lapse.Inside outer) ∧ (lapse.fix = none ∨ reads lapse.name = false)

instance (before : Script) (names : List String) (reads : String → Bool) (lapse : Lapse) :
    Decidable (lapse.Survives before names reads) :=
  inferInstanceAs (Decidable ((∀ outer ∈ before.amended names, ¬ lapse.Inside outer) ∧
    (lapse.fix = none ∨ reads lapse.name = false)))

/-- A node that no replaced literal takes away. -/
def Node.Standing (amended : List Lapse) (node : Node) : Prop :=
  ∀ lapse ∈ amended, ∀ literal, lapse.candidate.literal? = some literal → node ∉ literal.preorder

structure Tracks (before after : Script) (names : List String) (reads : String → Bool) (old new : Lapse) : Prop where
  call : Matches before after names reads old.candidate.call new.candidate.call
  name : new.name = old.name
  fix : new.fix = none ↔ old.fix = none

theorem Candidate.fix_eq_none_iff (candidate : Candidate) (name : String) :
    candidate.fix name = none ↔ candidate.options ≠ none ∧ candidate.literal? = none := by
  unfold fix
  cases options : candidate.options <;> simp

namespace Follows

variable {before after : Script} {names : List String} {reads : String → Bool} {old new : Candidate}

theorem literal (both : Option.Rel (Matches before after names reads) old.options new.options) :
    Option.Rel (fun literal again => Matches before after names reads literal again ∧ literal.kind = .object)
      old.literal? new.literal? := by
  unfold Candidate.literal?
  rcases rel_inversion both with ⟨left, right⟩ | ⟨options, options', left, right, pair⟩
  · rw [left, right]
    exact .none
  · rw [left, right]
    by_cases kind : options.kind = .object
    · simp only [Option.filter, pair.kind, kind, decide_true, if_true]
      exact .some ⟨pair, kind⟩
    · simp only [Option.filter, pair.kind, kind, decide_false, Bool.false_eq_true, if_false]
      exact .none

theorem linked_of_same (repaired : Repaired before after names reads)
    (both : Option.Rel (Matches before after names reads) old.options new.options) (name : String) :
    after.linked (some name) new = before.linked (some name) old := by
  simp only [Script.linked]
  rcases rel_inversion (literal both) with ⟨left, right⟩ | ⟨_, _, left, right, pair, kind⟩
  · rw [left, right]
    rfl
  · rw [left, right, Option.bind_some, Option.bind_some, pair.named_cause repaired kind]

theorem literal_of_pasted (name : String) (fresh : Node) (options : new.options = some fresh)
    (pasted : after.pasted reads name fresh = true) : new.literal? = some fresh := by
  simp [Candidate.literal?, options, Option.filter, (Script.pasted_inversion name fresh pasted).1]

theorem linked_of_pasted (name : String) (fresh : Node) (options : new.options = some fresh)
    (pasted : after.pasted reads name fresh = true) : after.linked (some name) new = reads name := by
  simp [Script.linked, literal_of_pasted name fresh options pasted, Script.named_cause_of_pasted name fresh pasted]

theorem fix_iff (follows : Follows before after names reads old new) (name : String) :
    new.fix name = none ↔ old.fix name = none := by
  rw [Candidate.fix_eq_none_iff, Candidate.fix_eq_none_iff]
  rcases follows.options with ⟨_, both⟩ | ⟨lapse, member, rfl, fresh, options, pasted⟩
  · rcases rel_inversion both with ⟨left, right⟩ | ⟨_, _, left, right, _⟩ <;>
      rcases rel_inversion (literal both) with ⟨leftLiteral, rightLiteral⟩ | ⟨_, _, leftLiteral, rightLiteral, _⟩ <;>
      simp [left, right, leftLiteral, rightLiteral]
  · have fixable := (Script.amended_lapse lapse member).2
    have unfixable := (lapse.candidate.fix_eq_none_iff lapse.name).not.mp fixable
    simp [literal_of_pasted lapse.name fresh options pasted, unfixable]

end Follows

namespace Repaired

variable {before after : Script} {names : List String} {reads : String → Bool}

theorem not_inside (repaired : Repaired before after names reads) (lapse : Lapse) (member : lapse ∈ before.lapses names)
    (standing : lapse.handler.clause.Standing (before.amended names)) :
    ∀ outer ∈ before.amended names, ¬ lapse.Inside outer := by
  rintro outer changed ⟨literal, found, below⟩
  have owns := Script.amended_owns outer changed
  have rivals := (before.mem_lapses names lapse member).1
  exact standing outer changed literal found (Node.descendant_mem_preorder _ _
    (owns.clause_in_literal rivals repaired.sound.orderly literal found below))

theorem unlinked_iff (repaired : Repaired before after names reads) (handler : Handler) (old new : Candidate)
    (owns : Owns before names handler old) (standing : handler.clause.Standing (before.amended names)) (name : String)
    (parameter : handler.parameter = some name) (follows : Follows before after names reads old new) :
    after.linked (some name) new = false ↔
      before.linked (some name) old = false ∧ Lapse.Survives before names reads ⟨handler, name, old⟩ := by
  have orderly := repaired.sound.orderly
  have flagged := before.owned_mem_lapses names handler old name orderly owns parameter
  rcases follows.options with ⟨free, both⟩ | ⟨lapse, member, own, fresh, options, pasted⟩
  · rw [Follows.linked_of_same repaired both name]
    refine ⟨fun unlinked => ⟨unlinked, ?_⟩, fun found => found.1⟩
    have outside := repaired.not_inside _ (flagged unlinked) standing
    refine ⟨outside, .inl ?_⟩
    by_contra fixable
    rcases Script.amended_or_inside orderly _ (flagged unlinked) fixable with changed | ⟨outer, changed, inside⟩
    · exact free _ changed rfl
    · exact outside outer changed inside
  · obtain ⟨listed, fixable⟩ := Script.amended_lapse lapse member
    obtain ⟨own', parameter', unlinked⟩ := before.mem_lapses names lapse listed
    subst own
    have sameHandler := owns.handler_unique own' orderly.numbered orderly.separate rfl
    have sameName : lapse.name = name := by
      rw [sameHandler, parameter'] at parameter
      exact Option.some.inj parameter
    subst sameName
    rw [Follows.linked_of_pasted lapse.name fresh options pasted]
    have outside := repaired.not_inside _ (flagged unlinked) standing
    exact ⟨fun unread => ⟨unlinked, outside, .inr unread⟩, fun found => found.2.2.resolve_left fixable⟩

end Repaired

def Script.lapsesAt (script : Script) (names : List String) (node : Node) : List Lapse :=
  (script.handler? node).toList.flatMap (script.lapsesOf names)

theorem Script.lapses_eq (script : Script) (names : List String) :
    script.lapses names = script.root.preorder.flatMap (script.lapsesAt names) := by
  rw [lapses, handlers, Node.walk_eq, List.filterMap_eq_flatMap_toList, List.flatMap_assoc]
  rfl

namespace Repaired

variable {before after : Script} {names : List String} {reads : String → Bool}

theorem lapses_of (repaired : Repaired before after names reads) (handler again : Handler)
    (member : handler ∈ before.handlers) (newMember : again ∈ after.handlers)
    (bodies : Matches before after names reads handler.body again.body)
    (parameters : again.parameter = handler.parameter) (standing : handler.clause.Standing (before.amended names)) :
    List.Forall₂ (Tracks before after names reads)
      ((before.lapsesOf names handler).filter fun lapse => lapse.Survives before names reads)
      (after.lapsesOf names again) := by
  cases parameter : handler.parameter with
  | none =>
      rw [parameter] at parameters
      simp [Script.lapsesOf, parameter, parameters]
  | some name =>
      rw [parameter] at parameters
      rw [before.lapses_of_eq names handler repaired.sound.orderly member name parameter,
        after.lapses_of_eq names again repaired.again.orderly newMember name parameters,
        List.filter_map, List.filter_filter, List.forall₂_map_left_iff, List.forall₂_map_right_iff]
      have pairs : List.Forall₂ (Follows before after names reads) (before.candidates names handler)
          (after.candidates names again) := by
        rw [Script.candidates, Script.candidates, Node.gather_eq, Node.gather_eq]
        exact repaired.harvest handler member _ _ bodies handler.searches_body
      refine (List.rel_filter ?_ (forall₂_members pairs)).imp ?_
      · rintro old new ⟨held, _, follows⟩
        have unlinked := repaired.unlinked_iff handler old new ⟨member, held⟩ standing name parameter follows
        simp only [Function.comp_apply, Bool.and_eq_true, decide_eq_true_eq, Bool.not_eq_true']
        rw [unlinked, and_comm]
      · rintro old new ⟨_, _, follows⟩
        exact ⟨follows.call, rfl, follows.fix_iff name⟩

theorem lapses_at (repaired : Repaired before after names reads) (old new : Node)
    (pair : Matches before after names reads old new) (standing : old.Standing (before.amended names)) :
    List.Forall₂ (Tracks before after names reads)
      ((before.lapsesAt names old).filter fun lapse => lapse.Survives before names reads)
      (after.lapsesAt names new) := by
  unfold Script.lapsesAt
  rcases rel_inversion (repaired.handler old new pair) with
    ⟨left, right⟩ | ⟨handler, again, left, right, bodies, parameters⟩
  · rw [left, right]
    exact .nil
  · have clause := before.handler_clause old handler left
    have member : handler ∈ before.handlers := by
      rw [Script.handlers, Node.walk_eq]
      exact List.mem_filterMap.mpr ⟨old, pair.old_mem, left⟩
    have newMember : again ∈ after.handlers := by
      rw [Script.handlers, Node.walk_eq]
      exact List.mem_filterMap.mpr ⟨new, pair.new_mem, right⟩
    simp only [left, right, Option.toList_some, List.flatMap_cons, List.flatMap_nil, List.append_nil]
    exact repaired.lapses_of handler again member newMember bodies parameters (clause ▸ standing)

theorem literal_mem (lapse : Lapse) (changed : lapse ∈ before.amended names) (literal : Node)
    (found : lapse.candidate.literal? = some literal) : literal ∈ before.root.descendants := by
  have owns := Script.amended_owns lapse changed
  exact Node.descendants_trans _ _ _ owns.statement_mem (owns.literal_below literal found)

theorem standing_root : before.root.Standing (before.amended names) := by
  intro lapse changed literal found held
  exact Node.descendants_asymm _ _ (literal_mem lapse changed literal found) held

theorem standing_child (repaired : Repaired before after names reads) (node child : Node)
    (member : node ∈ before.root.preorder) (direct : child ∈ node.children)
    (standing : node.Standing (before.amended names))
    (kept : ∀ lapse ∈ before.amended names, lapse.candidate.literal? ≠ some child) :
    child.Standing (before.amended names) := by
  intro lapse changed literal found held
  rcases (Node.mem_preorder_iff _ _).mp held with same | below
  · exact kept lapse changed (same ▸ found)
  · exact standing lapse changed literal found (Node.parent_inside before.root literal node child
      repaired.sound.orderly.numbered (Node.descendant_mem_preorder _ _ (literal_mem lapse changed literal found))
      member direct below)

theorem lapses_in_literal (outer : Lapse) (changed : outer ∈ before.amended names) (literal : Node)
    (found : outer.candidate.literal? = some literal) :
    ((literal.preorder.flatMap (before.lapsesAt names)).filter fun lapse => lapse.Survives before names reads) =
      [] := by
  rw [List.filter_eq_nil_iff]
  intro lapse listed survives
  obtain ⟨node, held, here⟩ := List.mem_flatMap.mp listed
  obtain ⟨handler, isHandler, here⟩ := List.mem_flatMap.mp here
  have isHandler : before.handler? node = some handler := by simpa using isHandler
  have clause := before.handler_clause node handler isHandler
  have nodeMember := Node.preorder_trans _ _ _
    (Node.descendant_mem_preorder _ _ (literal_mem outer changed literal found)) held
  have member : handler ∈ before.handlers := by
    rw [Script.handlers, Node.walk_eq]
    exact List.mem_filterMap.mpr ⟨node, nodeMember, isHandler⟩
  obtain ⟨_, _, candidate, _⟩ := before.lapses_of_inversion names handler lapse here
  have owns : Owns before names handler lapse.candidate := ⟨member, candidate⟩
  have inClause := Node.descendants_trans handler.clause _ _
    (Node.descendant_mem_preorder _ _ (Node.child_mem_descendants _ _ owns.body_child)) owns.below_body
  exact (of_decide_eq_true survives).1 outer changed
    ⟨literal, found, Node.descendants_trans literal handler.clause _ (clause ▸ held) inClause⟩

theorem lapses_at_of_kind (script : Script) (node : Node) (kind : node.kind ≠ .catchClause) :
    script.lapsesAt names node = [] := by
  simp [Script.lapsesAt, Script.handler?, guard, kind]

theorem lapses_in_pasted (name : String) (fresh : Node) (pasted : after.pasted reads name fresh = true) :
    fresh.preorder.flatMap (after.lapsesAt names) = [] := by
  obtain ⟨object, member, key, value, children, parts, pair, ⟨keyKind, _, keyLeaf, _⟩, valueKind, _, valueLeaf, _⟩ :=
    Script.pasted_inversion name fresh pasted
  have shape : fresh.preorder = [fresh, member, key, value] := by
    simp [Node.preorder_eq, children, parts, keyLeaf, valueLeaf, Node.preorderAll]
  have valuePlain : value.kind ≠ .catchClause := by
    rw [valueKind]
    split <;> simp
  simp [shape, lapses_at_of_kind after fresh (by simp [object]), lapses_at_of_kind after member (by simp [pair]),
    lapses_at_of_kind after key (by simp [keyKind]), lapses_at_of_kind after value valuePlain]

-- The children of a node from left to right: what is said of the node is known of each child.
theorem lapses_all (repaired : Repaired before after names reads) (parent parent' : Node)
    (pair : Matches before after names reads parent parent') (standing : parent.Standing (before.amended names))
    (each : ∀ child ∈ parent.children, ∀ new, Matches before after names reads child new →
      child.Standing (before.amended names) → List.Forall₂ (Tracks before after names reads)
        ((child.preorder.flatMap (before.lapsesAt names)).filter fun lapse => lapse.Survives before names reads)
        (new.preorder.flatMap (after.lapsesAt names)))
    (olds news : List Node) (inOld : ∀ child ∈ olds, child ∈ parent.children)
    (inNew : ∀ child ∈ news, child ∈ parent'.children)
    (patched : before.patchedAll after reads (before.amended names) olds news = true) :
    List.Forall₂ (Tracks before after names reads)
      (((Node.preorderAll olds).flatMap (before.lapsesAt names)).filter fun lapse => lapse.Survives before names reads)
      ((Node.preorderAll news).flatMap (after.lapsesAt names)) := by
  have numbered := repaired.sound.orderly.numbered
  have matching : ∀ child ∈ parent.children, ∀ new ∈ parent'.children,
      before.patched after reads (before.amended names) child new = true → Matches before after names reads child new :=
    fun child direct new newDirect both =>
      ⟨Node.child_mem _ _ _ pair.old_mem direct,
        Node.child_mem _ _ _ pair.new_mem newDirect,
        both⟩
  induction olds generalizing news with
  | nil =>
      rw [Script.patched_all_nil_iff] at patched
      subst patched
      exact .nil
  | cons child olds ih =>
      have direct := inOld child List.mem_cons_self
      have inLater : ∀ other ∈ olds, other ∈ parent.children :=
        fun other held => inOld other (List.mem_cons_of_mem _ held)
      have kept := fun new newDirect both => each child direct new (matching child direct new newDirect both)
      rw [Script.patched_all_cons_iff] at patched
      rw [Node.preorderAll, List.flatMap_append, List.filter_append]
      cases found : (before.amended names).find? fun lapse => lapse.candidate.place = child with
      | none =>
          rw [found] at patched
          obtain ⟨new, rest, rfl, both, later⟩ := patched
          rw [Node.preorderAll, List.flatMap_append]
          refine List.rel_append (kept new (inNew new List.mem_cons_self) both ?_)
            (ih rest inLater (fun other held => inNew other (List.mem_cons_of_mem _ held)) later)
          refine repaired.standing_child parent child pair.old_mem direct standing fun lapse changed literal => ?_
          have options := (lapse.candidate.literal_inversion child literal).1
          have clear := List.find?_eq_none.mp found lapse changed
          simp [Candidate.place, options] at clear
      | some lapse =>
          rw [found] at patched
          have changed := List.mem_of_find?_eq_some found
          have here : lapse.candidate.place = child := by simpa using List.find?_some found
          dsimp only at patched
          rcases lapse.candidate.place_inversion lapse.name (Script.amended_lapse lapse changed).2 with
            ⟨absent, _⟩ | ⟨literal, isLiteral, options, place⟩
          · simp only [absent, Option.isSome_none, Bool.false_eq_true, if_false] at patched
            obtain ⟨new, fresh, rest, rfl, both, isPasted, later⟩ := patched
            rw [Node.preorderAll, Node.preorderAll, List.flatMap_append, List.flatMap_append,
              lapses_in_pasted lapse.name fresh isPasted, List.nil_append]
            refine List.rel_append (kept new (inNew new List.mem_cons_self) both ?_) (ih rest inLater
              (fun other held => inNew other (List.mem_cons_of_mem _ (List.mem_cons_of_mem _ held))) later)
            refine repaired.standing_child parent child pair.old_mem direct standing ?_
            intro other otherChanged literal
            have options := (other.candidate.literal_inversion child literal).1
            have same := Script.place_unique repaired.sound.orderly other lapse otherChanged changed
              (by rw [here, Candidate.place, options, Option.getD_some])
            rw [same, absent] at options
            cases options
          · simp only [options, Option.isSome_some, if_true] at patched
            obtain ⟨new, rest, rfl, isPasted, later⟩ := patched
            rw [Node.preorderAll, List.flatMap_append, lapses_in_pasted lapse.name new isPasted, ← here, place,
              lapses_in_literal lapse changed literal isLiteral, List.nil_append, List.nil_append]
            exact ih rest inLater (fun other held => inNew other (List.mem_cons_of_mem _ held)) later

theorem lapses_below (repaired : Repaired before after names reads) (old new : Node)
    (pair : Matches before after names reads old new) (standing : old.Standing (before.amended names)) :
    List.Forall₂ (Tracks before after names reads)
      ((old.preorder.flatMap (before.lapsesAt names)).filter fun lapse => lapse.Survives before names reads)
      (new.preorder.flatMap (after.lapsesAt names)) := by
  induction old using Node.tree_induction generalizing new with
  | step old ih =>
      rw [Node.preorder_eq old, Node.preorder_eq new, List.flatMap_cons, List.flatMap_cons, List.filter_append]
      exact List.rel_append (repaired.lapses_at old new pair standing)
        (repaired.lapses_all old new pair standing ih old.children new.children (fun _ => id) (fun _ => id)
          ((Script.patched_iff old new).mp pair.patched).2.2.2)

theorem lapses (repaired : Repaired before after names reads) :
    List.Forall₂ (Tracks before after names reads)
      ((before.lapses names).filter fun lapse => lapse.Survives before names reads) (after.lapses names) := by
  rw [before.lapses_eq, after.lapses_eq]
  exact repaired.lapses_below before.root after.root
    ⟨Node.self_mem_preorder _, Node.self_mem_preorder _, repaired.tree⟩ standing_root

end Repaired

theorem Script.batch_eq_nil_iff (script : Script) (names : List String) :
    script.batch names = [] ↔ ∀ lapse ∈ script.lapses names, lapse.fix = none := by
  rw [batch, Edit.select_disjoint_nil_iff, script.reports_fixes names, List.filterMap_eq_nil_iff]

theorem Repaired.batch_eq_nil_iff {before after : Script} {names : List String} {reads : String → Bool}
    (repaired : Repaired before after names reads) :
    after.batch names = [] ↔ ∀ lapse ∈ before.amended names, reads lapse.name = true := by
  have orderly := repaired.sound.orderly
  have tracked := forall₂_members repaired.lapses
  rw [after.batch_eq_nil_iff names]
  constructor
  · intro clear lapse changed
    by_contra unread
    have survives : lapse.Survives before names reads := by
      rw [before.amended_eq names orderly] at changed
      obtain ⟨_, _, outside⟩ := (List.mem_filter.mp changed).imp_right of_decide_eq_true
      refine ⟨fun outer held => ?_, .inr (by simpa using unread)⟩
      obtain ⟨listed, fixable⟩ := Script.amended_lapse outer held
      exact outside outer listed fixable
    obtain ⟨listed, fixable⟩ := Script.amended_lapse lapse changed
    obtain ⟨new, _, held, tracks⟩ := exists_right tracked lapse
      (List.mem_filter.mpr ⟨listed, decide_eq_true survives⟩)
    exact fixable (tracks.fix.mp (clear new held))
  · intro read new held
    obtain ⟨old, listed, _, tracks⟩ := exists_left tracked new held
    obtain ⟨member, survives⟩ := (List.mem_filter.mp listed).imp_right of_decide_eq_true
    refine tracks.fix.mpr (Classical.byContradiction fun fixable => ?_)
    have unread := survives.2.resolve_left fixable
    rcases Script.amended_or_inside orderly old member fixable with changed | ⟨outer, changed, inside⟩
    · simp [read old changed] at unread
    · exact survives.1 outer changed inside

namespace Script

theorem fix_convergence (before after : Script) (names : List String) (sound : before.ErrorFree)
    (words : before.root.PlainWords) (dotted : ∀ name ∈ names, '(' ∉ name.toList) (again : after.ErrorFree)
    (tree : before.patched after (fun _ => true) (before.amended names) before.root after.root = true) :
    List.Forall₂
      (fun old new => before.patched after (fun _ => true) (before.amended names) old.anchor new.anchor = true ∧
        new.parameter = old.parameter ∧ new.fix = none)
      (((before.lapses names).filter fun lapse =>
        lapse.finding.fix = none ∧ ∀ outer ∈ before.amended names, ¬ lapse.Inside outer).map (·.finding))
      ((after.reports names).flatMap (·.2)) ∧
    after.batch names = [] := by
  have repaired : Repaired before after names fun _ => true := ⟨sound, words, dotted, again, tree⟩
  have left : ((before.lapses names).filter fun lapse => lapse.Survives before names fun _ => true) =
      (before.lapses names).filter fun lapse =>
        lapse.finding.fix = none ∧ ∀ outer ∈ before.amended names, ¬ lapse.Inside outer := by
    refine List.filter_congr fun lapse _ => decide_eq_decide.mpr ?_
    simp only [Lapse.Survives, Bool.true_eq_false, or_false]
    exact and_comm
  have tracked := forall₂_members repaired.lapses
  rw [left] at tracked
  have settled : after.batch names = [] := repaired.batch_eq_nil_iff.mpr fun _ _ => rfl
  refine ⟨?_, settled⟩
  rw [after.reports_findings names, List.forall₂_map_left_iff, List.forall₂_map_right_iff]
  refine tracked.imp ?_
  rintro old new ⟨_, held, tracks⟩
  exact ⟨tracks.call.patched, tracks.name, (after.batch_eq_nil_iff names).mp settled new held⟩

end Script

def nestedThrowsFixed : Script := .parse .script
  "try\x7b\x7dcatch(e)\x7bthrow Error(1,\x7b cause: e \x7d);throw Error(3,e)\x7d"

theorem nested_throws_settled :
    nestedThrows.ErrorFree ∧ nestedThrowsFixed.ErrorFree ∧
      ((nestedThrowsFixed.reports ["Error"]).flatMap (·.2)).map (fun finding => (finding.anchor.index, finding.fix)) =
        [(16, none)] ∧
      nestedThrowsFixed.batch ["Error"] = [] :=
  ⟨by decide +kernel, by decide +kernel, by decide +kernel,
    (nestedThrows.fix_convergence nestedThrowsFixed ["Error"] (by decide +kernel) (by decide +kernel)
      (by decide +kernel) (by decide +kernel)
      (by rw [nestedThrows.amended_eq ["Error"] (by decide +kernel)]; decide +kernel)).2⟩

end Rethrow
