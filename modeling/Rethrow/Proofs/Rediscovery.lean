import Mathlib.Data.List.Forall2
import Rethrow.Proofs.Correspondence

/-!
Throws and handlers before and after a batch of fixes. The search of a handler's body takes the same way in both trees,
since it stops at every throw and so gets to no change; each throw is a candidate again, with its old options or with
the pasted ones.
-/
set_option autoImplicit false

namespace Rethrow

def Script.construct? (script : Script) (names : List String) (statement : Node) : Option (Node × Node) := do
  let expression ← statement.significant.head?
  let call ← expression.unwrapped
  let constructor ← call.constructor?
  guard (script.text constructor ∈ names)
  let list ← call.child? .arguments
  guard (list.kind = .arguments)
  return (call, list)

theorem Script.construct_arguments (script : Script) (names : List String) (statement call list : Node)
    (made : script.construct? names statement = some (call, list)) : call.child? .arguments = some list := by
  simp only [construct?, Option.bind_eq_bind, Option.bind_eq_some_iff, Option.guard_eq_some', Option.pure_def,
    Option.some.injEq, Prod.mk.injEq] at made
  obtain ⟨_, _, _, _, _, _, _, _, _, found, _, _, rfl, rfl⟩ := made
  exact found

def Node.choose (statement call list : Node) : Option Candidate :=
  match list.significant with
  | [] => none
  | message :: rest => some ⟨statement, call, message, if message.kind = .spread then some message else rest.head?⟩

theorem Script.candidate_eq (script : Script) (names : List String) (statement : Node) :
    script.candidate? names statement =
      (script.construct? names statement).bind fun made => statement.choose made.1 made.2 := by
  simp only [candidate?, construct?, Node.argumentNodes?, Option.bind_eq_bind, Option.bind_assoc, Option.pure_def,
    Option.bind_some]
  rfl

/-- A throw and what became of it: its options stand as they stood, or they are the pasted ones. -/
structure Follows (before after : Script) (names : List String) (reads : String → Bool)
    (old new : Candidate) : Prop where
  call : Matches before after names reads old.call new.call
  options : ((∀ lapse ∈ before.amended names, lapse.candidate ≠ old) ∧
      Option.Rel (Matches before after names reads) old.options new.options) ∨
    ∃ lapse ∈ before.amended names, lapse.candidate = old ∧
      ∃ fresh, new.options = some fresh ∧ after.pasted reads lapse.name fresh = true

namespace Repaired

variable {before after : Script} {names : List String} {reads : String → Bool}

theorem construct (repaired : Repaired before after names reads) (old new : Node)
    (pair : Matches before after names reads old new) (throws : old.kind = .throwStatement) :
    Option.Rel (fun made again => Matches before after names reads made.1 again.1 ∧
        Matches before after names reads made.2 again.2)
      (before.construct? names old) (after.construct? names new) := by
  have numbered := repaired.sound.orderly.numbered
  refine rel_bind (rel_head (Matches.significant_of_children (pair.children numbered (by simp [throws])))) ?_
  intro expression expression' _ expressions
  refine rel_bind (expressions.unwrapped numbered) fun call call' _ calls => ?_
  refine rel_bind (calls.constructor numbered) fun constructor constructor' constructed constructors => ?_
  have kind : call.kind ≠ .arguments := by
    intro isList
    simp [Node.constructor?, isList] at constructed
  refine rel_bind (rel_guard (constructors.named_iff repaired).symm) fun _ _ _ _ => ?_
  refine rel_bind (calls.child numbered kind .arguments) fun list list' _ lists => ?_
  refine rel_bind (rel_guard (by rw [lists.kind])) fun _ _ _ _ => ?_
  exact .some ⟨calls, lists⟩

-- The argument list of a throw that is changed: whatever stood there, the pasted options come right after the message.
theorem pasted_arguments (repaired : Repaired before after names reads) (lapse : Lapse)
    (member : lapse ∈ before.amended names) {between rest : List Node} {constructor list list' : Node}
    (made : lapse.candidate.Made before names between constructor list rest)
    (lists : Matches before after names reads list list') :
    ∃ message' fresh rest', list'.significant = message' :: fresh :: rest' ∧
      message'.kind = lapse.candidate.message.kind ∧ message'.kind ≠ .spread ∧
      after.pasted reads lapse.name fresh = true := by
  have orderly := repaired.sound.orderly
  have owns := Script.amended_owns lapse member
  have fixable := (Script.amended_lapse lapse member).2
  have single : ∀ other ∈ before.amended names, other.candidate.place ∈ list.children → other = lapse := by
    intro other held direct
    exact Script.amended_unique orderly other lapse held member
      (Script.place_candidate orderly.numbered other held made owns.made owns.statement_mem owns.throws direct)
  have parts : before.patchedAll after reads (before.amended names) list.significant list'.significant = true :=
    Script.patched_all_significant _ _
      (fun other held direct => (Script.place_kind orderly.numbered other held list lists.old_mem direct).2)
      ((Script.patched_iff list list').mp lists.patched).2.2.2
  rw [made.significant] at parts
  rcases lapse.candidate.place_inversion lapse.name fixable with ⟨absent, place⟩ | ⟨literal, found, options, place⟩
  · have chosen := made.options
    have plain : lapse.candidate.message.kind ≠ .spread := by
      intro spread
      rw [absent, if_pos spread] at chosen
      cases chosen
    rw [Script.patched_all_cons_iff, Script.find_place_eq_some _ lapse member place fun other held here =>
      single other held (here ▸ made.message_child)] at parts
    simp only [absent, Option.isSome_none, Bool.false_eq_true, if_false] at parts
    obtain ⟨message', fresh, rest', shape, patched, isPasted, _⟩ := parts
    have kind := ((Script.patched_iff _ _).mp patched).1
    exact ⟨message', fresh, rest', shape, kind, kind ▸ plain, isPasted⟩
  · obtain ⟨plain, first⟩ := made.literal_head literal found
    obtain ⟨more, rfl⟩ : ∃ more, rest = literal :: more := List.head?_eq_some_iff.mp first
    have literalChild := made.literal_child literal found
    -- The message is another argument than the literal, so it is kept.
    have apart : lapse.candidate.message ≠ literal := by
      have distinct : list.significant.Nodup :=
        (Node.children_nodup list (Node.numbered_part _ _ orderly.numbered lists.old_mem)).filter _
      rw [made.significant] at distinct
      have := (List.nodup_cons.mp distinct).1
      exact fun same => this (same ▸ List.mem_cons_self)
    rw [Script.patched_all_cons_iff, Script.find_place_eq_none _ fun other held here =>
      apart (by rw [← here, single other held (here ▸ made.message_child), place])] at parts
    obtain ⟨message', news, shape, patched, parts⟩ := parts
    rw [Script.patched_all_cons_iff, Script.find_place_eq_some _ lapse member place fun other held here =>
      single other held (here ▸ literalChild)] at parts
    simp only [options, Option.isSome_some, if_true] at parts
    obtain ⟨fresh, rest', rfl, isPasted, _⟩ := parts
    have kind := ((Script.patched_iff _ _).mp patched).1
    exact ⟨message', fresh, rest', shape, kind, kind ▸ plain, isPasted⟩

theorem kept_arguments (repaired : Repaired before after names reads) (list list' : Node)
    (lists : Matches before after names reads list list')
    (free : ∀ lapse ∈ before.amended names, lapse.candidate.place ∉ list.significant) :
    List.Forall₂ (Matches before after names reads) list.significant list'.significant := by
  refine Matches.significant_of_children (lists.children_of_clear fun child direct lapse member same => ?_)
  have written := (Script.place_kind repaired.sound.orderly.numbered lapse member list lists.old_mem (same ▸ direct)).2
  exact free lapse member ((Node.mem_significant_iff list _).mpr ⟨same ▸ direct, written⟩)

theorem candidate (repaired : Repaired before after names reads) (old new : Node)
    (pair : Matches before after names reads old new) (throws : old.kind = .throwStatement) :
    Option.Rel (Follows before after names reads) (before.candidate? names old) (after.candidate? names new) := by
  have numbered := repaired.sound.orderly.numbered
  have found := before.candidate_eq names old
  rw [found, after.candidate_eq names new]
  refine rel_bind (repaired.construct old new pair throws) ?_
  rintro ⟨call, list⟩ ⟨call', list'⟩ constructed ⟨calls, lists⟩
  have isList := before.construct_arguments names old call list constructed
  rw [constructed, Option.bind_some] at found
  simp only [Node.choose] at found calls lists ⊢
  cases parts : list.significant with
  | nil =>
      have kept := repaired.kept_arguments list list' lists (by simp [parts])
      rw [parts, List.forall₂_nil_left_iff] at kept
      rw [kept]
      exact .none
  | cons message rest =>
      rw [parts] at found
      obtain ⟨_, between, constructor, other, later, made⟩ := before.candidate_inversion names old _ found
      have same : other = list := Option.some.inj (made.arguments.symm.trans isList)
      subst same
      by_cases changed : ∃ lapse ∈ before.amended names, lapse.candidate =
          ⟨old, call, message, if message.kind = .spread then some message else rest.head?⟩
      · obtain ⟨lapse, member, own⟩ := changed
        rw [← own] at made
        obtain ⟨message', fresh, rest', shape, _, plain, isPasted⟩ := repaired.pasted_arguments lapse member made lists
        rw [shape]
        exact .some ⟨calls, .inr ⟨lapse, member, own, fresh, by simp [plain], isPasted⟩⟩
      · push Not at changed
        have kept := repaired.kept_arguments other list' lists fun lapse member listed => changed lapse member
          (Script.place_candidate numbered lapse member made found pair.old_mem throws
            ((Node.mem_significant_iff _ _).mp listed).1)
        rw [parts] at kept
        cases shape : list'.significant with
        | nil =>
            rw [shape] at kept
            cases kept
        | cons message' rest' =>
            rw [shape] at kept
            obtain ⟨messages, rests⟩ := List.forall₂_cons.mp kept
            refine .some ⟨calls, .inl ⟨changed, ?_⟩⟩
            dsimp only
            rw [messages.kind]
            split
            · exact .some messages
            · exact rel_head rests

end Repaired

def Handler.Searches (handler : Handler) (node : Node) : Prop :=
  node ∈ handler.body.preorder ∧ ∀ above ∈ handler.body.descendants, node ∈ above.preorder →
    above.kind ≠ .function ∧ above.kind ≠ .catchClause ∧ above.kind ≠ .throwStatement

theorem Handler.searches_body (handler : Handler) : handler.Searches handler.body :=
  ⟨Node.self_mem_preorder _, fun _ below held => absurd held (Node.descendants_asymm _ _ below)⟩

theorem Handler.searches_child (handler : Handler) (root node child : Node) (numbered : root.Numbered)
    (bodyMember : handler.body ∈ root.preorder) (searches : handler.Searches node) (direct : child ∈ node.children)
    (kind : child.kind ≠ .function ∧ child.kind ≠ .catchClause ∧ child.kind ≠ .throwStatement) :
    handler.Searches child := by
  refine ⟨Node.child_mem _ node _ searches.1 direct, fun above below held => ?_⟩
  rcases (Node.mem_preorder_iff _ _).mp held with same | deeper
  · exact same ▸ kind
  · have aboveMember := Node.below_mem _ _ _ bodyMember below
    have nodeMember := Node.preorder_trans _ _ _ bodyMember searches.1
    exact searches.2 above below
      (Node.parent_inside root above node child numbered aboveMember nodeMember direct deeper)

namespace Repaired

variable {before after : Script} {names : List String} {reads : String → Bool}

-- The search of a body stops at throws, so it gets to no argument list in which something is changed.
theorem place_not_searched (repaired : Repaired before after names reads) (handler : Handler)
    (member : handler ∈ before.handlers) (node : Node) (searches : handler.Searches node) (lapse : Lapse)
    (changed : lapse ∈ before.amended names) : lapse.candidate.place ∉ node.children := by
  intro direct
  have orderly := repaired.sound.orderly
  have clauseKind := (before.handler_inversion handler member).2.2.1
  obtain ⟨bodyChild, bodyMember⟩ := before.handler_body handler member
  have nodeMember := Node.preorder_trans _ _ _ bodyMember searches.1
  have owns := Script.amended_owns lapse changed
  obtain ⟨_, _, _, made⟩ := Script.place_parent orderly.numbered lapse changed node nodeMember direct
  -- The clause would stand between the throw and its argument list.
  have between := owns.clause_below orderly member node searches.1 made.list_below fun deeper =>
    (searches.2 _ deeper (Node.descendant_mem_preorder _ _ made.list_below)).2.2 owns.throws
  have kind := made.above_list (Node.numbered_part _ _ orderly.numbered owns.statement_mem) handler.clause between
    (Node.preorder_descendants_trans _ handler.body _ (Node.child_mem_descendants _ _ bodyChild) searches.1)
  rw [clauseKind] at kind
  simp at kind

theorem harvest (repaired : Repaired before after names reads) (handler : Handler)
    (member : handler ∈ before.handlers) (old new : Node) (pair : Matches before after names reads old new)
    (searches : handler.Searches old) :
    List.Forall₂ (Follows before after names reads) (Node.harvestAll (before.visit names) old.children)
      (Node.harvestAll (after.visit names) new.children) := by
  have numbered := repaired.sound.orderly.numbered
  have bodyMember := (before.handler_body handler member).2
  induction old using Node.tree_induction generalizing new with
  | step old ih =>
      have pairs := forall₂_members (pair.children_of_clear fun child direct lapse changed same =>
        repaired.place_not_searched handler member old searches lapse changed (same ▸ direct))
      rw [Node.harvest_all_eq, Node.harvest_all_eq]
      refine List.rel_flatMap pairs ?_
      rintro child child' ⟨direct, _, both⟩
      dsimp only
      rw [Node.harvest_eq, Node.harvest_eq]
      by_cases boundary : child.kind = .function ∨ child.kind = .catchClause
      · rw [before.visit_boundary names child boundary, after.visit_boundary names child' (both.kind ▸ boundary)]
        exact .nil
      · by_cases throws : child.kind = .throwStatement
        · rw [before.visit_throw names child throws, after.visit_throw names child' (both.kind.trans throws)]
          rcases rel_inversion (repaired.candidate child child' both throws) with
            ⟨left, right⟩ | ⟨_, _, left, right, follows⟩
          · rw [left, right]
            exact .nil
          · rw [left, right]
            exact .cons follows .nil
        · have free : child.kind ≠ .function ∧ child.kind ≠ .catchClause ∧ child.kind ≠ .throwStatement := by
            simp_all
          rw [before.visit_other names child free, after.visit_other names child' (both.kind ▸ free)]
          exact ih child direct child' both (handler.searches_child before.root old child numbered bodyMember searches
            direct free)

theorem handler (repaired : Repaired before after names reads) (old new : Node)
    (pair : Matches before after names reads old new) :
    Option.Rel (fun handler again => Matches before after names reads handler.body again.body ∧
        again.parameter = handler.parameter) (before.handler? old) (after.handler? new) := by
  have numbered := repaired.sound.orderly.numbered
  refine rel_bind (rel_guard (by rw [pair.kind])) fun _ _ clause _ => ?_
  have kind : old.kind = .catchClause := by simpa [guard] using clause
  refine rel_bind (pair.child numbered (by simp [kind]) .body) fun body body' _ bodies => ?_
  refine .some ⟨bodies, ?_⟩
  simp only [Script.boundName]
  rcases rel_inversion (pair.child numbered (by simp [kind]) .parameter) with
    ⟨left, right⟩ | ⟨parameter, parameter', left, right, both⟩
  · rw [left, right]
    rfl
  · rw [left, right]
    by_cases plain : parameter.kind = .identifier
    · have text := both.word_text repaired (by rw [plain]; rfl)
      simp [both.kind, plain, text]
    · simp [guard, both.kind, plain]

end Repaired

end Rethrow
