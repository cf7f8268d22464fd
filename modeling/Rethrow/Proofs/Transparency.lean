import Rethrow.Proofs.Lapse
import Rethrow.Proofs.Stripping
import Rethrow.Syntax

/-!
Comments, and parentheses around what is thrown, do not matter: the analysis of a stripped tree is the stripped analysis
of the tree. Each step of the analysis commutes with stripping, and so does the whole.
-/
set_option autoImplicit false

namespace Rethrow

def Script.stripped (script : Script) (away : Mark → Bool) : Script :=
  { script with root := script.root.stripped away }

def Handler.stripped (handler : Handler) (away : Mark → Bool) : Handler :=
  { handler with clause := handler.clause.stripped away, body := handler.body.stripped away }

def Candidate.stripped (candidate : Candidate) (away : Mark → Bool) : Candidate where
  statement := candidate.statement.stripped away
  call := candidate.call.stripped away
  message := candidate.message.stripped away
  options := candidate.options.map (Node.stripped away)

def Finding.stripped (finding : Finding) (away : Mark → Bool) : Finding :=
  { finding with anchor := finding.anchor.stripped away }

namespace Node

theorem gleans_throws : Gleans (harvest scout) where
  comment node comment leaf := by
    rw [harvest_eq, scout, comment, leaf]
    rfl
  wrapper node wrapped := by
    rw [harvest_eq, scout, wrapped, harvest_all_eq]
    rfl

theorem stripped_scout (away : Mark → Bool) (node : Node) :
    (node.stripped away).scout = node.scout.map (List.map (stripped away)) := by
  rw [scout, scout, stripped_kind]
  split
  · rfl
  · split <;> rfl

variable {root : Node} {away : Mark → Bool}

theorem PlainComments.harvest_stripped (plain : root.PlainComments) (node : Node) (member : node ∈ root.preorder) :
    (node.stripped away).harvest scout = (node.harvest scout).map (stripped away) := by
  induction node using tree_induction with
  | step node ih =>
      rw [harvest_eq, harvest_eq, stripped_scout]
      cases node.scout with
      | some found => rfl
      | none =>
          rw [Option.map_none, Option.getD_none, Option.getD_none, harvest_all_eq, harvest_all_eq,
            plain.glean_children gleans_throws node member, List.map_flatMap]
          exact List.flatMap_congr fun child direct => ih child direct (child_mem root node child member direct)

theorem stripped_thrown (away : Mark → Bool) (statement : Node) :
    (statement.stripped away).significant.head?.bind unwrapped =
      (statement.significant.head?.bind unwrapped).map (stripped away) := by
  by_cases throws : statement.kind = .throwStatement
  · rw [stripped_throw_head away statement throws]
    cases statement.significant.head? with
    | none => rfl
    | some child => simp [peeled_unwrapped, stripped_unwrapped]
  · rw [stripped_significant away statement throws, List.head?_map]
    cases statement.significant.head? with
    | none => rfl
    | some child => simp [stripped_unwrapped]

theorem thrown_mem (statement call : Node) (found : statement.significant.head?.bind unwrapped = some call) :
    call ∈ statement.preorder := by
  obtain ⟨expression, first, unwrapped⟩ := Option.bind_eq_some_iff.mp found
  obtain ⟨between, path, _⟩ := unwrapped_descent statement expression call
    (significant_head_mem statement expression first) unwrapped
  exact descendant_mem_preorder _ _ (descent_below _ _ between path)

namespace PlainComments

theorem child_stripped (plain : root.PlainComments) (node : Node) (member : node ∈ root.preorder)
    (kind : node.kind ≠ .throwStatement) (role : Role) :
    (node.stripped away).child? role = (node.child? role).map (stripped away) :=
  stripped_child away node kind role fun child direct => plain.partless child (child_mem root node child member direct)

theorem constructor_stripped (plain : root.PlainComments) (node : Node) (member : node ∈ root.preorder) :
    (node.stripped away).constructor? = node.constructor?.map (stripped away) := by
  rw [constructor?, constructor?, stripped_kind]
  split
  · rename_i kind
    exact plain.child_stripped node member (by simp [kind]) .constructed
  · rename_i kind
    exact plain.child_stripped node member (by simp [kind]) .called
  · rfl

theorem arguments_stripped (plain : root.PlainComments) (node : Node) (member : node ∈ root.preorder)
    (kind : node.kind ≠ .throwStatement) :
    (node.stripped away).argumentNodes? = node.argumentNodes?.map (List.map (stripped away)) := by
  rw [argumentNodes?, argumentNodes?, plain.child_stripped node member kind]
  cases node.child? .arguments with
  | none => rfl
  | some list =>
      by_cases listKind : list.kind = .arguments
      · simp [listKind, stripped_significant away list (by simp [listKind])]
      · simp [listKind]

end PlainComments
end Node

namespace Candidate

theorem stripped_range (candidate : Candidate) (away : Mark → Bool) :
    (candidate.stripped away).range = candidate.range := by
  simp [range, stripped]

theorem stripped_literal (candidate : Candidate) (away : Mark → Bool) :
    (candidate.stripped away).literal? = candidate.literal?.map (Node.stripped away) := by
  rw [literal?, literal?, stripped]
  cases candidate.options with
  | none => rfl
  | some options =>
      by_cases object : options.kind = .object
      · simp [Option.filter, object]
      · simp [Option.filter, object]

theorem stripped_finding (candidate : Candidate) (away : Mark → Bool) (name : String) :
    (candidate.stripped away).finding name = (candidate.finding name).stripped away := by
  have fix : (candidate.stripped away).fix name = candidate.fix name := by
    rw [Candidate.fix, Candidate.fix, stripped_literal]
    cases options : candidate.options with
    | none => simp [stripped, options]
    | some node =>
        simp only [stripped, options, Option.map_some, Option.map_map]
        congr 1
        funext literal
        simp
  rw [finding, fix]
  rfl

end Candidate

theorem first_by_range_stripped (away : Mark → Bool) (seen : List (Nat × Nat)) (candidates : List Candidate) :
    firstByRange seen (candidates.map (·.stripped away)) = (firstByRange seen candidates).map (·.stripped away) := by
  induction candidates generalizing seen with
  | nil => rfl
  | cons candidate rest ih =>
      rw [List.map_cons, firstByRange, firstByRange, candidate.stripped_range]
      by_cases known : candidate.range ∈ seen
      · rw [if_pos known, if_pos known, ih]
      · rw [if_neg known, if_neg known, ih, List.map_cons]

namespace Script
open Node

variable {script : Script} {away : Mark → Bool}

@[simp] theorem stripped_text (script : Script) (away : Mark → Bool) (node : Node) :
    (script.stripped away).text (node.stripped away) = script.text node := by
  simp [text, stripped]

theorem stripped_bound_name (plain : script.root.PlainComments) (clause : Node) (member : clause ∈ script.root.preorder)
    (kind : clause.kind = .catchClause) :
    (script.stripped away).boundName (clause.stripped away) = script.boundName clause := by
  rw [boundName, boundName, plain.child_stripped clause member (by simp [kind])]
  cases clause.child? .parameter with
  | none => rfl
  | some parameter => simp

theorem stripped_handler (plain : script.root.PlainComments) (node : Node) (member : node ∈ script.root.preorder) :
    (script.stripped away).handler? (node.stripped away) = (script.handler? node).map (·.stripped away) := by
  rw [handler?, handler?]
  by_cases kind : node.kind = .catchClause
  · rw [plain.child_stripped node member (by simp [kind]), stripped_bound_name plain node member kind]
    cases node.child? .body with
    | none => simp [kind]
    | some body => simp [kind, Handler.stripped]
  · simp [guard, kind]

def handlersIn (script : Script) (node : Node) : List Handler := node.preorder.filterMap script.handler?

theorem handlers_in_eq (script : Script) (node : Node) :
    script.handlersIn node = (script.handler? node).toList ++ node.children.flatMap script.handlersIn := by
  rw [handlersIn, preorder_eq, preorder_all_eq]
  cases found : script.handler? node with
  | none => rw [List.filterMap_cons_none found, List.filterMap_flatMap]; rfl
  | some handler => rw [List.filterMap_cons_some found, List.filterMap_flatMap]; rfl

theorem handler_none (script : Script) (node : Node) (kind : node.kind ≠ .catchClause) :
    script.handler? node = none := by
  simp [handler?, guard, kind]

theorem gleans_handlers (script : Script) : Gleans script.handlersIn where
  comment node comment leaf := by
    rw [handlers_in_eq, script.handler_none node (by simp [comment]), leaf]
    rfl
  wrapper node wrapped := by
    rw [handlers_in_eq, script.handler_none node (by simp [wrapped])]
    rfl

theorem handlers_in_stripped (plain : script.root.PlainComments) (node : Node) (member : node ∈ script.root.preorder) :
    (script.stripped away).handlersIn (node.stripped away) = (script.handlersIn node).map (·.stripped away) := by
  induction node using tree_induction with
  | step node ih =>
      rw [handlers_in_eq, script.handlers_in_eq node, stripped_handler plain node member,
        plain.glean_children (script.stripped away).gleans_handlers node member, List.map_append, List.map_flatMap]
      congr 1
      · cases script.handler? node <;> rfl
      · exact List.flatMap_congr fun child direct => ih child direct (child_mem _ node child member direct)

theorem stripped_handlers (plain : script.root.PlainComments) :
    (script.stripped away).handlers = script.handlers.map (·.stripped away) := by
  rw [handlers, handlers, walk_eq, walk_eq]
  exact handlers_in_stripped plain script.root (self_mem_preorder script.root)

theorem candidate_bind (script : Script) (names : List String) (statement : Node) :
    script.candidate? names statement =
      (statement.significant.head?.bind unwrapped).bind fun call =>
        call.constructor?.bind fun constructor =>
          Option.bind (guard (script.text constructor ∈ names)) fun (_ : Unit) =>
            call.argumentNodes?.bind fun
              | [] => none
              | message :: rest =>
                some ⟨statement, call, message, if message.kind = .spread then some message else rest.head?⟩ := by
  simp only [candidate?, Option.bind_eq_bind, Option.bind_assoc]
  rfl

theorem stripped_candidate (plain : script.root.PlainComments) (names : List String) (statement : Node)
    (member : statement ∈ script.root.preorder) :
    (script.stripped away).candidate? names (statement.stripped away) =
      (script.candidate? names statement).map (·.stripped away) := by
  rw [candidate_bind, candidate_bind, stripped_thrown]
  cases thrown : statement.significant.head?.bind unwrapped with
  | none => rfl
  | some call =>
      have callMember := preorder_trans _ statement call member (thrown_mem statement call thrown)
      simp only [Option.map_some, Option.bind_some]
      rw [plain.constructor_stripped call callMember]
      cases constructed : call.constructor? with
      | none => rfl
      | some constructor =>
          have kind : call.kind ≠ .throwStatement := by
            intro throws
            simp [constructor?, throws] at constructed
          simp only [Option.map_some, Option.bind_some, stripped_text]
          rw [plain.arguments_stripped call callMember kind]
          by_cases named : script.text constructor ∈ names
          · rcases call.argumentNodes? with _ | _ | ⟨message, rest⟩
            · simp [guard, named]
            · simp [guard, named]
            · by_cases spread : message.kind = .spread
              · simp [guard, named, spread, Candidate.stripped]
              · simp [guard, named, spread, Candidate.stripped]
          · simp [guard, named]

theorem stripped_throws (plain : script.root.PlainComments) (handler : Handler) (member : handler ∈ script.handlers) :
    (handler.stripped away).throws = handler.throws.map (Node.stripped away) := by
  have bodyMember := (script.handler_body handler member).2
  rw [Handler.throws, Handler.throws, gather_eq, gather_eq, harvest_all_eq, harvest_all_eq, Handler.stripped,
    plain.glean_children gleans_throws handler.body bodyMember, List.map_flatMap]
  exact List.flatMap_congr fun child direct =>
    plain.harvest_stripped child (child_mem _ handler.body child bodyMember direct)

theorem throws_mem (handler : Handler) (member : handler ∈ script.handlers) (statement : Node)
    (thrown : statement ∈ handler.throws) : statement ∈ script.root.preorder := by
  rw [Handler.throws, gather_eq, harvest_all_eq, List.mem_flatMap] at thrown
  obtain ⟨child, direct, found⟩ := thrown
  have childMember := child_mem _ handler.body child (script.handler_body handler member).2 direct
  exact preorder_trans _ child statement childMember (harvest_mem child statement found)

theorem stripped_candidates (plain : script.root.PlainComments) (names : List String) (handler : Handler)
    (member : handler ∈ script.handlers) :
    (script.stripped away).candidates names (handler.stripped away) =
      (script.candidates names handler).map (·.stripped away) := by
  rw [candidates_eq, candidates_eq, stripped_throws plain handler member, List.filterMap_map, List.map_filterMap]
  refine List.filterMap_congr fun statement thrown => ?_
  exact stripped_candidate plain names statement (throws_mem handler member statement thrown)

theorem stripped_cause_value (plain : script.root.PlainComments) (node : Node) (member : node ∈ script.root.preorder) :
    (script.stripped away).causeValue? (node.stripped away) = (script.causeValue? node).map (Node.stripped away) := by
  rw [causeValue?, causeValue?, stripped_kind]
  split
  · rename_i kind
    rw [plain.child_stripped node member (by simp [kind]), plain.child_stripped node member (by simp [kind])]
    rcases node.child? .key with _ | key
    · rfl
    · rcases node.child? .value with _ | value
      · rfl
      · have name : (script.stripped away).keyName? (key.stripped away) = script.keyName? key := by
          simp [keyName?]
        by_cases cause : script.keyName? key = some "cause"
        · simp [guard, name, cause]
        · simp [guard, name, cause]
  · rw [stripped_text]
    split <;> rfl
  · rfl

theorem stripped_cause (plain : script.root.PlainComments) (literal : Node) (member : literal ∈ script.root.preorder)
    (object : literal.kind = .object) :
    (script.stripped away).cause? (literal.stripped away) = (script.cause? literal).map (Node.stripped away) := by
  have values : (literal.stripped away).children.filterMap (script.stripped away).causeValue? =
      (literal.children.filterMap script.causeValue?).map (Node.stripped away) := by
    rw [stripped_children away literal (by simp [object]), stripped_all_eq, List.filterMap_map, List.filterMap_filter,
      List.map_filterMap]
    refine List.filterMap_congr fun child direct => ?_
    by_cases gone : child.goes away = true
    · simp [gone, causeValue?, goes_comment away child gone]
    · simp [gone, stripped_cause_value plain child (child_mem _ literal child member direct)]
  rw [cause?, cause?, values, List.getLast?_map]

theorem stripped_is_named (script : Script) (away : Mark → Bool) (name : String) (value : Node) :
    (script.stripped away).isNamed name (value.stripped away) = script.isNamed name value := by
  simp [isNamed]

theorem stripped_linked (plain : script.root.PlainComments) (parameter : Option String) (candidate : Candidate)
    (member : ∀ literal, candidate.literal? = some literal → literal ∈ script.root.preorder) :
    (script.stripped away).linked parameter (candidate.stripped away) = script.linked parameter candidate := by
  cases parameter with
  | none => rfl
  | some name =>
      simp only [linked, candidate.stripped_literal]
      cases found : candidate.literal? with
      | none => rfl
      | some literal =>
          have object := (candidate.literal_inversion literal found).2
          simp only [Option.map_some, Option.bind_some, stripped_cause plain literal (member literal found) object]
          cases script.cause? literal with
          | none => rfl
          | some value => simp [stripped_is_named]

theorem candidate_linked (plain : script.root.PlainComments) (names : List String) (handler : Handler)
    (member : handler ∈ script.handlers) (candidate : Candidate) (held : candidate ∈ script.candidates names handler)
    (parameter : Option String) :
    (script.stripped away).linked parameter (candidate.stripped away) = script.linked parameter candidate := by
  have owns : Owns script names handler candidate := ⟨member, held⟩
  refine stripped_linked plain parameter candidate fun literal found => ?_
  exact below_mem _ candidate.statement literal owns.statement_mem (owns.literal_below literal found)

theorem stripped_report (plain : script.root.PlainComments) (names : List String) (handler : Handler)
    (member : handler ∈ script.handlers) :
    (script.stripped away).report (handler.stripped away)
        ((script.stripped away).candidates names (handler.stripped away)) =
      (script.report handler (script.candidates names handler)).map (·.stripped away) := by
  rw [stripped_candidates plain names handler member]
  cases bound : handler.parameter with
  | none => simp [report, Handler.stripped, bound]
  | some name =>
      simp only [report, Handler.stripped, bound, first_by_range_stripped, List.filter_map, List.map_map]
      have verdicts : (firstByRange [] (script.candidates names handler)).filter
            ((fun candidate => !(script.stripped away).linked (some name) candidate) ∘ (·.stripped away)) =
          (firstByRange [] (script.candidates names handler)).filter fun candidate =>
            !script.linked (some name) candidate := by
        refine List.filter_congr fun candidate kept => ?_
        have held := (first_by_range_sublist [] _).subset kept
        rw [Function.comp_apply, candidate_linked plain names handler member candidate held]
      rw [verdicts]
      exact List.map_congr_left fun candidate _ => candidate.stripped_finding away name

theorem stripped_reports (plain : script.root.PlainComments) (names : List String) :
    (script.stripped away).reports names =
      (script.reports names).map fun entry => (entry.1.stripped away, entry.2.map (·.stripped away)) := by
  rw [reports, reports, stripped_handlers plain, List.map_map, List.map_map]
  refine List.map_congr_left fun handler member => ?_
  exact Prod.ext rfl (stripped_report plain names handler member)

-- Nodes that stay keep their marks. What should go is gone, and nothing that the analysis says has changed.
theorem stripping_transparent (script : Script) (names : List String) (away : Mark → Bool)
    (plain : script.root.PlainComments) :
    (∀ node : Node, (node.stripped away).mark = node.mark) ∧
    (∀ node ∈ (script.stripped away).root.preorder, node.kind = .comment → away node.mark = false) ∧
    (∀ statement ∈ (script.stripped away).root.preorder, statement.kind = .throwStatement →
      ∀ wrapper, statement.significant.head? = some wrapper → wrapper.kind = .parenthesized →
        away wrapper.mark = true → wrapper.significant.length ≠ 1) ∧
    (script.stripped away).handlers = script.handlers.map (·.stripped away) ∧
    (∀ handler ∈ script.handlers, (script.stripped away).candidates names (handler.stripped away) =
      (script.candidates names handler).map (·.stripped away)) ∧
    (∀ handler ∈ script.handlers, ∀ candidate ∈ script.candidates names handler,
      (script.stripped away).linked handler.parameter (candidate.stripped away) =
        script.linked handler.parameter candidate) ∧
    (script.stripped away).reports names =
      (script.reports names).map fun entry => (entry.1.stripped away, entry.2.map (·.stripped away)) := by
  refine ⟨stripped_mark away, ?_, ?_, stripped_handlers plain, stripped_candidates plain names, ?_,
    stripped_reports plain names⟩
  · intro node held comment
    exact stripped_no_comment away script.root plain node held comment
  · intro statement held throws wrapper first wrapped gone
    exact stripped_no_parentheses away script.root statement wrapper held throws first wrapped gone
  · intro handler member candidate held
    exact candidate_linked plain names handler member candidate held handler.parameter

end Script

def wordyOutline : List (Nat × Kind × Option Role × Nat × Nat) :=
  [(0, .other, none, 0, 78), (1, .catchClause, none, 5, 78), (2, .identifier, some .parameter, 11, 12),
    (2, .other, some .body, 13, 78), (3, .throwStatement, none, 14, 62), (4, .comment, none, 19, 24),
    (4, .parenthesized, none, 24, 61), (5, .comment, none, 25, 30), (5, .parenthesized, none, 30, 60),
    (6, .call, none, 31, 59), (7, .identifier, some .called, 31, 36), (7, .arguments, some .arguments, 36, 59),
    (8, .comment, none, 37, 42), (8, .other, none, 42, 43), (8, .object, none, 44, 58), (9, .comment, none, 45, 50),
    (9, .pair, none, 50, 57), (10, .propertyName, some .key, 50, 55), (10, .identifier, some .value, 56, 57),
    (3, .throwStatement, none, 62, 77), (4, .parenthesized, none, 67, 77), (5, .call, none, 68, 76),
    (6, .identifier, some .called, 68, 73), (6, .arguments, some .arguments, 73, 76), (7, .other, none, 74, 75)]

def wordyThrows : Script where
  bytes := Utf8.encode
    "try\x7b\x7dcatch(e)\x7bthrow/*a*/(/*b*/(Error(/*c*/1,\x7b/*d*/cause:e\x7d)));throw(Error(2))\x7d"
  root := (Outline.root? (wordyOutline.zipIdx.map fun ((depth, kind, role, start, stop), index) =>
    (depth, ⟨kind, role, index, ⟨⟨start, 0, start⟩, ⟨stop, 0, stop⟩⟩⟩))).getD default

theorem wordy_throws_stripped :
    wordyThrows.root.PlainComments ∧
      (wordyThrows.root.preorder.filter fun node => node.kind = .comment || node.kind = .parenthesized).length = 7 ∧
      ((wordyThrows.stripped fun _ => true).root.preorder.filter fun node =>
        node.kind = .comment || node.kind = .parenthesized).length = 0 ∧
      (wordyThrows.reports ["Error"]).map (fun entry => (entry.1.parameter, entry.2.map (·.start))) =
        [(some "e", [68])] ∧
      (wordyThrows.stripped fun _ => true).reports ["Error"] = (wordyThrows.reports ["Error"]).map fun entry =>
        (entry.1.stripped fun _ => true, entry.2.map (·.stripped fun _ => true)) := by
  have plain : wordyThrows.root.PlainComments := by decide +kernel
  refine ⟨plain, by decide +kernel, by decide +kernel, by decide +kernel, ?_⟩
  exact (wordyThrows.stripping_transparent ["Error"] (fun _ => true) plain).2.2.2.2.2.2

end Rethrow
