import Mathlib.Data.List.Forall2
import Rethrow.Proofs.Encoding
import Rethrow.Proofs.Overlap

/-!
What a batch of fixes does to a tree. `patched` says which tree is left when the fixed text is read again: one
argument of each fixed throw is replaced, or followed by a new one, and nothing else is moved. Texts without a
parenthesis can be compared across the change, since every node with a change inside it holds an argument list.
-/
set_option autoImplicit false

namespace Rethrow

/-- The argument at which a candidate is fixed: the options literal, or the message that new options follow. -/
def Candidate.place (candidate : Candidate) : Node := candidate.options.getD candidate.message

def Kind.isWord (kind : Kind) : Bool :=
  kind = .identifier || kind = .shorthand || kind = .propertyName || kind = .string

/-- No statement is written inside a word. -/
def Node.PlainWords (root : Node) : Prop :=
  ∀ node ∈ root.preorder, node.kind.isWord = true → ∀ inner ∈ node.descendants, inner.kind ≠ .throwStatement

instance (root : Node) : Decidable root.PlainWords :=
  inferInstanceAs (Decidable (∀ node ∈ root.preorder, node.kind.isWord = true →
    ∀ inner ∈ node.descendants, inner.kind ≠ .throwStatement))

namespace Script

/-- A script that was read without errors: its tree is orderly, and an argument list begins with a parenthesis. -/
structure ErrorFree (script : Script) : Prop where
  orderly : script.root.Orderly
  opening : ∀ node ∈ script.root.preorder, node.kind = .arguments →
    node.start < node.stop ∧ script.bytes[node.start]? = some 0x28

instance (script : Script) : Decidable script.ErrorFree :=
  decidable_of_iff (script.root.Orderly ∧ ∀ node ∈ script.root.preorder, node.kind = .arguments →
    node.start < node.stop ∧ script.bytes[node.start]? = some 0x28)
    ⟨fun ⟨orderly, opening⟩ => ⟨orderly, opening⟩, fun ⟨orderly, opening⟩ => ⟨orderly, opening⟩⟩

def batch (script : Script) (names : List String) : List Edit :=
  Edit.selectDisjoint (((script.reports names).flatMap (·.2)).filterMap (·.fix))

def amended (script : Script) (names : List String) : List Lapse :=
  (script.lapses names).filter fun lapse => lapse.fix.any fun edit => edit ∈ script.batch names

end Script

def Node.Untouched (amended : List Lapse) (node : Node) : Prop :=
  ∀ lapse ∈ amended, lapse.candidate.place ∉ node.descendants

instance (amended : List Lapse) (node : Node) : Decidable (node.Untouched amended) :=
  inferInstanceAs (Decidable (∀ lapse ∈ amended, lapse.candidate.place ∉ node.descendants))

namespace Script

/-- The tree of pasted options, `cause` with the caught name as its value. `reads` says which names are read as
identifiers where an expression is expected; the others are words of the language. -/
def pasted (after : Script) (reads : String → Bool) (name : String) : Node → Bool
  | .mk mark [.mk member [key, value]] =>
    mark.kind = .object && member.kind = .pair &&
      (key.kind = .propertyName && key.role = some .key && key.children = [] && after.text key = "cause") &&
      (value.kind = (if reads name then .identifier else .other) && value.role = some .value && value.children = [] &&
        after.text value = name)
  | _ => false

mutual
/-- Whether the tree `new` of the fixed text is the old one with every change made. A node keeps its kind and its part
in the parent, and its text too if no change is made inside it. -/
def patched (before after : Script) (reads : String → Bool) (amended : List Lapse) : Node → Node → Bool
  | .mk mark children, new =>
    new.kind = mark.kind && new.role = mark.role &&
      (!decide ((Node.mk mark children).Untouched amended) || after.text new = before.text (.mk mark children)) &&
      patchedAll before after reads amended children new.children
def patchedAll (before after : Script) (reads : String → Bool) (amended : List Lapse) : List Node → List Node → Bool
  | [], news => news.isEmpty
  | _ :: _, [] => false
  | old :: olds, new :: news =>
    match amended.find? fun lapse => lapse.candidate.place = old with
    | none => patched before after reads amended old new && patchedAll before after reads amended olds news
    | some lapse =>
      if lapse.candidate.options.isSome then
        pasted after reads lapse.name new && patchedAll before after reads amended olds news
      else match news with
        | [] => false
        | fresh :: news =>
          patched before after reads amended old new && pasted after reads lapse.name fresh &&
            patchedAll before after reads amended olds news
end

end Script

namespace Candidate

theorem place_inversion (candidate : Candidate) (name : String) (fixable : candidate.fix name ≠ none) :
    (candidate.options = none ∧ candidate.place = candidate.message) ∨
      ∃ literal, candidate.literal? = some literal ∧ candidate.options = some literal ∧ candidate.place = literal := by
  obtain ⟨edit, fixed⟩ := Option.ne_none_iff_exists'.mp fixable
  rcases candidate.fix_inversion name edit fixed with ⟨absent, _⟩ | ⟨literal, found, _⟩
  · exact .inl ⟨absent, by simp [place, absent]⟩
  · have options := (candidate.literal_inversion literal found).1
    exact .inr ⟨literal, found, options, by simp [place, options]⟩

namespace Made

variable {script : Script} {names : List String} {candidate rival : Candidate} {between others rest later : List Node}
  {constructor other list : Node}

theorem place_significant (made : candidate.Made script names between constructor list rest) (name : String)
    (fixable : candidate.fix name ≠ none) : candidate.place ∈ list.significant := by
  rw [made.significant]
  rcases candidate.place_inversion name fixable with ⟨_, place⟩ | ⟨literal, found, _, place⟩
  · rw [place]
    exact List.mem_cons_self
  · rw [place]
    exact List.mem_cons_of_mem _ (List.mem_of_head? (made.literal_head literal found).2)

theorem place_child (made : candidate.Made script names between constructor list rest) (name : String)
    (fixable : candidate.fix name ≠ none) : candidate.place ∈ list.children :=
  ((Node.mem_significant_iff _ _).mp (made.place_significant name fixable)).1

theorem statement_unique (made : candidate.Made script names between constructor list rest)
    (rivals : rival.Made script names others other list later) (numbered : script.root.Numbered)
    (member : candidate.statement ∈ script.root.preorder) (rivalMember : rival.statement ∈ script.root.preorder)
    (throws : candidate.statement.kind = .throwStatement) (rivalThrows : rival.statement.kind = .throwStatement) :
    candidate.statement = rival.statement := by
  rcases Node.preorder_nested script.root candidate.statement rival.statement list numbered member rivalMember
    (Node.descendant_mem_preorder _ _ made.list_below) (Node.descendant_mem_preorder _ _ rivals.list_below) with
    held | held
  · rcases (Node.mem_preorder_iff _ _).mp held with same | deeper
    · exact same
    · have kind := rivals.above_list (Node.numbered_part _ _ numbered rivalMember) _ deeper made.list_below
      rw [throws] at kind
      simp at kind
  · rcases (Node.mem_preorder_iff _ _).mp held with same | deeper
    · exact same.symm
    · have kind := made.above_list (Node.numbered_part _ _ numbered member) _ deeper rivals.list_below
      rw [rivalThrows] at kind
      simp at kind

end Made
end Candidate

namespace Script

variable {script : Script} {names : List String}

theorem amended_eq (script : Script) (names : List String) (orderly : script.root.Orderly) :
    script.amended names = (script.lapses names).filter fun lapse =>
      lapse.fix ≠ none ∧ ∀ other ∈ script.lapses names, other.fix ≠ none → ¬ lapse.Inside other := by
  refine List.filter_congr fun lapse member => ?_
  rw [Bool.eq_iff_iff, decide_eq_true_iff, Option.any_eq_true, batch, script.reports_fixes names]
  constructor
  · rintro ⟨edit, fixed, kept⟩
    exact ⟨by simp [fixed], (Lapse.mem_kept_iff orderly lapse member edit fixed).mp (of_decide_eq_true kept)⟩
  · rintro ⟨fixable, clear⟩
    obtain ⟨edit, fixed⟩ := Option.ne_none_iff_exists'.mp fixable
    exact ⟨edit, fixed, decide_eq_true ((Lapse.mem_kept_iff orderly lapse member edit fixed).mpr clear)⟩

theorem amended_or_inside (orderly : script.root.Orderly) (lapse : Lapse) (member : lapse ∈ script.lapses names)
    (fixable : lapse.fix ≠ none) :
    lapse ∈ script.amended names ∨ ∃ outer ∈ script.amended names, lapse.Inside outer := by
  obtain ⟨edit, fixed⟩ := Option.ne_none_iff_exists'.mp fixable
  have kept : ∀ other ∈ script.lapses names, ∀ edit, other.fix = some edit →
      edit ∈ Edit.selectDisjoint ((script.lapses names).filterMap (·.fix)) → other ∈ script.amended names := by
    intro other held edit fixed chosen
    rw [amended_eq script names orderly]
    exact List.mem_filter.mpr ⟨held, decide_eq_true
      ⟨by simp [fixed], (Lapse.mem_kept_iff orderly other held edit fixed).mp chosen⟩⟩
  rcases Edit.exists_selected _ edit (Lapse.fixes_nested orderly) (List.mem_filterMap.mpr ⟨lapse, member, fixed⟩) with
    chosen | ⟨outer, chosen, covers⟩
  · exact .inl (kept lapse member edit fixed chosen)
  · obtain ⟨other, held, otherFixed⟩ := List.mem_filterMap.mp (Edit.select_disjoint_subset _ outer chosen)
    exact .inr ⟨other, kept other held outer otherFixed chosen,
      (Lapse.covers_iff_inside orderly other lapse held member outer edit otherFixed fixed).mp covers⟩

theorem amended_lapse (lapse : Lapse) (member : lapse ∈ script.amended names) :
    lapse ∈ script.lapses names ∧ lapse.fix ≠ none := by
  obtain ⟨held, kept⟩ := List.mem_filter.mp member
  obtain ⟨edit, fixed, _⟩ := (Option.any_eq_true _ _).mp kept
  exact ⟨held, by simp [fixed]⟩

theorem amended_owns (lapse : Lapse) (member : lapse ∈ script.amended names) :
    Owns script names lapse.handler lapse.candidate := (script.mem_lapses names lapse (amended_lapse lapse member).1).1

theorem place_parent (numbered : script.root.Numbered) (lapse : Lapse) (member : lapse ∈ script.amended names)
    (parent : Node) (held : parent ∈ script.root.preorder) (direct : lapse.candidate.place ∈ parent.children) :
    ∃ between constructor rest, lapse.candidate.Made script names between constructor parent rest := by
  have owns := amended_owns lapse member
  obtain ⟨between, constructor, list, rest, made⟩ := owns.shape
  have listMember := Node.below_mem _ _ _ owns.statement_mem made.list_below
  have same := Node.parent_unique script.root parent list _ numbered held listMember direct
    (made.place_child lapse.name (amended_lapse lapse member).2)
  subst same
  exact ⟨between, constructor, rest, made⟩

theorem place_kind (numbered : script.root.Numbered) (lapse : Lapse) (member : lapse ∈ script.amended names)
    (parent : Node) (held : parent ∈ script.root.preorder) (direct : lapse.candidate.place ∈ parent.children) :
    parent.kind = .arguments ∧ lapse.candidate.place.kind ≠ .comment := by
  obtain ⟨between, constructor, rest, made⟩ := place_parent numbered lapse member parent held direct
  exact ⟨made.listKind,
    ((Node.mem_significant_iff _ _).mp (made.place_significant lapse.name (amended_lapse lapse member).2)).2⟩

theorem place_candidate (numbered : script.root.Numbered) (lapse : Lapse) (member : lapse ∈ script.amended names)
    {candidate : Candidate} {between rest : List Node} {constructor list : Node}
    (made : candidate.Made script names between constructor list rest)
    (found : script.candidate? names candidate.statement = some candidate)
    (held : candidate.statement ∈ script.root.preorder) (throws : candidate.statement.kind = .throwStatement)
    (direct : lapse.candidate.place ∈ list.children) : lapse.candidate = candidate := by
  have owns := amended_owns lapse member
  have listMember := Node.below_mem _ _ _ held made.list_below
  obtain ⟨_, _, _, own⟩ := place_parent numbered lapse member list listMember direct
  have same := own.statement_unique made numbered owns.statement_mem held owns.throws throws
  have again := owns.made
  rw [same, found] at again
  exact (Option.some.inj again).symm

theorem amended_unique (orderly : script.root.Orderly) (lapse other : Lapse) (member : lapse ∈ script.amended names)
    (otherMember : other ∈ script.amended names) (same : lapse.candidate = other.candidate) : lapse = other := by
  rcases pairwise_cases _ (script.lapses_apart names orderly.spaced orderly.separate) lapse other
    (amended_lapse lapse member).1 (amended_lapse other otherMember).1 with equal | apart | apart
  · exact equal
  · exact absurd (congrArg Candidate.statement same) apart
  · exact absurd (congrArg Candidate.statement same).symm apart

theorem place_unique (orderly : script.root.Orderly) (lapse other : Lapse) (member : lapse ∈ script.amended names)
    (otherMember : other ∈ script.amended names) (same : lapse.candidate.place = other.candidate.place) :
    lapse = other := by
  have owns := amended_owns other otherMember
  obtain ⟨between, constructor, list, rest, made⟩ := owns.shape
  have direct := made.place_child other.name (amended_lapse other otherMember).2
  exact amended_unique orderly lapse other member otherMember (place_candidate orderly.numbered lapse member made
    owns.made owns.statement_mem owns.throws (same ▸ direct))

end Script

namespace Script

variable {before after : Script} {reads : String → Bool} {amended : List Lapse}

theorem pasted_inversion (name : String) (node : Node) (pasted : after.pasted reads name node = true) :
    node.kind = .object ∧ ∃ member key value, node.children = [member] ∧ member.children = [key, value] ∧
      member.kind = .pair ∧
      (key.kind = .propertyName ∧ key.role = some .key ∧ key.children = [] ∧ after.text key = "cause") ∧
      (value.kind = (if reads name then .identifier else .other) ∧ value.role = some .value ∧ value.children = [] ∧
        after.text value = name) := by
  unfold Script.pasted at pasted
  split at pasted
  · simp only [Bool.and_eq_true, decide_eq_true_eq] at pasted
    obtain ⟨⟨⟨object, pair⟩, ⟨⟨keyKind, keyRole⟩, keyLeaf⟩, keyText⟩, ⟨⟨valueKind, valueRole⟩, valueLeaf⟩,
      valueText⟩ := pasted
    exact ⟨object, _, _, _, rfl, rfl, pair, ⟨keyKind, keyRole, keyLeaf, keyText⟩, valueKind, valueRole, valueLeaf,
      valueText⟩
  · cases pasted

theorem patched_iff (old new : Node) :
    before.patched after reads amended old new = true ↔ new.kind = old.kind ∧ new.role = old.role ∧
      (old.Untouched amended → after.text new = before.text old) ∧
      before.patchedAll after reads amended old.children new.children = true := by
  obtain ⟨mark, children⟩ := old
  rw [patched]
  simp only [Bool.and_eq_true, Bool.or_eq_true, decide_eq_true_eq, Bool.not_eq_true', decide_eq_false_iff_not,
    and_assoc, ← imp_iff_not_or]
  rfl

theorem patched_all_cons_iff (old : Node) (olds news : List Node) :
    before.patchedAll after reads amended (old :: olds) news = true ↔
      match amended.find? fun lapse => lapse.candidate.place = old with
      | none => ∃ new rest, news = new :: rest ∧ before.patched after reads amended old new = true ∧
          before.patchedAll after reads amended olds rest = true
      | some lapse =>
        if lapse.candidate.options.isSome then
          ∃ new rest, news = new :: rest ∧ after.pasted reads lapse.name new = true ∧
            before.patchedAll after reads amended olds rest = true
        else ∃ new fresh rest, news = new :: fresh :: rest ∧ before.patched after reads amended old new = true ∧
          after.pasted reads lapse.name fresh = true ∧ before.patchedAll after reads amended olds rest = true := by
  cases news with
  | nil =>
      rw [patchedAll]
      repeat' split
      all_goals simp
  | cons new news =>
      rw [patchedAll.eq_def]
      dsimp only
      cases amended.find? fun lapse => lapse.candidate.place = old with
      | none => simp
      | some lapse =>
          dsimp only
          split
          · simp
          · cases news with
            | nil => simp
            | cons fresh news => simp [and_assoc]

theorem patched_all_nil_iff (news : List Node) : before.patchedAll after reads amended [] news = true ↔ news = [] := by
  cases news <;> simp [patchedAll]

theorem find_place_eq_none (old : Node) (clear : ∀ lapse ∈ amended, lapse.candidate.place ≠ old) :
    (amended.find? fun lapse => lapse.candidate.place = old) = none := by
  simpa using clear

theorem find_place_eq_some (old : Node) (lapse : Lapse) (member : lapse ∈ amended) (here : lapse.candidate.place = old)
    (single : ∀ other ∈ amended, other.candidate.place = old → other = lapse) :
    (amended.find? fun other => other.candidate.place = old) = some lapse := by
  have present : (amended.find? fun other => other.candidate.place = old).isSome := by
    rw [List.find?_isSome]
    exact ⟨lapse, member, by simpa using here⟩
  obtain ⟨other, found⟩ := Option.isSome_iff_exists.mp present
  rw [found, single other (List.mem_of_find?_eq_some found) (by simpa using List.find?_some found)]

theorem patched_all_clear (olds news : List Node) (clear : ∀ old ∈ olds, ∀ lapse ∈ amended, lapse.candidate.place ≠ old)
    (patched : before.patchedAll after reads amended olds news = true) :
    List.Forall₂ (fun old new => before.patched after reads amended old new = true) olds news := by
  induction olds generalizing news with
  | nil =>
      rw [patched_all_nil_iff] at patched
      subst patched
      exact .nil
  | cons old olds ih =>
      rw [patched_all_cons_iff, find_place_eq_none old (clear old List.mem_cons_self)] at patched
      obtain ⟨new, rest, rfl, first, later⟩ := patched
      exact .cons first (ih rest (fun other held => clear other (List.mem_cons_of_mem _ held)) later)

-- Comments are neither changed nor made, so the correspondence holds without them too.
theorem patched_all_significant (olds news : List Node)
    (written : ∀ lapse ∈ amended, lapse.candidate.place ∈ olds → lapse.candidate.place.kind ≠ .comment)
    (patched : before.patchedAll after reads amended olds news = true) :
    before.patchedAll after reads amended (olds.filter fun node => node.kind ≠ .comment)
      (news.filter fun node => node.kind ≠ .comment) = true := by
  induction olds generalizing news with
  | nil =>
      rw [patched_all_nil_iff] at patched
      simp [patched, patchedAll]
  | cons old olds ih =>
      have later : ∀ rest, before.patchedAll after reads amended olds rest = true →
          before.patchedAll after reads amended (olds.filter fun node => node.kind ≠ .comment)
            (rest.filter fun node => node.kind ≠ .comment) = true :=
        fun rest => ih rest fun lapse member held => written lapse member (List.mem_cons_of_mem _ held)
      have wordy : ∀ name node, after.pasted reads name node = true → node.kind ≠ .comment := by
        intro name node isPasted
        rw [(pasted_inversion name node isPasted).1]
        simp
      rw [patched_all_cons_iff] at patched
      cases found : amended.find? fun lapse => lapse.candidate.place = old with
      | none =>
          rw [found] at patched
          obtain ⟨new, rest, rfl, first, others⟩ := patched
          have kind := ((patched_iff old new).mp first).1
          by_cases comment : old.kind = .comment
          · simpa [comment, kind] using later rest others
          · have newKind : new.kind ≠ .comment := kind ▸ comment
            simp only [ne_eq, comment, newKind, not_false_eq_true, decide_true, List.filter_cons_of_pos]
            rw [patched_all_cons_iff, found]
            exact ⟨new, _, rfl, first, later rest others⟩
      | some lapse =>
          rw [found] at patched
          have here : lapse.candidate.place = old := by simpa using List.find?_some found
          have oldKind : old.kind ≠ .comment :=
            here ▸ written lapse (List.mem_of_find?_eq_some found) (here ▸ List.mem_cons_self)
          dsimp only at patched
          split at patched
          · obtain ⟨new, rest, rfl, isPasted, others⟩ := patched
            have newKind := wordy _ new isPasted
            simp only [ne_eq, oldKind, newKind, not_false_eq_true, decide_true, List.filter_cons_of_pos]
            rw [patched_all_cons_iff, found]
            simp_all
          · obtain ⟨new, fresh, rest, rfl, first, isPasted, others⟩ := patched
            have newKind : new.kind ≠ .comment := ((patched_iff old new).mp first).1 ▸ oldKind
            have freshKind := wordy _ fresh isPasted
            simp only [ne_eq, oldKind, newKind, freshKind, not_false_eq_true, decide_true, List.filter_cons_of_pos]
            rw [patched_all_cons_iff, found]
            simp_all

theorem parenthesis_in_text (script : Script) (free : script.ErrorFree) (node list : Node)
    (member : node ∈ script.root.preorder) (held : list ∈ node.preorder) (kind : list.kind = .arguments) :
    '(' ∈ (script.text node).toList := by
  have range := free.orderly.spaced.range_inside node list member held
  obtain ⟨wide, byte⟩ := free.opening list (Node.preorder_trans _ _ _ member held) kind
  refine Utf8.mem_decode_lossy _ 0x28 (by decide) (List.mem_iff_getElem?.mpr ⟨list.start - node.start, ?_⟩)
  rw [List.getElem?_drop, List.getElem?_take, show node.start + (list.start - node.start) = list.start by omega,
    if_pos (by omega), byte]

end Script

end Rethrow
