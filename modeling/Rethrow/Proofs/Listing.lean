import Mathlib.Data.List.TakeWhile
import Rethrow.Proofs.Choice
import Rethrow.Proofs.Quoting

/-!
The files that changed, from listings with a file name on each line. Nothing undoes the quotation marks and the escapes
of a name, and a line of spaces is passed over, so that no changed file is lost if and only if every name is written as
it is and is more than spaces.
-/
set_option autoImplicit false

namespace Rethrow

namespace Listing

/-- The names that a line is read as. -/
def shown (names : Names) : Names := splitText '/' (String.ofList (written (joined names)))

theorem joined_shown (names : Names) : joined (shown names) = written (joined names) := by
  rw [joined, shown, splitText, List.map_map, String.toList_ofList]
  simp only [Function.comp_def, String.toList_ofList, List.map_id']
  exact Join.intercalate_split_on '/' _

theorem shown_plain {names : Names} (valid : IsFileName names) (plain : (joined names).all isPlain = true) :
    shown names = names := by
  rw [shown, splitText, written, if_pos plain, String.toList_ofList, split_on_joined valid, List.map_map]
  simp only [Function.comp_def, String.ofList_toList, List.map_id']

theorem quoted_length (name : List Char) : name.length ≤ (name.flatMap quotedChar).length := by
  induction name with
  | nil => exact Nat.le_refl 0
  | cons char rest ih =>
      obtain ⟨first, others, start, _⟩ := quoted_char_cons char
      rw [List.flatMap_cons, start, List.length_append, List.length_cons, List.length_cons]
      omega

theorem written_longer (name : List Char) (strange : ¬ name.all isPlain = true) :
    name.length < (written name).length := by
  have longer := quoted_length name
  rw [written, if_neg strange, List.length_append, List.length_cons, List.length_singleton]
  omega

theorem shown_proper {names : Names} (valid : IsFileName names) :
    ∀ part ∈ shown names, part ≠ "" ∧ part ≠ "." ∧ part ≠ ".." := by
  intro part member
  obtain ⟨stretch, held, rfl⟩ := List.mem_map.mp member
  rw [String.toList_ofList] at held
  have stands := written_stretches valid stretch held
  rw [← stands_iff, String.toList_ofList]
  exact stands

theorem of_text_written {names : Names} (valid : IsFileName names) :
    Path.ofText (String.ofList (written (joined names))) = ⟨.here, shown names⟩ := by
  have here : Path.anchorOf (String.ofList (written (joined names))) = .here := by
    have stands := written_stretches valid
    rw [Path.anchorOf, String.toList_ofList]
    cases start : written (joined names) with
    | nil => rfl
    | cons char rest =>
        rw [start, Join.splitOn] at stands
        by_cases stroke : char = '/'
        · rw [if_pos stroke] at stands
          exact absurd rfl (stands [] List.mem_cons_self 0 (by omega))
        · simp [stroke]
  rw [Path.ofText, here]
  congr 1
  refine List.filter_eq_self.mpr fun part member => ?_
  obtain ⟨empty, dot, _⟩ := shown_proper valid part member
  simp [empty, dot]

theorem split_line (line chars rest : List Char) (clear : ∀ char ∈ chars, Lines.isBreak char = false) :
    Lines.split line (chars ++ '\n' :: rest) = (line.reverse ++ chars) :: Lines.split [] rest := by
  induction chars generalizing line with
  | nil =>
      rw [List.nil_append, List.append_nil, Lines.split]
      · rfl
      · simp
  | cons char chars ih =>
      have single := clear char List.mem_cons_self
      rw [List.cons_append, Lines.split, if_neg (by rw [single]; exact Bool.false_ne_true),
        ih _ fun other member => clear other (List.mem_cons_of_mem _ member)]
      · simp
      · rintro _ rfl
        cases single

theorem lines_text (files : List Names) :
    lines (text files) = files.map fun names => String.ofList (written (joined names)) := by
  rw [lines, text, String.toList_ofList]
  induction files with
  | nil => rfl
  | cons names rest ih =>
      rw [List.flatMap_cons, List.append_assoc, List.singleton_append, split_line [] _ _ fun char member =>
        printable_break char (written_printable names char member), List.map_cons, ih]
      rfl

theorem strip_eq_empty_iff (line : String) : strip line = "" ↔ ∀ char ∈ line.toList, isBlank char = true := by
  rw [strip, ← String.toList_inj, String.toList_ofList]
  change _ = [] ↔ _
  rw [List.reverse_eq_nil_iff, List.dropWhile_eq_nil_iff]
  constructor
  · intro blank char member
    have parts : char ∈ line.toList.takeWhile isBlank ++ line.toList.dropWhile isBlank := by
      rwa [List.takeWhile_append_dropWhile]
    rcases List.mem_append.mp parts with front | back
    · exact List.mem_takeWhile_imp front
    · exact blank char (List.mem_reverse.mpr back)
  · intro blank char member
    exact blank char ((List.dropWhile_sublist _).subset (List.mem_reverse.mp member))

def isVisible (names : Names) : Bool := strip (String.ofList (written (joined names))) ≠ ""

theorem visible_plain (names : Names) (plain : (joined names).all isPlain = true) :
    isVisible names = true ↔ ∃ char ∈ joined names, char ≠ ' ' := by
  have space : ∀ char ∈ joined names, isBlank char = true ↔ char = ' ' := by
    intro char member
    constructor
    · exact printable_blank char (plain_printable char (List.all_eq_true.mp plain char member))
    · rintro rfl
      rfl
  rw [isVisible, decide_eq_true_iff, ne_eq, strip_eq_empty_iff, written, if_pos plain, String.toList_ofList]
  constructor
  · intro some
    by_contra none
    refine some fun char member => (space char member).mpr ?_
    by_contra other
    exact none ⟨char, member, other⟩
  · rintro ⟨char, member, other⟩ blank
    exact other ((space char member).mp (blank char member))

theorem named_text (files : List Names) (valid : ∀ names ∈ files, IsFileName names) :
    Repository.named (text files) = (files.filter isVisible).map fun names => ⟨.here, shown names⟩ := by
  have visible : (fun line => decide (strip line ≠ "")) ∘
      (fun names : Names => String.ofList (written (joined names))) = isVisible := by
    funext names
    rw [isVisible, Function.comp_apply]
  rw [Repository.named, lines_text, List.filter_map, List.map_map, visible]
  refine List.map_congr_left fun names member => ?_
  rw [Function.comp_apply, of_text_written (valid names (List.mem_of_mem_filter member))]

theorem mem_joined (names : Names) (name : String) (char : Char) (listed : name ∈ names) (member : char ∈ name.toList) :
    char ∈ joined names := by
  induction names with
  | nil => cases listed
  | cons first rest ih =>
      cases rest with
      | nil =>
          obtain rfl := List.mem_singleton.mp listed
          simpa [joined] using member
      | cons second rest =>
          rw [joined, List.map_cons, List.map_cons, List.intercalate_cons_cons, List.append_assoc, List.mem_append]
          rcases List.mem_cons.mp listed with rfl | later
          · exact .inl member
          · exact .inr (List.mem_append_right _ (ih later))

theorem shown_clean (names : Names) : ∀ part ∈ shown names, '\x00' ∉ part.toList := by
  intro part member null
  have held := mem_joined (shown names) part '\x00' member null
  rw [joined_shown] at held
  exact absurd (written_printable names _ held) (by decide)

/-- No link stands on the way to where the line of a file leads from the top of the work tree. -/
def Straight (tree : Tree) (top names : Names) : Prop :=
  ∀ above, above <+: top ++ shown names → tree.link? above = none

/-- Names of directories, none of which means the one above or has a null character. -/
def Settled (top : Names) : Prop := ∀ name ∈ top, name ≠ ".." ∧ '\x00' ∉ name.toList

variable {session : Session} {top names : Names}

theorem resolve_shown (settled : Settled top) (valid : IsFileName names)
    (straight : Straight session.store.tree top names) :
    session.resolve (fileAt (top ++ shown names)) = .ok (fileAt (top ++ shown names)) := by
  have clean : (fileAt (top ++ shown names)).hasNull = false := by
    rw [Path.hasNull, List.any_eq_false]
    intro part member null
    rcases List.mem_append.mp member with above | below
    · exact (settled part above).2 (List.contains_iff_mem.mp null)
    · exact shown_clean names part below (List.contains_iff_mem.mp null)
  have plain : ".." ∉ top ++ shown names := by
    intro member
    rcases List.mem_append.mp member with above | below
    · exact (settled _ above).1 rfl
    · exact (shown_proper valid _ below).2.2 rfl
  rw [Session.resolve, clean, if_neg Bool.false_ne_true, Tree.resolve_unlinked _ _ plain straight]

theorem resolve_each_fixed (paths : List Path) (fixed : ∀ path ∈ paths, session.resolve path = .ok path) :
    paths.mapM session.resolve = .ok paths := by
  induction paths with
  | nil => rfl
  | cons path rest ih =>
      rw [List.mapM_cons, fixed path List.mem_cons_self, ih fun other held => fixed other (List.mem_cons_of_mem _ held)]
      rfl

theorem listed_text (repository : Repository) (located : repository.topLevel = fileAt top) (settled : Settled top)
    (files : List Names) (valid : ∀ names ∈ files, IsFileName names)
    (straight : ∀ names ∈ files, Straight session.store.tree top names) :
    (repository.listed (text files)).run.run session =
      (.ok ((files.filter isVisible).map fun names => fileAt (top ++ shown names)), session) := by
  have each : repository.listed (text files) =
      ((files.filter isVisible).map fun names => fileAt (top ++ shown names)).mapM Run.resolve := by
    rw [Repository.listed, named_text files valid, List.mapM_map, List.mapM_map, located]
    rfl
  rw [each, Run.resolve_each_run, resolve_each_fixed]
  intro path member
  obtain ⟨names, listed, rfl⟩ := List.mem_map.mp member
  have held := (List.mem_filter.mp listed).1
  exact resolve_shown settled (valid names held) (straight names held)

end Listing

open Listing

theorem Repository.query_answered (repository : Repository) (arguments : List String) (session : Session)
    (output errors : String) (later : List Reply) (answer : session.replies = .ended 0 output errors :: later) :
    ∃ after, after.replies = later ∧ after.store = session.store ∧
      (repository.query arguments).run.run session = (.ok output, after) := by
  obtain ⟨after, asked, step⟩ := Run.ask_run arguments repository.topLevel session
  rw [answer] at step
  refine ⟨after, by rw [asked.replies, answer]; rfl, asked.store, ?_⟩
  unfold query
  rw [Run.run_bind_ok step]
  rfl

variable {top : Names} {files : List Names}

-- If every file comes from a line, no name is quoted: the shortest quoted one would have to come from a shorter one.
theorem all_plain (valid : ∀ names ∈ files, IsFileName names)
    (found : ∀ names ∈ files, ∃ other ∈ files, isVisible other = true ∧ shown other = names) :
    ∀ names ∈ files, (joined names).all isPlain = true := by
  intro names
  induction size : (joined names).length using Nat.strong_induction_on generalizing names with
  | _ count ih =>
    intro member
    obtain ⟨other, listed, _, rfl⟩ := found names member
    by_cases plain : (joined other).all isPlain = true
    · rwa [shown_plain (valid other listed) plain]
    · rw [joined_shown] at size
      exact absurd (ih _ (size ▸ written_longer _ plain) other rfl listed) plain

theorem all_verbatim_iff (valid : ∀ names ∈ files, IsFileName names) :
    (∀ names ∈ files, ∃ other ∈ files, isVisible other = true ∧ shown other = names) ↔
      ∀ names ∈ files, Verbatim names := by
  constructor
  · intro found names member
    have plain := all_plain valid found
    obtain ⟨other, listed, visible, rfl⟩ := found names member
    rw [shown_plain (valid other listed) (plain other listed)]
    exact ⟨List.all_eq_true.mp (plain other listed), (visible_plain other (plain other listed)).mp visible⟩
  · intro verbatim names member
    have plain := List.all_eq_true.mpr (verbatim names member).1
    exact ⟨names, member, (visible_plain names plain).mpr (verbatim names member).2,
      shown_plain (valid names member) plain⟩

theorem Repository.changed_files_run (repository : Repository) (revision : String) (session : Session)
    (located : repository.topLevel = fileAt top) (settled : Settled top) (differing untracked : List Names)
    (valid : ∀ names ∈ differing ++ untracked, IsFileName names)
    (straight : ∀ names ∈ differing ++ untracked, Straight session.store.tree top names)
    (errors others : String) (later : List Reply)
    (answers : session.replies =
      .ended 0 (Listing.text differing) errors :: .ended 0 (Listing.text untracked) others :: later) :
    ∃ files after, (repository.changedFiles revision).run.run session = (.ok files, after) ∧
      files.Pairwise (fun a b => a.parts < b.parts) ∧
      ∀ file, file ∈ files ↔
        ∃ names ∈ differing ++ untracked, isVisible names = true ∧ fileAt (top ++ shown names) = file := by
  obtain ⟨between, left, kept, first⟩ := repository.query_answered _ session _ _ _ answers
  obtain ⟨after, _, same, second⟩ := repository.query_answered _ between _ _ _ left
  rw [← kept, ← same] at straight
  have changed := listed_text repository located settled differing
    (fun names held => valid names (List.mem_append_left _ held))
    fun names held => straight names (List.mem_append_left _ held)
  have added := listed_text repository located settled untracked
    (fun names held => valid names (List.mem_append_right _ held))
    fun names held => straight names (List.mem_append_right _ held)
  refine ⟨Path.inOrder (((differing ++ untracked).filter isVisible).map fun names => fileAt (top ++ shown names)),
    after, ?_, Path.in_order_increasing _ fun file member => ?_, fun file => ?_⟩
  · unfold changedFiles
    rw [Run.run_bind_ok first, Run.run_bind_ok second, Run.run_bind_ok changed, Run.run_bind_ok added,
      List.filter_append, List.map_append]
    rfl
  · obtain ⟨names, _, rfl⟩ := List.mem_map.mp member
    rfl
  · simp only [Path.mem_in_order_iff, List.mem_map, List.mem_filter, and_assoc]

theorem Repository.no_change_lost_iff (repository : Repository) (revision : String) (session : Session) (top : Names)
    (located : repository.topLevel = fileAt top) (settled : Settled top) (differing untracked : List Names)
    (valid : ∀ names ∈ differing ++ untracked, IsFileName names)
    (straight : ∀ names ∈ differing ++ untracked, Straight session.store.tree top names)
    (errors others : String) (later : List Reply)
    (answers : session.replies =
      .ended 0 (Listing.text differing) errors :: .ended 0 (Listing.text untracked) others :: later) :
    ∃ files after, (repository.changedFiles revision).run.run session = (.ok files, after) ∧
      files.Pairwise (fun a b => a.parts < b.parts) ∧ files.Nodup ∧
      ((∀ file, file ∈ files ↔ ∃ names ∈ differing ++ untracked, file = fileAt (top ++ names)) ↔
        ∀ names ∈ differing ++ untracked, Verbatim names) ∧
      ((∀ names ∈ differing ++ untracked, fileAt (top ++ names) ∈ files) ↔
        ∀ names ∈ differing ++ untracked, Verbatim names) := by
  obtain ⟨files, after, done, increasing, listed⟩ :=
    repository.changed_files_run revision session located settled differing untracked valid straight errors others
      later answers
  have kept : (∀ names ∈ differing ++ untracked, fileAt (top ++ names) ∈ files) ↔
      ∀ names ∈ differing ++ untracked, Verbatim names := by
    rw [← all_verbatim_iff valid]
    refine forall₂_congr fun names _ => ?_
    rw [listed]
    simp only [fileAt, Path.mk.injEq, true_and, List.append_cancel_left_eq]
  refine ⟨files, after, done, increasing, Path.increasing_nodup files increasing,
    ⟨fun exact => ?_, fun verbatim file => ⟨fun member => ?_, ?_⟩⟩, kept⟩
  · exact kept.mp fun names member => (exact _).mpr ⟨names, member, rfl⟩
  · obtain ⟨names, held, _, rfl⟩ := (listed file).mp member
    exact ⟨names, held, by rw [shown_plain (valid names held) (List.all_eq_true.mpr (verbatim names held).1)]⟩
  · rintro ⟨names, held, rfl⟩
    exact kept.mpr verbatim names held

def accentedSession : Session :=
  { directory := ⟨.root, ["w"]⟩
    store := { tree := { files := [(["w", "é.js"], 0), (["w", "src", "a b.js"], 1)] } }
    replies := [.ended 0 "\"\\303\\251.js\"\n" "", .ended 0 "src/a b.js\n" ""] }

theorem accented_change_lost :
    (∀ names ∈ [["é.js"], ["src", "a b.js"]], IsFileName names) ∧
      ∃ files after, (Repository.changedFiles ⟨fileAt ["w"], fileAt ["w"]⟩ "HEAD").run.run accentedSession =
          (.ok files, after) ∧
        ¬ ∀ names ∈ [["é.js"], ["src", "a b.js"]], fileAt (["w"] ++ names) ∈ files := by
  have valid : ∀ names ∈ [["é.js"]] ++ [["src", "a b.js"]], IsFileName names := by
    intro names member
    have facts : ∀ names ∈ [["é.js"], ["src", "a b.js"]], names ≠ [] ∧
        (∀ name ∈ names, name ≠ "" ∧ name ≠ "." ∧ name ≠ "..") ∧ ∀ name ∈ names, '/' ∉ name.toList := by decide +kernel
    obtain ⟨nonempty, proper, clear⟩ := facts names member
    exact ⟨nonempty, proper, clear⟩
  have answers : accentedSession.replies =
      [.ended 0 (Listing.text [["é.js"]]) "", .ended 0 (Listing.text [["src", "a b.js"]]) ""] := by decide +kernel
  have settled : ∀ name ∈ ["w"], name ≠ ".." ∧ '\x00' ∉ name.toList := by decide +kernel
  obtain ⟨files, after, done, _, _, _, lost⟩ := Repository.no_change_lost_iff ⟨fileAt ["w"], fileAt ["w"]⟩ "HEAD"
    accentedSession ["w"] rfl settled [["é.js"]] [["src", "a b.js"]] valid (fun _ _ _ _ => rfl) "" "" [] answers
  refine ⟨valid, files, after, done, fun kept => ?_⟩
  have plain := (lost.mp kept ["é.js"] (by decide)).1 'é' (by decide +kernel)
  exact absurd plain (by decide +kernel)

end Rethrow
