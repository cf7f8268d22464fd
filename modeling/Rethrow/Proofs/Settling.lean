import Rethrow.Proofs.Alignment
import Rethrow.Proofs.Convergence

/-!
When one repair is enough. Whatever reads the texts, a repair leaves nothing to fix exactly if every name that it
pasted is read as an identifier again; a name such as `undefined` can be bound by a clause and is none.
-/
set_option autoImplicit false

namespace Rethrow

/-- What is asked of the reader of a text and of the fixed text. A text of the language is read without errors, into
nodes of whole characters. The fixed text is again one, and is read as the old one with the pasted options in it. -/
structure Reader.Rereads (read : Reader) (dialect : Dialect) (names : List String) (reads : String → Bool)
    (source : String) : Prop where
  sound : (read dialect source).ErrorFree
  words : (read dialect source).root.PlainWords
  whole : ∀ node ∈ (read dialect source).root.preorder,
    node.start ∈ Utf8.boundaries source.toList ∧ node.stop ∈ Utf8.boundaries source.toList
  again : ∀ fixed, Edit.applyAll source ((read dialect source).batch names) = .ok fixed →
    (read dialect fixed).ErrorFree ∧
      (read dialect source).patched (read dialect fixed) reads ((read dialect source).amended names)
        (read dialect source).root (read dialect fixed).root = true

namespace Script

variable {script : Script} {names : List String}

theorem fixes_findings (orderly : script.root.Orderly) : fixes (script.findings names) = script.batch names := by
  rw [fixes, batch]
  refine Edit.select_disjoint_perm _ _ ?_ ((script.findings_perm names).filterMap _)
  rw [script.reports_fixes names]
  exact Lapse.fixes_nested orderly

theorem batch_clean (source : String) (orderly : script.root.Orderly)
    (whole : ∀ node ∈ script.root.preorder,
      node.start ∈ Utf8.boundaries source.toList ∧ node.stop ∈ Utf8.boundaries source.toList)
    (edit : Edit) (member : edit ∈ script.batch names) : edit.Clean source.toList :=
  script.fix_clean names source (fun node held => ⟨orderly.forward node held, whole node held⟩) edit
    (Edit.select_disjoint_subset _ edit member)

theorem batch_applies (script : Script) (names : List String) (source : String) (orderly : script.root.Orderly)
    (whole : ∀ node ∈ script.root.preorder,
      node.start ∈ Utf8.boundaries source.toList ∧ node.stop ∈ Utf8.boundaries source.toList) :
    ∃ fixed, Edit.applyAll source (script.batch names) = .ok fixed :=
  Edit.apply_all_selected source _ (batch_clean source orderly whole)

theorem findings_unfixable_iff (script : Script) (names : List String) :
    (∀ finding ∈ script.findings names, finding.fix = none) ↔ script.batch names = [] := by
  rw [script.batch_eq_nil_iff names]
  simp only [(script.findings_perm names).mem_iff, script.reports_findings names, List.forall_mem_map]
  rfl

end Script

namespace Reader

variable {read : Reader} {settings : Settings} {source suffix : String} {dialect : Dialect}

theorem edits_eq_batch (orderly : (read dialect source).root.Orderly) :
    read.edits settings dialect source = (read dialect source).batch settings.constructors :=
  Script.fixes_findings orderly

theorem repair_settled (supported : Dialect.ofSuffix? suffix = some dialect)
    (orderly : (read dialect source).root.Orderly)
    (settled : (read dialect source).batch settings.constructors = []) :
    read.repair settings source suffix = .ok ⟨source, 0, (read dialect source).findings settings.constructors⟩ :=
  repair_of_no_edits supported ((edits_eq_batch orderly).trans settled)

theorem repair_unsettled (supported : Dialect.ofSuffix? suffix = some dialect)
    (orderly : (read dialect source).root.Orderly)
    (unsettled : (read dialect source).batch settings.constructors ≠ []) :
    read.repair settings source suffix =
      match Edit.applyAll source ((read dialect source).batch settings.constructors) with
      | .ok fixed => .ok ⟨fixed, ((read dialect source).batch settings.constructors).length,
          (read dialect fixed).findings settings.constructors⟩
      | .error error => .error (.edit error) := by
  rw [← edits_eq_batch orderly] at unsettled ⊢
  exact repair_of_edits supported unsettled

theorem applied_eq_zero_iff (supported : Dialect.ofSuffix? suffix = some dialect)
    (orderly : (read dialect source).root.Orderly) :
    (∃ last, read.repair settings source suffix = .ok last ∧ last.applied = 0) ↔
      (read dialect source).batch settings.constructors = [] := by
  constructor
  · rintro ⟨last, done, none⟩
    by_contra unsettled
    rw [repair_unsettled supported orderly unsettled] at done
    cases result : Edit.applyAll source ((read dialect source).batch settings.constructors) with
    | error error => simp [result] at done
    | ok fixed =>
        simp only [result, Except.ok.injEq] at done
        subst done
        exact unsettled (List.length_eq_zero_iff.mp none)
  · intro settled
    exact ⟨_, repair_settled supported orderly settled, rfl⟩

theorem repair_settles_iff (read : Reader) (settings : Settings) (source suffix : String) (dialect : Dialect)
    (reads : String → Bool) (supported : Dialect.ofSuffix? suffix = some dialect)
    (dotted : ∀ name ∈ settings.constructors, '(' ∉ name.toList)
    (rereads : read.Rereads dialect settings.constructors reads source) :
    ∃ result, read.repair settings source suffix = .ok result ∧
      ((∀ finding ∈ result.remaining, finding.fix = none) ↔
        ∀ lapse ∈ (read dialect source).amended settings.constructors, reads lapse.name = true) ∧
      ((∃ last, read.repair settings result.source suffix = .ok last ∧ last.applied = 0) ↔
        ∀ lapse ∈ (read dialect source).amended settings.constructors, reads lapse.name = true) := by
  have orderly := rereads.sound.orderly
  by_cases settled : (read dialect source).batch settings.constructors = []
  · have nothing : (read dialect source).amended settings.constructors = [] := by
      simp [Script.amended, settled]
    refine ⟨_, repair_settled supported orderly settled, ?_, ?_⟩
    · simp [Script.findings_unfixable_iff, settled, nothing]
    · simp [applied_eq_zero_iff supported orderly, settled, nothing]
  · obtain ⟨fixed, applied⟩ := (read dialect source).batch_applies settings.constructors source orderly rereads.whole
    obtain ⟨again, tree⟩ := rereads.again fixed applied
    have repaired : Repaired (read dialect source) (read dialect fixed) settings.constructors reads :=
      ⟨rereads.sound, rereads.words, dotted, again, tree⟩
    have done := repair_unsettled supported orderly settled
    rw [applied] at done
    refine ⟨_, done, ?_, ?_⟩
    · rw [Script.findings_unfixable_iff, repaired.batch_eq_nil_iff]
    · rw [applied_eq_zero_iff supported again.orderly, repaired.batch_eq_nil_iff]

end Reader

def undefinedSource : String := "try\x7b\x7dcatch(undefined)\x7bthrow Error(1)\x7d"

def undefinedRepaired : String := "try\x7b\x7dcatch(undefined)\x7bthrow Error(1, \x7b cause: undefined \x7d)\x7d"

def boundUndefined : Script := .parse .script undefinedSource

theorem bound_undefined_batch : boundUndefined.batch ["Error"] = [⟨35, 35, ", \x7b cause: undefined \x7d"⟩] := by
  have fixes : ((boundUndefined.reports ["Error"]).flatMap (·.2)).filterMap (·.fix) =
      [⟨35, 35, ", \x7b cause: undefined \x7d"⟩] := by decide +kernel
  rw [Script.batch, fixes, Edit.selectDisjoint, List.mergeSort_singleton]
  rfl

theorem bound_undefined_applied :
    Edit.applyAll undefinedSource (boundUndefined.batch ["Error"]) = .ok undefinedRepaired := by
  rw [bound_undefined_batch, Edit.applyAll, List.mergeSort_singleton]
  decide +kernel

theorem bound_undefined_rereads :
    Reader.Rereads Script.parse .script ["Error"] (fun name => name ≠ "undefined") undefinedSource where
  sound := by decide +kernel
  words := by decide +kernel
  whole := by decide +kernel
  again := by
    intro fixed applied
    change Edit.applyAll undefinedSource (boundUndefined.batch ["Error"]) = .ok fixed at applied
    rw [bound_undefined_applied] at applied
    cases applied
    rw [Script.amended_eq _ ["Error"] (by decide +kernel)]
    exact ⟨by decide +kernel, by decide +kernel⟩

theorem undefined_not_settled :
    Dialect.ofSuffix? ".js" = some .script ∧
      ∃ result, repair {} undefinedSource ".js" = .ok result ∧
        (¬ ∀ finding ∈ result.remaining, finding.fix = none) ∧
        ¬ ∃ last, repair {} result.source ".js" = .ok last ∧ last.applied = 0 := by
  have supported : Dialect.ofSuffix? ".js" = some .script := by decide +kernel
  have unread : ¬ ∀ lapse ∈ boundUndefined.amended ["Error"], decide (lapse.name ≠ "undefined") = true := by
    rw [boundUndefined.amended_eq ["Error"] (by decide +kernel)]
    decide +kernel
  obtain ⟨result, done, remaining, last⟩ := Reader.repair_settles_iff Script.parse {} undefinedSource ".js" .script
    (fun name => name ≠ "undefined") supported (by decide +kernel) bound_undefined_rereads
  exact ⟨supported, result, done, fun clear => unread (remaining.mp clear), fun none => unread (last.mp none)⟩

end Rethrow
