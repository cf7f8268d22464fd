import Rethrow.Proofs.Naming
import Rethrow.Proofs.Whereabouts

/-!
Which tables are configurations. A table is accepted exactly if nothing is wrong with it; of several things that are
wrong the first kind is reported. Settings that were read from a table, written down as one, are read again as they
are.
-/
set_option autoImplicit false

namespace Rethrow

namespace Value

def Lists (value : Value) (texts : List String) : Prop := value = .list (texts.map .text) ∧ "" ∉ texts

theorem non_empty_text_iff (value : Value) (content : String) :
    value.nonEmptyText? = some content ↔ value = .text content ∧ content ≠ "" := by
  cases value with
  | text other =>
      simp only [nonEmptyText?, text?, Option.filter_eq_some_iff, Option.some.injEq, text.injEq, decide_eq_true_eq]
  | list | table | atom => simp [nonEmptyText?, text?]

theorem map_m_non_empty_text_iff (items : List Value) (texts : List String) :
    items.mapM nonEmptyText? = some texts ↔ items = texts.map .text ∧ "" ∉ texts := by
  induction items generalizing texts with
  | nil => cases texts <;> simp
  | cons item rest ih =>
      simp only [List.mapM_cons, Option.bind_eq_bind, Option.bind_eq_some_iff, non_empty_text_iff, ih]
      constructor
      · rintro ⟨content, ⟨rfl, filled⟩, others, ⟨rfl, none⟩, same⟩
        cases same
        exact ⟨rfl, by simp [Ne.symm filled, none]⟩
      · rintro ⟨shape, filled⟩
        cases texts with
        | nil => cases shape
        | cons content others =>
            obtain ⟨rfl, rfl⟩ := List.cons.inj shape
            rw [List.mem_cons, not_or] at filled
            exact ⟨content, ⟨rfl, Ne.symm filled.1⟩, others, ⟨rfl, filled.2⟩, rfl⟩

theorem texts_iff (value : Value) (texts : List String) : value.texts? = some texts ↔ value.Lists texts := by
  cases value with
  | list items => simp [texts?, list?, Lists, map_m_non_empty_text_iff]
  | text | table | atom => simp [texts?, list?, Lists]

theorem texts_none_iff (value : Value) : value.texts? = none ↔ ∀ texts, ¬ value.Lists texts := by
  simp only [Option.eq_none_iff_forall_ne_some, ne_eq, texts_iff]

theorem Lists.unique {value : Value} {texts others : List String} (lists : value.Lists texts)
    (same : value.Lists others) : texts = others :=
  Option.some.inj (((texts_iff value texts).mpr lists).symm.trans ((texts_iff value others).mpr same))

end Value

namespace Settings

/-- Nothing is wrong with the entries of a table. -/
structure Valid (entries : List (String × Value)) : Prop where
  known : ∀ entry ∈ entries, entry.1 ∈ optionNames
  texts : ∀ entry ∈ entries, ∃ texts, entry.2.Lists texts
  supported : ∀ value extensions, entries.lookup "extensions" = some value → value.Lists extensions →
    ∀ extension ∈ extensions, lower extension ∈ Dialect.supported

/-- `Refused value fault`: this is the first thing that is wrong with the value as a configuration. -/
inductive Refused : Value → Fault → Prop where
  | notTable (value : Value) (other : ∀ entries, value ≠ .table entries) : Refused value .notTable
  | unknown (entries : List (String × Value)) (names : List String) (filled : names ≠ [])
      (sorted : names.Pairwise (· < ·))
      (exact : ∀ name, name ∈ names ↔ name ∈ entries.map (·.1) ∧ name ∉ optionNames) :
      Refused (.table entries) (.unknownOptions names)
  | notTexts (front : List (String × Value)) (name : String) (wrong : Value) (back : List (String × Value))
      (known : ∀ entry ∈ front ++ (name, wrong) :: back, entry.1 ∈ optionNames)
      (sound : ∀ entry ∈ front, ∃ texts, entry.2.Lists texts) (other : ∀ texts, ¬ wrong.Lists texts) :
      Refused (.table (front ++ (name, wrong) :: back)) (.notTexts name)
  | unsupported (entries : List (String × Value)) (value : Value) (extensions : List String)
      (known : ∀ entry ∈ entries, entry.1 ∈ optionNames) (texts : ∀ entry ∈ entries, ∃ texts, entry.2.Lists texts)
      (given : entries.lookup "extensions" = some value) (lists : value.Lists extensions)
      (bad : ∃ extension ∈ extensions, lower extension ∉ Dialect.supported) :
      Refused (.table entries) (.unsupported (extensions.filter fun extension =>
        lower extension ∉ Dialect.supported))

/-- The option is given as these texts, or it is left out and they are the default. -/
def Holds (entries : List (String × Value)) (name : String) (default texts : List String) : Prop :=
  entries.lookup name = some (.list (texts.map .text)) ∨ entries.lookup name = none ∧ texts = default

def entries (settings : Settings) : List (String × Value) :=
  [("error-constructors", .list (settings.constructors.map .text)),
    ("extensions", .list (settings.extensions.map .text)), ("exclude-dirs", .list (settings.excluded.map .text))]

theorem mem_unknown_names (entries : List (String × Value)) (name : String) :
    name ∈ unknownNames entries ↔ name ∈ entries.map (·.1) ∧ name ∉ optionNames := by
  rw [unknownNames, List.mem_mergeSort, List.mem_eraseDups, List.mem_filter]
  simp

theorem unknown_names_sorted (entries : List (String × Value)) : (unknownNames entries).Pairwise (· < ·) := by
  have ordered : (unknownNames entries).Pairwise fun left right => (!decide (right < left)) = true := by
    refine List.pairwise_mergeSort ?_ ?_ _
    · simp only [Bool.not_eq_true', decide_eq_false_iff_not, String.not_lt]
      exact fun left middle right => String.le_trans
    · simp only [Bool.or_eq_true, Bool.not_eq_true', decide_eq_false_iff_not, String.not_lt]
      exact String.le_total
  have distinct : (unknownNames entries).Nodup := (List.mergeSort_perm _ _).nodup_iff.mpr (nodup_erase_dups _)
  refine (ordered.and distinct).imp ?_
  rintro left right ⟨before, differ⟩
  rw [Bool.not_eq_true', decide_eq_false_iff_not, String.not_lt] at before
  exact Decidable.byContradiction fun later => differ (String.le_antisymm before (String.not_lt.mp later))

theorem sorted_unique (left right : List String) (leftSorted : left.Pairwise (· < ·))
    (rightSorted : right.Pairwise (· < ·)) (same : ∀ name, name ∈ left ↔ name ∈ right) : left = right := by
  have distinct : ∀ names : List String, names.Pairwise (· < ·) → names.Nodup := fun names sorted =>
    sorted.imp fun {first second} (before : first < second) (equal : first = second) =>
      String.lt_irrefl second (equal ▸ before)
  have permuted := (List.perm_ext_iff_of_nodup (distinct left leftSorted) (distinct right rightSorted)).mpr same
  exact permuted.eq_of_pairwise (fun first second _ _ before after => absurd after (String.lt_asymm before)) leftSorted
    rightSorted

theorem unknown_names_nil_iff (entries : List (String × Value)) :
    unknownNames entries = [] ↔ ∀ entry ∈ entries, entry.1 ∈ optionNames := by
  simp only [List.eq_nil_iff_forall_not_mem, mem_unknown_names, List.mem_map, not_and, not_not]
  constructor
  · intro none entry member
    exact none entry.1 ⟨entry, member, rfl⟩
  · rintro known _ ⟨entry, member, rfl⟩
    exact known entry member

theorem read_options_cons (name : String) (value : Value) (rest : List (String × Value)) (texts : List String)
    (lists : value.Lists texts) :
    readOptions ((name, value) :: rest) = (readOptions rest).map ((name, texts) :: ·) := by
  simp only [readOptions, (Value.texts_iff value texts).mpr lists]
  cases readOptions rest <;> rfl

theorem read_options_sound (entries : List (String × Value)) (texts : ∀ entry ∈ entries, ∃ texts, entry.2.Lists texts) :
    ∃ options, readOptions entries = .ok options ∧
      ∀ name, options.lookup name = (entries.lookup name).bind Value.texts? := by
  induction entries with
  | nil => exact ⟨[], rfl, fun _ => rfl⟩
  | cons entry rest ih =>
      obtain ⟨key, value⟩ := entry
      obtain ⟨listed, lists⟩ := texts (key, value) List.mem_cons_self
      obtain ⟨options, done, same⟩ := ih fun other held => texts other (List.mem_cons_of_mem _ held)
      refine ⟨(key, listed) :: options, ?_, fun name => ?_⟩
      · rw [read_options_cons key value rest listed lists, done]
        rfl
      · rw [List.lookup_cons, List.lookup_cons]
        split
        · exact ((Value.texts_iff value listed).mpr lists).symm
        · exact same name

theorem read_options_wrong (front : List (String × Value)) (name : String) (wrong : Value)
    (back : List (String × Value)) (sound : ∀ entry ∈ front, ∃ texts, entry.2.Lists texts)
    (other : ∀ texts, ¬ wrong.Lists texts) :
    readOptions (front ++ (name, wrong) :: back) = .error (.notTexts name) := by
  induction front with
  | nil =>
      simp only [List.nil_append, readOptions, (Value.texts_none_iff wrong).mpr other]
      rfl
  | cons entry rest ih =>
      obtain ⟨texts, lists⟩ := sound entry List.mem_cons_self
      rw [List.cons_append, read_options_cons entry.1 entry.2 _ texts lists,
        ih fun other held => sound other (List.mem_cons_of_mem _ held)]
      rfl

theorem first_wrong (entries : List (String × Value)) :
    (∀ entry ∈ entries, ∃ texts, entry.2.Lists texts) ∨
      ∃ front name wrong back, entries = front ++ (name, wrong) :: back ∧
        (∀ entry ∈ front, ∃ texts, entry.2.Lists texts) ∧ ∀ texts, ¬ wrong.Lists texts := by
  induction entries with
  | nil => exact .inl (by simp)
  | cons entry rest ih =>
      by_cases right : ∃ texts, entry.2.Lists texts
      · rcases ih with sound | ⟨front, name, wrong, back, rfl, sound, other⟩
        · exact .inl (List.forall_mem_cons.mpr ⟨right, sound⟩)
        · exact .inr ⟨entry :: front, name, wrong, back, rfl, List.forall_mem_cons.mpr ⟨right, sound⟩, other⟩
      · exact .inr ⟨[], entry.1, entry.2, rest, rfl, by simp, fun texts lists => right ⟨texts, lists⟩⟩

-- The checks in their order, said without the code that makes them. Since one of the two always holds, it is enough to
-- know what the code makes of each.
theorem valid_or_refused (value : Value) :
    (∃ entries, value = .table entries ∧ Valid entries) ∨ ∃ fault, Refused value fault := by
  by_cases table : ∃ entries, value = .table entries
  · obtain ⟨entries, rfl⟩ := table
    by_cases known : ∀ entry ∈ entries, entry.1 ∈ optionNames
    · rcases first_wrong entries with texts | ⟨front, name, wrong, back, rfl, sound, other⟩
      · by_cases bad : ∃ value extensions, entries.lookup "extensions" = some value ∧ value.Lists extensions ∧
            ∃ extension ∈ extensions, lower extension ∉ Dialect.supported
        · obtain ⟨value, extensions, given, lists, unsupported⟩ := bad
          exact .inr ⟨_, .unsupported entries value extensions known texts given lists unsupported⟩
        · refine .inl ⟨entries, rfl, known, texts, fun value extensions given lists extension member => ?_⟩
          by_contra unsupported
          exact bad ⟨value, extensions, given, lists, extension, member, unsupported⟩
      · exact .inr ⟨_, .notTexts front name wrong back known sound other⟩
    · have filled : unknownNames entries ≠ [] := fun none => known ((unknown_names_nil_iff entries).mp none)
      exact .inr ⟨_, .unknown entries _ filled (unknown_names_sorted entries) (mem_unknown_names entries)⟩
  · exact .inr ⟨_, .notTable value fun entries same => table ⟨entries, same⟩⟩

def listed? (entries : List (String × Value)) (name : String) : Option (List String) :=
  (entries.lookup name).bind Value.texts?

def ofEntries (entries : List (String × Value)) : Settings :=
  ({ extensions := (listed? entries "extensions").getD ({} : Settings).extensions
     excluded := (listed? entries "exclude-dirs").getD ({} : Settings).excluded } :
    Settings).withConstructors ((listed? entries "error-constructors").getD [])

theorem of_table_unknown (entries : List (String × Value)) (unknown : unknownNames entries ≠ []) :
    ofTable (.table entries) = .error (.unknownOptions (unknownNames entries)) := by
  have filled : (unknownNames entries).isEmpty = false := by simpa using unknown
  simp [ofTable, Value.table?, filled, bind, Except.bind, throw, throwThe, MonadExceptOf.throw]

theorem of_table_wrong (entries : List (String × Value)) (fault : Fault)
    (known : ∀ entry ∈ entries, entry.1 ∈ optionNames) (wrong : readOptions entries = .error fault) :
    ofTable (.table entries) = .error fault := by
  have none := (unknown_names_nil_iff entries).mpr known
  simp [ofTable, Value.table?, none, wrong, bind, Except.bind]

theorem of_table_sound (entries : List (String × Value)) (known : ∀ entry ∈ entries, entry.1 ∈ optionNames)
    (texts : ∀ entry ∈ entries, ∃ texts, entry.2.Lists texts) :
    ofTable (.table entries) =
      if unsupportedIn ((listed? entries "extensions").getD []) = [] then .ok (ofEntries entries)
      else .error (.unsupported (unsupportedIn ((listed? entries "extensions").getD []))) := by
  have none := (unknown_names_nil_iff entries).mpr known
  obtain ⟨options, given, same⟩ := read_options_sound entries texts
  have listed : ∀ name, options.lookup name = listed? entries name := same
  by_cases clear : unsupportedIn ((listed? entries "extensions").getD []) = []
  · simp [ofTable, Value.table?, none, given, listed, clear, bind, Except.bind, pure, Except.pure, ofEntries]
  · simp [ofTable, Value.table?, none, given, listed, clear, bind, Except.bind, throw, throwThe, MonadExceptOf.throw]

theorem listed_of_lists (entries : List (String × Value)) (name : String) (value : Value) (texts : List String)
    (given : entries.lookup name = some value) (lists : value.Lists texts) : listed? entries name = some texts := by
  rw [listed?, given, Option.bind_some]
  exact (Value.texts_iff value texts).mpr lists

theorem of_table_of_refused (value : Value) (fault : Fault) (refused : Refused value fault) :
    ofTable value = .error fault := by
  cases refused with
  | notTable _ other =>
      cases value with
      | table entries => exact absurd rfl (other entries)
      | text | list | atom => rfl
  | unknown entries names filled sorted exact =>
      have same : unknownNames entries = names :=
        sorted_unique _ _ (unknown_names_sorted entries) sorted fun name =>
          (mem_unknown_names entries name).trans (exact name).symm
      rw [← same] at filled ⊢
      exact of_table_unknown entries filled
  | notTexts front name wrong back known sound other =>
      exact of_table_wrong _ _ known (read_options_wrong front name wrong back sound other)
  | unsupported entries value extensions known texts given lists bad =>
      rw [of_table_sound entries known texts, listed_of_lists entries _ value extensions given lists, Option.getD_some,
        if_neg ?_]
      · rfl
      · obtain ⟨extension, member, unsupported⟩ := bad
        exact List.ne_nil_of_mem (List.mem_filter.mpr ⟨member, by simpa using unsupported⟩)

namespace Valid

variable {entries : List (String × Value)}

theorem option_cases (valid : Valid entries) (name : String) :
    entries.lookup name = none ∧ listed? entries name = none ∨
      ∃ texts, entries.lookup name = some (.list (texts.map .text)) ∧ "" ∉ texts ∧
        listed? entries name = some texts := by
  cases given : entries.lookup name with
  | none => exact .inl ⟨rfl, by rw [listed?, given]; rfl⟩
  | some value =>
      obtain ⟨front, back, shape, _⟩ := List.lookup_eq_some_iff.mp given
      obtain ⟨texts, lists⟩ := valid.texts (name, value) (by simp [shape])
      exact .inr ⟨texts, congrArg some lists.1, lists.2, listed_of_lists entries name value texts given lists⟩

theorem holds (valid : Valid entries) (name : String) (default : List String) :
    Holds entries name default ((listed? entries name).getD default) := by
  rcases valid.option_cases name with ⟨absent, none⟩ | ⟨texts, given, _, listed⟩
  · exact .inr ⟨absent, by rw [none]; rfl⟩
  · exact .inl (by rw [listed]; exact given)

theorem filled (valid : Valid entries) (name : String) (default : List String) (proper : "" ∉ default) :
    "" ∉ (listed? entries name).getD default := by
  rcases valid.option_cases name with ⟨_, none⟩ | ⟨texts, _, filled, listed⟩
  · rwa [none]
  · rwa [listed]

theorem accepted (valid : Valid entries) : ofTable (.table entries) = .ok (ofEntries entries) := by
  rw [of_table_sound entries valid.known valid.texts, if_pos]
  rw [unsupportedIn, List.filter_eq_nil_iff]
  intro extension member
  rcases valid.option_cases "extensions" with ⟨_, none⟩ | ⟨texts, given, filled, listed⟩
  · simp [none] at member
  · rw [listed, Option.getD_some] at member
    simpa using valid.supported _ texts given ⟨rfl, filled⟩ extension member

end Valid

theorem of_table_ok_iff (value : Value) (settings : Settings) :
    ofTable value = .ok settings ↔
      ∃ entries, value = .table entries ∧ Valid entries ∧ settings = ofEntries entries := by
  constructor
  · intro accepted
    rcases valid_or_refused value with ⟨entries, rfl, valid⟩ | ⟨fault, refused⟩
    · rw [valid.accepted] at accepted
      cases accepted
      exact ⟨entries, rfl, valid, rfl⟩
    · rw [of_table_of_refused value fault refused] at accepted
      cases accepted
  · rintro ⟨entries, rfl, valid, rfl⟩
    exact valid.accepted

theorem of_table_error_iff (value : Value) (fault : Fault) : ofTable value = .error fault ↔ Refused value fault := by
  constructor
  · intro failed
    rcases valid_or_refused value with ⟨entries, rfl, valid⟩ | ⟨other, refused⟩
    · rw [valid.accepted] at failed
      cases failed
    · rw [of_table_of_refused value other refused] at failed
      cases failed
      exact refused
  · exact of_table_of_refused value fault

theorem lookup_of_mem (entries : List (String × Value)) (distinct : (entries.map (·.1)).Nodup) (name : String)
    (value : Value) (member : (name, value) ∈ entries) : entries.lookup name = some value := by
  obtain ⟨front, back, rfl⟩ := List.append_of_mem member
  refine List.lookup_eq_some_iff.mpr ⟨front, back, rfl, fun entry earlier => ?_⟩
  rw [List.map_append, List.map_cons] at distinct
  have differs := (List.nodup_append.mp distinct).2.2 entry.1 (List.mem_map.mpr ⟨entry, earlier, rfl⟩) name
    List.mem_cons_self
  simpa using Ne.symm differs

/-- Every suffix that is looked at is one that is understood, in letters of any case. -/
def Supported (settings : Settings) : Prop := ∀ extension ∈ settings.extensions, lower extension ∈ Dialect.supported

theorem default_supported : Supported {} := by
  unfold Supported
  decide +kernel

/-- What settings that were read from a table have in common. -/
structure Loaded (settings : Settings) : Prop where
  supported : settings.Supported
  distinct : settings.constructors.Nodup
  first : ∃ names, settings.constructors = "Error" :: names
  named : "" ∉ settings.constructors
  suffixed : "" ∉ settings.extensions
  directed : "" ∉ settings.excluded

namespace Loaded

variable {settings : Settings}

theorem valid (loaded : settings.Loaded) (others : List (String × Value)) (same : others.Perm settings.entries)
    (given : others.lookup "extensions" = some (.list (settings.extensions.map .text))) : Valid others := by
  have sound : ∀ entry ∈ settings.entries, entry.1 ∈ optionNames ∧ ∃ texts, entry.2.Lists texts := by
    simp only [entries, List.forall_mem_cons, List.not_mem_nil, false_imp_iff, implies_true, and_true]
    exact ⟨⟨by decide, _, rfl, loaded.named⟩, ⟨by decide, _, rfl, loaded.suffixed⟩, by decide, _, rfl, loaded.directed⟩
  refine ⟨fun entry member => (sound entry (same.mem_iff.mp member)).1,
    fun entry member => (sound entry (same.mem_iff.mp member)).2, fun value extensions found lists => ?_⟩
  cases given.symm.trans found
  rw [lists.unique ⟨rfl, loaded.suffixed⟩]
  exact loaded.supported

theorem constructors_again (loaded : settings.Loaded) :
    settings.constructors.foldl addName ["Error"] = settings.constructors := by
  obtain ⟨names, shape⟩ := loaded.first
  have distinct := loaded.distinct
  rw [shape] at distinct ⊢
  rw [List.foldl_cons, addName, if_pos List.mem_cons_self]
  exact foldl_add_name_eq ["Error"] names distinct

theorem reload (loaded : settings.Loaded) (others : List (String × Value)) (same : others.Perm settings.entries) :
    ofTable (.table others) = .ok settings := by
  have distinct : (others.map (·.1)).Nodup := (same.map (·.1)).nodup_iff.mpr (by simp [entries])
  have given : ∀ name value, (name, value) ∈ settings.entries → others.lookup name = some value :=
    fun name value member => lookup_of_mem others distinct name value (same.mem_iff.mpr member)
  have named := given "error-constructors" (.list (settings.constructors.map .text)) (by simp [entries])
  have suffixed := given "extensions" (.list (settings.extensions.map .text)) (by simp [entries])
  have directed := given "exclude-dirs" (.list (settings.excluded.map .text)) (by simp [entries])
  rw [(loaded.valid others same suffixed).accepted, ofEntries,
    listed_of_lists others _ _ _ named ⟨rfl, loaded.named⟩,
    listed_of_lists others _ _ _ suffixed ⟨rfl, loaded.suffixed⟩,
    listed_of_lists others _ _ _ directed ⟨rfl, loaded.directed⟩]
  simp only [Option.getD_some, withConstructors, loaded.constructors_again]

end Loaded

theorem of_entries_constructors (entries : List (String × Value)) :
    FirstOccurrences ("Error" :: (listed? entries "error-constructors").getD []) (ofEntries entries).constructors :=
  (FirstOccurrences.single "Error").add_names _

theorem of_entries_first (entries : List (String × Value)) :
    ∃ names, (ofEntries entries).constructors = "Error" :: names := by
  obtain ⟨names, shape⟩ := ({} : Settings).with_constructors_extends ((listed? entries "error-constructors").getD [])
  exact ⟨names, shape.symm⟩

theorem Valid.loaded {entries : List (String × Value)} (valid : Valid entries) : (ofEntries entries).Loaded where
  supported := by
    intro extension member
    change extension ∈ (listed? entries "extensions").getD ({} : Settings).extensions at member
    rcases valid.option_cases "extensions" with ⟨_, none⟩ | ⟨texts, given, filled, listed⟩
    · rw [none] at member
      exact default_supported extension member
    · rw [listed] at member
      exact valid.supported _ texts given ⟨rfl, filled⟩ extension member
  distinct := (of_entries_constructors entries).nodup
  first := of_entries_first entries
  named := by
    rw [(of_entries_constructors entries).mem, List.mem_cons, not_or]
    exact ⟨by decide, valid.filled "error-constructors" [] (by simp)⟩
  suffixed := valid.filled "extensions" _ (by decide +kernel)
  directed := valid.filled "exclude-dirs" _ (by decide +kernel)

theorem validation_exact (value : Value) :
    ((∃ settings, ofTable value = .ok settings) ↔ ∃ entries, value = .table entries ∧ Valid entries) ∧
    (∀ fault, ofTable value = .error fault ↔ Refused value fault) ∧
    ∀ settings, ofTable value = .ok settings →
      ∃ entries names, value = .table entries ∧ Holds entries "error-constructors" [] names ∧
        settings.constructors.head? = some "Error" ∧ settings.constructors.Nodup ∧
        FirstOccurrences ("Error" :: names) settings.constructors ∧
        Holds entries "extensions" ({} : Settings).extensions settings.extensions ∧
        Holds entries "exclude-dirs" ({} : Settings).excluded settings.excluded ∧
        ∀ others : List (String × Value), others.Perm settings.entries → ofTable (.table others) = .ok settings := by
  refine ⟨?_, of_table_error_iff value, fun settings accepted => ?_⟩
  · constructor
    · rintro ⟨settings, accepted⟩
      obtain ⟨entries, table, valid, _⟩ := (of_table_ok_iff value settings).mp accepted
      exact ⟨entries, table, valid⟩
    · rintro ⟨entries, rfl, valid⟩
      exact ⟨_, valid.accepted⟩
  · obtain ⟨entries, table, valid, rfl⟩ := (of_table_ok_iff value settings).mp accepted
    obtain ⟨names, first⟩ := of_entries_first entries
    exact ⟨entries, _, table, valid.holds "error-constructors" [], by rw [first]; rfl, valid.loaded.distinct,
      of_entries_constructors entries, valid.holds "extensions" _, valid.holds "exclude-dirs" _, valid.loaded.reload⟩

def redundantTable : Value :=
  .table [("exclude-dirs", .list []),
    ("error-constructors", .list [.text "HttpError", .text "Error", .text "DbError", .text "HttpError"]),
    ("extensions", .list [.text ".TS"])]

def redundantSettings : Settings :=
  { constructors := ["Error", "HttpError", "DbError"], extensions := [".TS"], excluded := [] }

def faultyEntries : List (String × Value) :=
  [("zoo", .atom), ("extensions", .list [.text ".py"]), ("exclude-dirs", .list [.text ""]), ("api", .table [])]

theorem tables_read_and_refused :
    ofTable redundantTable = .ok redundantSettings ∧
      ofTable (.table redundantSettings.entries.reverse) = .ok redundantSettings ∧
      ofTable (.table faultyEntries) = .error (.unknownOptions ["api", "zoo"]) := by
  have accepted : ofTable redundantTable = .ok redundantSettings := by decide +kernel
  obtain ⟨_, _, _, _, _, _, _, _, _, reload⟩ := (validation_exact redundantTable).2.2 redundantSettings accepted
  refine ⟨accepted, reload _ (List.reverse_perm _), ?_⟩
  refine ((validation_exact (.table faultyEntries)).2.1 _).mpr (.unknown faultyEntries _ (by decide) (by decide) ?_)
  intro name
  simp only [faultyEntries, optionNames, List.map_cons, List.map_nil, List.mem_cons, List.not_mem_nil, or_false]
  constructor
  · rintro (rfl | rfl) <;> decide
  · rintro ⟨rfl | rfl | rfl | rfl, unknown⟩
    · exact .inr rfl
    · exact absurd unknown (by decide)
    · exact absurd unknown (by decide)
    · exact .inl rfl

end Settings
end Rethrow
