import Mathlib.Data.Option.Basic
import Rethrow.Candidate
import Rethrow.Grammar.Program

/-!
Which member of an object literal decides whether the caught value is kept: the last one that gives `cause` a value.
Members in front of it and members of other names may be added, dropped, moved or changed.
-/
set_option autoImplicit false

namespace Rethrow

namespace Script

/-- A key that is written out as `cause`: a plain name, or a text between two quotes. -/
def IsCauseKey (script : Script) (key : Node) : Prop :=
  key.kind = .propertyName ∧ script.text key = "cause" ∨
    key.kind = .string ∧ ∃ opening closing, (script.text key).toList = opening :: "cause".toList ++ [closing]

/-- `Gives script member value`: the member of an object literal gives this value to `cause`. -/
inductive Gives (script : Script) : Node → Node → Prop where
  | pair {member key value : Node} (kind : member.kind = .pair) (keyed : member.child? .key = some key)
      (valued : member.child? .value = some value) (named : script.IsCauseKey key) : Gives script member value
  | shorthand {member : Node} (kind : member.kind = .shorthand) (named : script.text member = "cause") :
      Gives script member member

def IsCause (script : Script) (member : Node) : Prop := ∃ value, script.Gives member value

theorem unquoted_iff (chars inner : List Char) (filled : inner ≠ []) :
    (chars.drop 1).dropLast = inner ↔ ∃ opening closing, chars = opening :: inner ++ [closing] := by
  constructor
  · rintro rfl
    cases chars with
    | nil => simp at filled
    | cons opening rest =>
        have long : rest ≠ [] := by
          rintro rfl
          simp at filled
        exact ⟨opening, rest.getLast long, by simp [List.dropLast_concat_getLast long]⟩
  · rintro ⟨opening, closing, rfl⟩
    simp

theorem key_name_iff (script : Script) (key : Node) : script.keyName? key = some "cause" ↔ script.IsCauseKey key := by
  have quoted := unquoted_iff (script.text key).toList "cause".toList (by decide)
  unfold keyName? IsCauseKey
  split
  · rename_i kind
    simp [kind]
  · rename_i kind
    rw [Option.some.injEq, ← quoted, ← String.toList_inj, String.toList_ofList]
    simp [kind]
  · rename_i plain text
    refine iff_of_false (by simp) ?_
    rintro (⟨kind, _⟩ | ⟨kind, _⟩)
    · exact plain kind
    · exact text kind

theorem cause_value_iff (script : Script) (member value : Node) :
    script.causeValue? member = some value ↔ script.Gives member value := by
  constructor
  · intro given
    unfold causeValue? at given
    split at given
    · rename_i kind
      simp only [Option.bind_eq_bind, Option.bind_eq_some_iff, Option.guard_eq_some'] at given
      obtain ⟨key, keyed, other, valued, _, named, same⟩ := given
      cases same
      exact .pair kind keyed valued ((script.key_name_iff key).mp named)
    · rename_i kind
      split at given
      · rename_i named
        cases given
        exact .shorthand kind named
      · cases given
    · cases given
  · intro gives
    cases gives with
    | pair kind keyed valued named =>
        simp [causeValue?, kind, keyed, valued, (script.key_name_iff _).mpr named, guard]
    | shorthand kind named => simp [causeValue?, kind, named]

theorem cause_value_is_some_iff (script : Script) (member : Node) :
    (script.causeValue? member).isSome = true ↔ script.IsCause member := by
  simp only [Option.isSome_iff_exists, cause_value_iff, IsCause]

theorem cause_value_none_iff (script : Script) (member : Node) :
    script.causeValue? member = none ↔ ¬ script.IsCause member := by
  rw [← cause_value_is_some_iff, Option.not_isSome_iff_eq_none]

instance (script : Script) (member : Node) : Decidable (script.IsCause member) :=
  decidable_of_iff _ (script.cause_value_is_some_iff member)

theorem Gives.value_cases {script : Script} {member value : Node} (gives : script.Gives member value) :
    value = member ∨ value ∈ member.children := by
  cases gives with
  | pair kind keyed valued named => exact .inr (List.mem_of_find?_eq_some valued)
  | shorthand kind named => exact .inl rfl

theorem is_named_iff (script : Script) (name : String) (value : Node) :
    script.isNamed name value = true ↔
      (value.kind = .identifier ∨ value.kind = .shorthand) ∧ script.text value = name := by
  simp [isNamed]

theorem cause_iff (script : Script) (literal value : Node) :
    script.cause? literal = some value ↔ ∃ front member back, literal.children = front ++ member :: back ∧
      script.Gives member value ∧ ∀ other ∈ back, ¬ script.IsCause other := by
  rw [cause?, List.getLast?_filterMap, List.findSome?_eq_some_iff]
  simp only [cause_value_iff, cause_value_none_iff]
  constructor
  · rintro ⟨back, member, front, shape, gives, none⟩
    refine ⟨front.reverse, member, back.reverse, ?_, gives, by simpa using none⟩
    rw [← List.reverse_reverse literal.children, shape]
    simp
  · rintro ⟨front, member, back, shape, gives, none⟩
    refine ⟨back.reverse, member, front.reverse, ?_, gives, by simpa using none⟩
    rw [shape]
    simp

theorem cause_of_filter (script : Script) (literal other : Node)
    (same : other.children.filter (script.IsCause ·) = literal.children.filter (script.IsCause ·)) :
    script.cause? other = script.cause? literal := by
  have kept : ∀ members : List Node,
      members.filterMap script.causeValue? = (members.filter (script.IsCause ·)).filterMap script.causeValue? := by
    intro members
    rw [List.filterMap_filter]
    congr 1
    funext member
    by_cases cause : script.IsCause member
    · simp [cause]
    · simp [cause, (script.cause_value_none_iff member).mpr cause]
  rw [cause?, cause?, kept other.children, kept literal.children, same]

theorem cause_of_front (script : Script) (literal other member : Node) (front changed back : List Node)
    (cause : script.IsCause member) (shape : literal.children = front ++ member :: back)
    (otherShape : other.children = changed ++ member :: back) : script.cause? other = script.cause? literal := by
  obtain ⟨value, gives⟩ := cause
  have given := (script.cause_value_iff member value).mpr gives
  rw [cause?, cause?, shape, otherShape, List.filterMap_append, List.filterMap_append,
    List.filterMap_cons_some given]
  simp only [List.getLast?_append, List.getLast?_cons, Option.some_or]

theorem linked_eq (script : Script) (name : String) (candidate : Candidate) (literal : Node)
    (options : candidate.literal? = some literal) :
    script.linked (some name) candidate = ((script.cause? literal).map (script.isNamed name)).getD false := by
  rw [linked, options, Option.bind_some]

theorem linked_iff (script : Script) (name : String) (candidate : Candidate) (literal : Node)
    (options : candidate.literal? = some literal) :
    script.linked (some name) candidate = true ↔
      ∃ value, script.cause? literal = some value ∧ script.isNamed name value = true := by
  rw [script.linked_eq name candidate literal options]
  cases script.cause? literal <;> simp

theorem literal_iff (candidate : Candidate) (literal : Node) :
    candidate.literal? = some literal ↔ candidate.options = some literal ∧ literal.kind = .object := by
  simp [Candidate.literal?, Option.filter_eq_some_iff]

-- A shorthand as the value of a pair counts as a name too. Where members have no such child, the only shorthand that
-- can be a value is the member itself.
theorem last_cause_decides (script : Script) (candidate : Candidate) (literal : Node) (name : String)
    (options : candidate.options = some literal) (object : literal.kind = .object) :
    (script.linked (some name) candidate = true ↔
      ∃ front member back value, literal.children = front ++ member :: back ∧ script.Gives member value ∧
        (value.kind = .identifier ∨ value.kind = .shorthand) ∧ script.text value = name ∧
        ∀ other ∈ back, ¬ script.IsCause other) ∧
    ((∀ member ∈ literal.children, ∀ child ∈ member.children, child.kind ≠ .shorthand) →
      ∀ member ∈ literal.children, ∀ value, script.Gives member value → value.kind = .shorthand → value = member) ∧
    ∀ (rival : Candidate) (other : Node), rival.options = some other → other.kind = .object →
      (other.children.filter (script.IsCause ·) = literal.children.filter (script.IsCause ·) →
        script.linked (some name) rival = script.linked (some name) candidate) ∧
      ∀ front changed member back, script.IsCause member → literal.children = front ++ member :: back →
        other.children = changed ++ member :: back →
        script.linked (some name) rival = script.linked (some name) candidate := by
  have given := (literal_iff candidate literal).mpr ⟨options, object⟩
  refine ⟨?_, ?_, ?_⟩
  · rw [script.linked_iff name candidate literal given]
    simp only [cause_iff, is_named_iff]
    constructor
    · rintro ⟨value, ⟨front, member, back, shape, gives, none⟩, kind, text⟩
      exact ⟨front, member, back, value, shape, gives, kind, text, none⟩
    · rintro ⟨front, member, back, value, shape, gives, kind, text, none⟩
      exact ⟨value, ⟨front, member, back, shape, gives, none⟩, kind, text⟩
  · intro plain member held value gives kind
    exact gives.value_cases.resolve_right fun child => plain member held value child kind
  · intro rival other rivalOptions rivalObject
    have rivalGiven := (literal_iff rival other).mpr ⟨rivalOptions, rivalObject⟩
    rw [script.linked_eq name candidate literal given, script.linked_eq name rival other rivalGiven]
    constructor
    · intro same
      rw [script.cause_of_filter literal other same]
    · intro front changed member back cause shape otherShape
      rw [script.cause_of_front literal other member front changed back cause shape otherShape]

end Script

def repeatedCause : Script := .parse .script
  "try\x7b\x7dcatch(e)\x7bthrow Error(1,\x7bcause:e,cause,'cause':f,...e,cause()\x7b\x7d\x7d)\x7d"

def repeatedCandidate : Candidate :=
  ((repeatedCause.handlers.flatMap (repeatedCause.candidates ["Error"])).head?).getD default

def repeatedLiteral : Node := repeatedCandidate.options.getD default

def prunedCandidate : Candidate :=
  { repeatedCandidate with
    options := some (.mk repeatedLiteral.mark (repeatedLiteral.children.filter (repeatedCause.IsCause ·))) }

theorem repeated_cause_decided :
    repeatedCandidate.options = some repeatedLiteral ∧ repeatedLiteral.kind = .object ∧
      repeatedLiteral.children.map (·.kind) = [.pair, .shorthand, .pair, .spread, .function] ∧
      repeatedCause.linked (some "e") repeatedCandidate = false ∧
      (∃ front member back value, repeatedLiteral.children = front ++ member :: back ∧
        repeatedCause.Gives member value ∧ (value.kind = .identifier ∨ value.kind = .shorthand) ∧
        repeatedCause.text value = "f" ∧ ∀ other ∈ back, ¬ repeatedCause.IsCause other) ∧
      (∀ member ∈ repeatedLiteral.children, ∀ child ∈ member.children, child.kind ≠ .shorthand) ∧
      repeatedCause.linked (some "f") prunedCandidate = repeatedCause.linked (some "f") repeatedCandidate := by
  have facts : repeatedCandidate.options = some repeatedLiteral ∧ repeatedLiteral.kind = .object ∧
      repeatedLiteral.children.map (·.kind) = [.pair, .shorthand, .pair, .spread, .function] ∧
      repeatedCause.linked (some "e") repeatedCandidate = false ∧
      repeatedCause.linked (some "f") repeatedCandidate = true ∧
      ∀ member ∈ repeatedLiteral.children, ∀ child ∈ member.children, child.kind ≠ .shorthand := by decide +kernel
  obtain ⟨options, object, kinds, unlinked, linked, plain⟩ := facts
  obtain ⟨decided, _, unchanged⟩ :=
    repeatedCause.last_cause_decides repeatedCandidate repeatedLiteral "f" options object
  refine ⟨options, object, kinds, unlinked, decided.mp linked, plain, ?_⟩
  exact (unchanged prunedCandidate _ rfl object).1 (by simp [Node.children])

end Rethrow
