import Rethrow.Proofs.Encoding
import Rethrow.Proofs.Keeping

/-!
How the search for settings ends. The first file that is there decides: it gives settings, or what it says is no
configuration. Bytes that are those of no text are the exception: they are not reported as a fault of the
configuration.
-/
set_option autoImplicit false

namespace Rethrow

def Session.firstFile? (session : Session) (paths : List Path) : Option (Path × Bytes) :=
  paths.findSome? fun path => (session.content? path).map fun bytes => (path, bytes)

namespace Configuration

theorem of_bytes_text_failure (path : Path) (text : String) (failure : Failure)
    (failed : ofBytes path (Utf8.encode text) = .error failure) : ∃ error, failure = .configuration error := by
  simp only [ofBytes, Utf8.decode_encode] at failed
  cases parsed : Toml.parse text with
  | none =>
      simp only [parsed, Except.error.injEq] at failed
      exact ⟨_, failed.symm⟩
  | some document =>
      cases told : ofDocument path document with
      | error error =>
          simp only [parsed, told, Except.mapError, Except.error.injEq] at failed
          exact ⟨error, failed.symm⟩
      | ok found => simp [parsed, told, Except.mapError] at failed

theorem of_bytes_garbled (path : Path) (bytes : Bytes) (garbled : ∀ text, Utf8.encode text ≠ bytes) :
    ∃ error, ofBytes path bytes = .error (.undecodable error) := by
  obtain ⟨text, same, _⟩ | ⟨_, error, failed⟩ := Utf8.decode_cases bytes
  · exact absurd same (garbled text)
  · exact ⟨error, by rw [ofBytes, failed]⟩

theorem of_bytes_found (path : Path) (bytes : Bytes) (other : path.name ≠ projectName) :
    ofBytes path bytes ≠ .ok none := by
  intro silent
  unfold ofBytes at silent
  split at silent
  · cases silent
  · split at silent
    · cases silent
    · rename_i document _
      rw [ofDocument, if_neg other] at silent
      cases told : Settings.ofTable document <;>
        simp [told, Except.mapError, bind, Except.bind, pure, Except.pure] at silent

-- The search goes past a file that is there only if it can be silent, and only the last one can.
theorem first_of_eq (paths : List Path) (session : Session) (own : ∀ path ∈ paths.dropLast, path.name ≠ projectName) :
    ((firstOf paths).run.run session).1 =
      match session.firstFile? paths with
      | none => .ok {}
      | some (path, bytes) => (ofBytes path bytes).map fun found => found.getD {} := by
  induction paths with
  | nil => rfl
  | cons path rest ih =>
      simp only [firstOf, Run.run_bind_get, Session.firstFile?, List.findSome?_cons]
      cases held : session.content? path with
      | none =>
          refine ih fun other member => own other ?_
          cases rest with
          | nil => simp at member
          | cons next more => exact List.mem_cons_of_mem path member
      | some bytes =>
          simp only [Run.run_bind, Run.run_lift, Option.map_some]
          rcases told : ofBytes path bytes with failure | _ | settings
          · rfl
          · cases rest with
            | nil => rfl
            | cons next more => exact absurd told (of_bytes_found path bytes (own path List.mem_cons_self))
          · rfl

theorem candidates_own (root : Path) (explicit : Option Path) :
    ∀ path ∈ (candidates root explicit).dropLast, path.name ≠ projectName := by
  cases explicit with
  | some path => simp [candidates]
  | none =>
      have single : Path.ofText ownName = ⟨.here, [ownName]⟩ := by decide +kernel
      have differ : ownName ≠ projectName := by decide
      simpa [candidates, single, Path.join, Path.name] using differ

theorem load_eq (root : Path) (explicit : Option Path) (session : Session) :
    ((load root explicit).run.run session).1 =
      match session.firstFile? (candidates root explicit), explicit with
      | some (path, bytes), _ => (ofBytes path bytes).map fun found => found.getD {}
      | none, some path => .error (.configuration (.missing path))
      | none, none => .ok {} := by
  have search := first_of_eq (candidates root explicit) session (candidates_own root explicit)
  cases explicit with
  | none =>
      have same : load root none = firstOf (candidates root none) := rfl
      rw [same, search]
      cases session.firstFile? (candidates root none) <;> rfl
  | some path =>
      have first : session.firstFile? (candidates root (some path)) =
          (session.content? path).map fun bytes => (path, bytes) := by
        simp [Session.firstFile?, candidates]
      simp only [load, Run.run_bind_get]
      rw [first] at search ⊢
      cases held : session.content? path with
      | none => rfl
      | some bytes =>
          rw [held] at search
          exact search

theorem load_failure_cases (root : Path) (explicit : Option Path) (session : Session) (failure : Failure)
    (failed : ((load root explicit).run.run session).1 = .error failure) :
    (∃ error, failure = .configuration error) ∨
      ∃ path bytes, session.firstFile? (candidates root explicit) = some (path, bytes) ∧
        ∀ text, Utf8.encode text ≠ bytes := by
  rw [load_eq] at failed
  rcases first : session.firstFile? (candidates root explicit) with _ | ⟨path, bytes⟩
  · cases explicit with
    | none => simp [first] at failed
    | some path =>
        simp only [first, Except.error.injEq] at failed
        exact .inl ⟨_, failed.symm⟩
  · obtain ⟨text, rfl, _⟩ | ⟨garbled, _⟩ := Utf8.decode_cases bytes
    · cases told : ofBytes path (Utf8.encode text) with
      | error other =>
          simp only [first, told, Except.map, Except.error.injEq] at failed
          subst failed
          exact .inl (of_bytes_text_failure path text other told)
      | ok found => simp [first, told, Except.map] at failed
    · exact .inr ⟨path, bytes, rfl, garbled⟩

theorem load_garbled (root : Path) (explicit : Option Path) (session : Session) (path : Path) (bytes : Bytes)
    (first : session.firstFile? (candidates root explicit) = some (path, bytes))
    (garbled : ∀ text, Utf8.encode text ≠ bytes) :
    ∃ error, ((load root explicit).run.run session).1 = .error (.undecodable error) := by
  obtain ⟨error, told⟩ := of_bytes_garbled path bytes garbled
  refine ⟨error, ?_⟩
  rw [load_eq, first]
  simp only [told, Except.map]

theorem load_ends_properly_iff (root : Path) (explicit : Option Path) (session : Session) :
    (((∃ settings, ((load root explicit).run.run session).1 = .ok settings) ∨
        ∃ error, ((load root explicit).run.run session).1 = .error (.configuration error)) ↔
      ∀ path bytes, session.firstFile? (candidates root explicit) = some (path, bytes) →
        ∃ text, Utf8.encode text = bytes) ∧
    ((∃ error, ((load root explicit).run.run session).1 = .error (.undecodable error)) ↔
      ∃ path bytes, session.firstFile? (candidates root explicit) = some (path, bytes) ∧
        ∀ text, Utf8.encode text ≠ bytes) := by
  constructor
  · constructor
    · intro ended path bytes first
      by_contra garbled
      obtain ⟨error, failed⟩ := load_garbled root explicit session path bytes first (not_exists.mp garbled)
      rw [failed] at ended
      rcases ended with ⟨_, same⟩ | ⟨_, same⟩ <;> cases same
    · intro texts
      rcases outcome : ((load root explicit).run.run session).1 with failure | settings
      · rcases load_failure_cases root explicit session failure outcome with
          ⟨error, rfl⟩ | ⟨path, bytes, first, garbled⟩
        · exact .inr ⟨error, rfl⟩
        · obtain ⟨text, same⟩ := texts path bytes first
          exact absurd same (garbled text)
      · exact .inl ⟨settings, rfl⟩
  · constructor
    · rintro ⟨error, failed⟩
      rcases load_failure_cases root explicit session _ failed with ⟨_, other⟩ | garbled
      · cases other
      · exact garbled
    · rintro ⟨path, bytes, first, garbled⟩
      exact load_garbled root explicit session path bytes first garbled

/-- A comment with an accent in an encoding of one byte for each character. -/
def accentedSession : Session :=
  { directory := ⟨.root, ["w"]⟩
    store := { tree := { files := [(["w", "causelint.toml"], 0)] }, contents := [(0, [0x23, 0xE9])] } }

theorem accented_comment_garbled :
    (∀ text, Utf8.encode text ≠ [0x23, 0xE9]) ∧
      ∃ error, ((load (.ofText ".") none).run.run accentedSession).1 = .error (.undecodable error) := by
  have garbled : ∀ text, Utf8.encode text ≠ [0x23, 0xE9] := by
    intro text same
    have read := Utf8.decode_encode text
    rw [same] at read
    have refused : (Utf8.decode [0x23, 0xE9]).toOption = none := by decide +kernel
    rw [read] at refused
    cases refused
  have first : accentedSession.firstFile? (candidates (.ofText ".") none) =
      some (.ofText "causelint.toml", [0x23, 0xE9]) := by decide +kernel
  exact ⟨garbled, (load_ends_properly_iff (.ofText ".") none accentedSession).2.mpr ⟨_, _, first, garbled⟩⟩

end Configuration
end Rethrow
