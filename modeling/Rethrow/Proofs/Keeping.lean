import Rethrow.Configuration
import Rethrow.Report

/-!
The parts of a run that change no file: reading the configuration, and looking at files without repair.
-/
set_option autoImplicit false

namespace Rethrow

namespace Run

variable {α β : Type} {first : Run α} {next : α → Run β} {session between after : Session}

theorem run_bind (first : Run α) (next : α → Run β) (session : Session) :
    (first >>= next).run.run session =
      match first.run.run session with
      | (.ok value, after) => (next value).run.run after
      | (.error failure, after) => (.error failure, after) := by
  rw [ExceptT.run_bind, StateT.run_bind]
  rcases first.run.run session with ⟨_ | _, _⟩ <;> rfl

theorem run_bind_ok {value : α} (step : first.run.run session = (.ok value, between)) :
    (first >>= next).run.run session = (next value).run.run between := by
  rw [run_bind, step]

theorem run_bind_error {failure : Failure} (step : first.run.run session = (.error failure, between)) :
    (first >>= next).run.run session = (.error failure, between) := by
  rw [run_bind, step]

theorem run_bind_get (next : Session → Run α) (session : Session) :
    (get >>= next).run.run session = (next session).run.run session := rfl

theorem run_lift (result : Except Failure α) (session : Session) :
    (liftM result : Run α).run.run session = (result, session) := by
  cases result <;> rfl

theorem returns_iff (part : Run α) (session : Session) (value : α) :
    (∃ after, part.run.run session = (.ok value, after)) ↔ (part.run.run session).1 = .ok value := by
  constructor
  · rintro ⟨after, done⟩
    rw [done]
  · intro result
    exact ⟨_, Prod.ext result rfl⟩

theorem returns_of_ok (part : Run α) (session : Session) (done : (part.run.run session).1.isOk = true) :
    ∃ value, part.run.run session = (.ok value, (part.run.run session).2) := by
  rcases run : part.run.run session with ⟨failure | value, after⟩
  · rw [run] at done
    cases done
  · exact ⟨value, rfl⟩

theorem bind_inversion {value : β} (done : (first >>= next).run.run session = (.ok value, after)) :
    ∃ middle between, first.run.run session = (.ok middle, between) ∧
      (next middle).run.run between = (.ok value, after) := by
  rw [run_bind] at done
  rcases step : first.run.run session with ⟨failure | middle, between⟩
  · rw [step] at done
    cases done
  · rw [step] at done
    exact ⟨middle, between, rfl, done⟩

/-- The files and the current directory are as they were, whether the part returns or ends early. -/
def Keeps (part : Run α) : Prop :=
  ∀ session, (part.run.run session).2.store = session.store ∧ (part.run.run session).2.directory = session.directory

theorem keeps_pure (value : α) : Keeps (pure value : Run α) := fun _ => ⟨rfl, rfl⟩

theorem keeps_throw (failure : Failure) : Keeps (throw failure : Run α) := fun _ => ⟨rfl, rfl⟩

theorem keeps_get : Keeps (get : Run Session) := fun _ => ⟨rfl, rfl⟩

theorem keeps_lift (result : Except Failure α) : Keeps (liftM result : Run α) := fun session => by
  rw [run_lift]
  exact ⟨rfl, rfl⟩

theorem keeps_log (event : Event) : Keeps (log event) := fun _ => ⟨rfl, rfl⟩

theorem keeps_bind (kept : Keeps first) (later : ∀ value, Keeps (next value)) :
    Keeps (first >>= next) := by
  intro session
  have same := kept session
  rw [run_bind]
  rcases step : first.run.run session with ⟨failure | value, between⟩
  · rw [step] at same
    exact same
  · rw [step] at same
    have rest := later value between
    exact ⟨rest.1.trans same.1, rest.2.trans same.2⟩

end Run

open Run

theorem Configuration.first_of_keeps (paths : List Path) : Keeps (firstOf paths) := by
  induction paths with
  | nil => exact keeps_pure _
  | cons path rest ih =>
      refine keeps_bind keeps_get fun session => ?_
      split
      · exact ih
      · refine keeps_bind (keeps_lift _) fun found => ?_
        cases found with
        | none => exact ih
        | some settings => exact keeps_bind (keeps_log _) fun _ => keeps_pure _

theorem Configuration.load_keeps (root : Path) (explicit : Option Path) : Keeps (load root explicit) := by
  unfold load
  cases explicit with
  | none => exact first_of_keeps _
  | some path =>
      refine keeps_bind keeps_get fun session => ?_
      dsimp only
      split
      · exact keeps_bind (keeps_throw _) fun _ => first_of_keeps _
      · exact first_of_keeps _

namespace Reader

variable (read : Reader) (settings : Settings)

end Reader
end Rethrow
