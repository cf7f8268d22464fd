import Rethrow.Candidate
import Rethrow.Edit

/-!
Findings: candidates that do not keep the caught value, each with the edit that would make it do so, and in words.
-/
set_option autoImplicit false

namespace Rethrow

inductive Problem where
  | missingCause
  | other (name : String)
deriving DecidableEq, Repr, Inhabited

def Problem.name : Problem → String
  | missingCause => "missing-cause"
  | other name => name

def Problem.ofName (name : String) : Problem := if name = "missing-cause" then missingCause else other name

structure Finding where
  anchor : Node
  parameter : String
  problem : Problem := .missingCause
  fix : Option Edit
deriving Repr, Inhabited

structure Location where
  line : Nat
  column : Nat
deriving DecidableEq, Repr, Inhabited

def Place.location (place : Place) : Location := ⟨place.row + 1, place.column + 1⟩

namespace Finding

def start (finding : Finding) : Nat := finding.anchor.start
def first (finding : Finding) : Location := finding.anchor.extent.start.location
def last (finding : Finding) : Location := finding.anchor.extent.stop.location
def fixable (finding : Finding) : Bool := finding.fix.isSome

end Finding

def causeLiteral (name : String) : String := "\x7b cause: " ++ name ++ " \x7d"

/-- The edit that makes a candidate keep the caught value: options are put after the message, or take the place of
an object literal. Other options are left alone. -/
def Candidate.fix (candidate : Candidate) (name : String) : Option Edit :=
  match candidate.options with
  | none => some ⟨candidate.message.stop, candidate.message.stop, ", " ++ causeLiteral name⟩
  | some _ => candidate.literal?.map fun literal => ⟨literal.start, literal.stop, causeLiteral name⟩

def Candidate.finding (candidate : Candidate) (name : String) : Finding :=
  { anchor := candidate.call, parameter := name, fix := candidate.fix name }

def Candidate.range (candidate : Candidate) : Nat × Nat := (candidate.statement.start, candidate.statement.stop)

def firstByRange (seen : List (Nat × Nat)) : List Candidate → List Candidate
  | [] => []
  | candidate :: rest =>
    if candidate.range ∈ seen then firstByRange seen rest
    else candidate :: firstByRange (candidate.range :: seen) rest

namespace Script

def report (script : Script) (handler : Handler) (candidates : List Candidate) : List Finding :=
  match handler.parameter with
  | none => []
  | some name =>
    ((firstByRange [] candidates).filter fun candidate => !script.linked (some name) candidate).map (·.finding name)

def reports (script : Script) (names : List String) : List (Handler × List Finding) :=
  script.handlers.map fun handler => (handler, script.report handler (script.candidates names handler))

def findings (script : Script) (names : List String) : List Finding :=
  ((script.reports names).flatMap (·.2)).mergeSort fun a b => a.start ≤ b.start

def fixes (findings : List Finding) : List Edit := Edit.selectDisjoint (findings.filterMap (·.fix))

end Script

def observation (name : String) : Problem → String
  | .missingCause => s!"This error replaces the caught error '{name}' without keeping it as its cause."
  | .other _ => s!"This error discards the caught error '{name}'."

def remedy (name : String) (fixable : Bool) : String :=
  if fixable then s!"Pass {causeLiteral name} as the second argument."
  else s!"The options argument is not an object literal; add cause: {name} to it by hand."

def explain (problem : Problem) (name : String) (fixable : Bool) : String :=
  observation name problem ++ " " ++ remedy name fixable

def Finding.message (finding : Finding) : String := explain finding.problem finding.parameter finding.fixable

end Rethrow
