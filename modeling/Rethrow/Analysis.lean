import Rethrow.Finding
import Rethrow.Grammar.Program
import Rethrow.Settings

/-!
The analysis of one source text, and its repair: every fix that can be applied in one batch is applied, and what the
new text still leaves is reported. Both work with any reader of texts; `analyze` and `repair` take the one of the
grammar.
-/
set_option autoImplicit false

namespace Rethrow

inductive SourceError where
  | unsupported (suffix : String)
  | edit (error : EditError)
deriving DecidableEq, Repr

def SourceError.message : SourceError → String
  | unsupported suffix => s!"Unsupported file type: {lower suffix}"
  | edit error => error.message

/-- A reader of source texts: the tree of a text in a dialect. -/
abbrev Reader := Dialect → String → Script

structure Repair where
  source : String
  applied : Nat
  remaining : List Finding
deriving Repr, Inhabited

namespace Reader

def script (read : Reader) (source suffix : String) : Except SourceError Script :=
  match Dialect.ofSuffix? suffix with
  | some dialect => .ok (read dialect source)
  | none => .error (.unsupported suffix)

def analyze (read : Reader) (settings : Settings) (source suffix : String) : Except SourceError (List Finding) := do
  let script ← read.script source suffix
  return script.findings settings.constructors

def repair (read : Reader) (settings : Settings) (source suffix : String) : Except SourceError Repair := do
  let findings ← read.analyze settings source suffix
  let edits := Script.fixes findings
  if edits.isEmpty then return { source, applied := 0, remaining := findings }
  let repaired ← (Edit.applyAll source edits).mapError .edit
  return { source := repaired, applied := edits.length, remaining := ← read.analyze settings repaired suffix }

end Reader

def Script.ofSource (source suffix : String) : Except SourceError Script := Reader.script Script.parse source suffix

def analyze (settings : Settings) (source suffix : String) : Except SourceError (List Finding) :=
  Reader.analyze Script.parse settings source suffix

def repair (settings : Settings) (source suffix : String) : Except SourceError Repair :=
  Reader.repair Script.parse settings source suffix

end Rethrow
