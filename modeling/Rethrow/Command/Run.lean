import Rethrow.Command.Help
import Rethrow.Configuration
import Rethrow.Report

/-!
The program from its arguments to its exit code, and what it prints: its findings, as text or as data.
-/
set_option autoImplicit false

namespace Rethrow.Command

def findingLine (path : String) (finding : Finding) : String :=
  s!"{path}:{finding.first.line}:{finding.first.column}: {finding.problem.name} {finding.message}"

def count {α : Type} (reports : List Report) (measure : Report → List α) : Nat := (reports.flatMap measure).length

def textOutput (reports : List Report) : String :=
  let found := reports.flatMap fun report => report.findings.map (findingLine report.path.text)
  let fixable := count reports fun report => report.findings.filter Finding.fixable
  let fixed : Nat := reports.foldr (fun report total => report.fixed + total) 0
  linesText (found ++ (if found.isEmpty then [] else [""]) ++ [s!"Analyzed files: {reports.length}"] ++
    (if fixed = 0 then [] else [s!"Fixed: {fixed}"]) ++ [s!"Total findings: {found.length} ({fixable} fixable)"])

def fixDatum : Option Edit → Datum
  | none => .null
  | some edit => .record [("start", .number edit.start), ("end", .number edit.stop), ("text", .text edit.text)]

def findingDatum (path : String) (finding : Finding) : Datum :=
  .record [("path", .text path), ("line", .number finding.first.line), ("column", .number finding.first.column),
    ("kind", .text finding.problem.name), ("message", .text finding.message), ("fix", fixDatum finding.fix)]

def jsonOutput (reports : List Report) : String :=
  let found := reports.flatMap fun report => report.findings.map (findingDatum report.path.text)
  linesText [(Datum.list found).indented 0]

def Format.output : Format → List Report → String
  | text => textOutput
  | json => jsonOutput

def LogFormat.line : LogFormat → String → Event → String
  | console => Event.consoleLine
  | json => Event.jsonLine

structure Outcome where
  exitCode : Nat
  output : String := ""
  errors : String := ""
deriving DecidableEq, Repr, Inhabited

def logText (options : Options) (time : String) (events : List Event) : String :=
  linesText ((events.filter (Event.shownFrom (.ofVerbosity options.verbosity))).map (options.logFormat.line time))

def Options.settings (options : Options) : Run Settings := do
  let base ← Configuration.load (← get).directory options.config
  return base.withConstructors options.constructors

def reports (read : Reader) (options : Options) (paths : List Path) : Run (List Report) := do
  read.reportPaths (← options.settings) options.fix paths options.changedSince

def Outcome.ofReports (options : Options) (log : String) (reports : List Report) : Outcome :=
  { exitCode := if reports.all (·.findings.isEmpty) then 0 else 1
    output := options.format.output reports
    errors := log }

def Outcome.ofFailure (log : String) (failure : Failure) : Outcome :=
  if failure.isInvalidInput then { exitCode := 2, errors := log ++ linesText ["Error: " ++ failure.message] }
  else { exitCode := 3, errors := linesText ["analysis_failed", "Internal error while analyzing."] }

def Outcome.ofStop (stop : Stop) : Outcome :=
  { exitCode := stop.exitCode, output := stop.output, errors := linesText stop.message?.toList }

/-- A run with options. Paths are resolved and looked up before anything else. -/
def execute (read : Reader) (options : Options) (time : String) : Run Outcome := do
  let paths ← (options.paths.map Path.ofText).mapM Run.resolve
  let session ← get
  match paths.find? fun path => (session.store.tree.reach? path.parts).isNone with
  | some path => return .ofFailure "" (.missingPath path)
  | none =>
    let (result, after) := (reports read options paths).run.run session
    set after
    let log := logText options time (after.events.drop session.events.length)
    match result with
    | .ok reports => return .ofReports options log reports
    | .error failure => return .ofFailure log failure

def runWith (read : Reader) (arguments : List String) (time : String) : Run Outcome :=
  match parse arguments with
  | .error stop => return .ofStop stop
  | .ok options => execute read options time

def run (arguments : List String) (time : String) : Run Outcome := runWith Script.parse arguments time

end Rethrow.Command
