import Rethrow.Discovery

/-!
Reports on files: what was found in each, after what could be repaired. They work with any reader of texts; those in
`Run` take the one of the grammar.
-/
set_option autoImplicit false

namespace Rethrow

structure Report where
  path : Path
  findings : List Finding
  fixed : Nat := 0
deriving Repr, Inhabited

def Report.messages (report : Report) : List String :=
  report.findings.map fun finding => s!"{report.path.text}: {finding.message}"

inductive Unreadable where
  | lost (reason : Lost)
  | directory
  | undecodable (error : Utf8.DecodeError)
deriving DecidableEq, Repr

def Unreadable.message (path : Path) : Unreadable → String
  | lost .missing => s!"[Errno 2] No such file or directory: {quoted path.text}"
  | lost .notDirectory => s!"[Errno 20] Not a directory: {quoted path.text}"
  | lost .tooManyLinks => s!"[Errno 40] Too many levels of symbolic links: {quoted path.text}"
  | directory => s!"[Errno 21] Is a directory: {quoted path.text}"
  | undecodable error => error.message

namespace Session

def readSource (session : Session) (path : Path) : Except Unreadable (Nat × String) :=
  match session.store.tree.find session.directory path with
  | .error reason => .error (.lost reason)
  | .ok place =>
    match session.store.tree.file? place with
    | none => .error .directory
    | some file => ((Utf8.decode (session.store.read file)).mapError .undecodable).map fun source => (file, source)

def write (session : Session) (file : Nat) (source : String) : Session :=
  { session with store := session.store.write file (Utf8.encode source) }

end Session

namespace Reader

def repairFile (read : Reader) (settings : Settings) (path : Path) (file : Nat) (source : String) : Run Report := do
  let result ← (read.repair settings source path.suffix).mapError Failure.source
  unless result.applied = 0 do
    modify fun session => session.write file result.source
    Run.log (.fixesApplied path.text result.applied)
  return { path, findings := result.remaining, fixed := result.applied }

def analyzeSource (read : Reader) (settings : Settings) (path : Path) (source : String) : Run Report := do
  let findings ← (read.analyze settings source path.suffix).mapError Failure.source
  return { path, findings }

def reportFile (read : Reader) (settings : Settings) (fix : Bool) (path : Path) : Run (Option Report) := do
  if path.hasNull then throw .nullByte
  match (← get).readSource path with
  | .error reason =>
    Run.log (.fileSkipped path.text (reason.message path))
    return none
  | .ok (file, source) =>
    let report ←
      if fix then read.repairFile settings path file source else read.analyzeSource settings path source
    Run.log (.unitAnalyzed path.text report.findings.length)
    return some report

def reportFiles (read : Reader) (settings : Settings) (fix : Bool) : List Path → Run (List Report)
  | [] => return []
  | path :: rest => do
    let report ← read.reportFile settings fix path
    return report.toList ++ (← read.reportFiles settings fix rest)

def reportPaths (read : Reader) (settings : Settings) (fix : Bool) (paths : List Path) (revision : Option String) :
    Run (List Report) := do
  read.reportFiles settings fix (← Run.selectFiles settings paths revision)

end Reader

namespace Run

def reportFile (settings : Settings) (fix : Bool) (path : Path) : Run (Option Report) :=
  Reader.reportFile Script.parse settings fix path

def reportPaths (settings : Settings) (fix : Bool) (paths : List Path) (revision : Option String) :
    Run (List Report) :=
  Reader.reportPaths Script.parse settings fix paths revision

end Run
end Rethrow
