import Rethrow.Command.Run
import Std.Time.DateTime.Timestamp

/-!
The program. It reads the files that the arguments can lead to, runs, and writes back the files that were repaired.
The version control program is not started: a run that asks it ends as where it is not installed.
-/
set_option autoImplicit false

namespace Rethrow.Moment

/-- Year, month and day for a number of days since the start of 1970. Years are counted from March on, so that the leap
day is the last of its year, in eras of 400 years. -/
def dateOf (days : Nat) : Nat × Nat × Nat :=
  let shifted := days + 719468
  let inEra := shifted % 146097
  let yearInEra := (inEra - inEra / 1460 + inEra / 36524 - inEra / 146096) / 365
  let inYear := inEra - (365 * yearInEra + yearInEra / 4 - yearInEra / 100)
  let fromMarch := (5 * inYear + 2) / 153
  let day := inYear - (153 * fromMarch + 2) / 5 + 1
  let month := if fromMarch < 10 then fromMarch + 3 else fromMarch - 9
  let year := yearInEra + shifted / 146097 * 400 + (if month ≤ 2 then 1 else 0)
  (year, month, day)

def digits (width n : Nat) : String :=
  let text := toString n
  String.ofList (List.replicate (width - text.length) '0') ++ text

def text (milliseconds : Nat) : String :=
  let seconds := milliseconds / 1000
  let (year, month, day) := dateOf (seconds / 86400)
  let date := s!"{digits 4 year}-{digits 2 month}-{digits 2 day}"
  let time := s!"{digits 2 (seconds / 3600 % 24)}:{digits 2 (seconds / 60 % 60)}:{digits 2 (seconds % 60)}"
  s!"{date}T{time}.{digits 6 (milliseconds % 1000 * 1000)}Z"

example : text 951827696789 = "2000-02-29T12:34:56.789000Z" := by decide +kernel

end Rethrow.Moment

namespace Rethrow.Main

structure Found where
  files : List (Names × Bytes) := []
  links : List (Names × Path) := []
  directories : List Names := []

namespace Found

def has (found : Found) (names : Names) : Bool :=
  (found.files.any (·.1 = names)) || (found.links.any (·.1 = names)) || found.directories.contains names

def store (found : Found) : Store :=
  let numbered := found.files.zipIdx
  match Tree.of? (numbered.map fun file => (file.1.1, file.2)) found.links found.directories with
  | some tree => { tree, contents := numbered.map fun file => (file.2, file.1.2) }
  | none => {}

end Found

partial def collect (found : Found) (names : Names) : IO Found := do
  let place := (← IO.currentDir) / ("/" ++ String.intercalate "/" names)
  let some kind ← (try some <$> IO.FS.Metadata.type <$> place.symlinkMetadata catch _ => pure none) | return found
  if found.has names then return found
  match kind with
  | .dir =>
    let mut found := { found with directories := names :: found.directories }
    for entry in ← place.readDir do
      found ← collect found (names ++ [entry.fileName])
    return found
  | .symlink =>
    let some target ← (try some <$> IO.FS.realPath place catch _ => pure none) | return found
    let path := Path.ofText target.toString
    collect { found with links := (names, path) :: found.links } path.parts
  | .file => return { found with files := (names, (← IO.FS.readBinFile place).toList) :: found.files }
  | .other => return found

def starts (directory : Path) (arguments : List String) : List Names :=
  let paths := match Command.parse arguments with
    | .error _ => []
    | .ok options => options.paths.map Path.ofText ++ options.config.toList
  directory.parts :: paths.map fun path => Path.climb [] (directory.join path).parts

def writeChanges (before after : Store) : IO Unit :=
  for (names, file) in after.tree.files do
    unless before.read file = after.read file do
      IO.FS.writeBinFile ("/" ++ String.intercalate "/" names) ⟨(after.read file).toArray⟩

def run (arguments : List String) : IO UInt32 := do
  let directory := Path.ofText (← IO.currentDir).toString
  let store := (← (starts directory arguments).foldlM collect {}).store
  let time := Moment.text (← Std.Time.Timestamp.now).toMillisecondsSinceUnixEpoch.val.toNat
  let (result, after) := (Command.run arguments time).run.run { directory, store, replies := [.missing] }
  writeChanges store after.store
  match result with
  | .ok outcome =>
    IO.print outcome.output
    IO.eprint outcome.errors
    return UInt32.ofNat outcome.exitCode
  | .error failure =>
    IO.eprintln failure.message
    return 1

end Rethrow.Main

def main (arguments : List String) : IO UInt32 := Rethrow.Main.run arguments
