import Rethrow.Session

/-!
The files that a run looks at: those that are named, those below directories that are named and, with a revision, of
these only those that changed since, as the version control program lists them.
-/
set_option autoImplicit false

namespace Rethrow

def Settings.accepts (settings : Settings) (suffix : String) : Bool :=
  (settings.extensions.map lower).contains (lower suffix)

def Settings.passesBy (settings : Settings) (name : String) : Bool :=
  name.toList.head? = some '.' || settings.excluded.contains name

def Tree.below (tree : Tree) (directory : Names) : List Names :=
  (tree.leaves.filter (isBelow directory)).map (·.drop directory.length)

/-- The files that a path from the root stands for. Links below a directory are not followed to name a file, and a link
to a directory is not entered. -/
def expand (settings : Settings) (tree : Tree) (path : Path) : List Path :=
  match tree.reach? path.parts with
  | none => []
  | some place =>
    if (tree.file? place).isSome then [fileAt path.parts]
    else
      let inner := (tree.below place).filter fun names => !names.dropLast.any settings.passesBy
      (inner.map fun names => fileAt (path.parts ++ names)).filter fun file => (tree.number? file.parts).isSome

def discover (settings : Settings) (tree : Tree) (paths : List Path) : List Path :=
  Path.inOrder ((paths.flatMap (expand settings tree)).filter fun file => settings.accepts file.suffix)

/-- Without a reply to come, the program ends with code 128 and no text. -/
def Run.ask (arguments : List String) (directory : Path) : Run (Int × String × String) := do
  let reply := (← get).replies.head?
  modify fun session =>
    { session with calls := session.calls ++ [⟨arguments, directory⟩], replies := session.replies.tail }
  match reply with
  | some .missing => throw .gitMissing
  | some (.ended code output errors) => return (code, output, errors)
  | none => return (128, "", "")

structure Repository where
  path : Path
  topLevel : Path
deriving DecidableEq, Repr

namespace Repository

/-- The question is asked in the path itself, or in what it stands in if it leads to no directory. -/
def locate (given : String) : Run Repository := do
  let path ← Run.resolve (Path.ofText given)
  let tree := (← get).store.tree
  let inside := (tree.reach? path.parts).any tree.isDirectory
  let (code, output, _) ← Run.ask ["rev-parse", "--show-toplevel"] (if inside then path else path.parent)
  if code ≠ 0 then throw (.notRepository given)
  return { path, topLevel := ← Run.resolve (Path.ofText (strip output)) }

def query (repository : Repository) (arguments : List String) : Run String := do
  let (code, output, errors) ← Run.ask arguments repository.topLevel
  if code ≠ 0 then throw (.queryFailed arguments errors)
  return output

def named (output : String) : List Path :=
  ((lines output).filter fun line => strip line ≠ "").map Path.ofText

def listed (repository : Repository) (output : String) : Run (List Path) :=
  (named output).mapM fun path => Run.resolve (repository.topLevel.join path)

def changedFiles (repository : Repository) (revision : String) : Run (List Path) := do
  let differing ← repository.query ["diff", "--name-only", "--diff-filter=ACMR", revision, "--"]
  let untracked ← repository.query ["ls-files", "--others", "--exclude-standard"]
  let differing ← repository.listed differing
  let untracked ← repository.listed untracked
  return Path.inOrder (differing ++ untracked)

end Repository

def changedSince (given revision : String) : Run (List Path) := do
  (← Repository.locate given).changedFiles revision

namespace Run

def discoverFiles (settings : Settings) (paths : List Path) : Run (List Path) := do
  let resolved ← paths.mapM resolve
  return discover settings (← get).store.tree resolved

def changedAround (revision : String) : List Path → Run (List Path)
  | [] => return []
  | path :: rest => do
    let changed ← changedSince path.text revision
    return changed ++ (← changedAround revision rest)

def selectFiles (settings : Settings) (paths : List Path) (revision : Option String) : Run (List Path) := do
  let session ← get
  match paths.find? fun path => (session.store.tree.find? session.directory path).isNone with
  | some path => throw (.missingPath path)
  | none =>
    let files ← discoverFiles settings paths
    match revision with
    | none => return files
    | some revision =>
      let changed ← changedAround revision paths
      return files.filter changed.contains

end Run
end Rethrow
