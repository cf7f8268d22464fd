import Rethrow.Analysis
import Rethrow.Log
import Rethrow.Store

/-!
A run: what it reads and changes, and the reasons for which it ends early. What was done before it ended stays done.
-/
set_option autoImplicit false

namespace Rethrow

structure Call where
  arguments : List String
  directory : Path
deriving DecidableEq, Repr

inductive Reply where
  | missing
  | ended (code : Int) (output errors : String)
deriving DecidableEq, Repr

structure Session where
  directory : Path
  store : Store
  replies : List Reply := []
  calls : List Call := []
  events : List Event := []
deriving Inhabited

namespace Session

def file? (session : Session) (path : Path) : Option Nat :=
  (session.store.tree.find? session.directory path).bind session.store.tree.file?

def content? (session : Session) (path : Path) : Option Bytes := (session.file? path).map session.store.read

end Session

inductive ConfigurationError where
  | missing (path : Path)
  | unreadable (path : Path)
  | toolNotTable (path : Path)
  | sectionNotTable (path : Path)
  | invalid (path : Path) (fault : Settings.Fault)
deriving DecidableEq, Repr

def ConfigurationError.message : ConfigurationError → String
  | missing path => s!"Config file does not exist: {path.text}"
  | unreadable path => s!"Cannot read {path.text}"
  | toolNotTable path => s!"{path.text}: [tool] must be a table"
  | sectionNotTable path => s!"{path.text}: [tool.causelint] must be a table"
  | invalid path fault => fault.message path.text

inductive Failure where
  | nullByte
  | linkLoop (path : Path)
  | missingPath (path : Path)
  | source (error : SourceError)
  | configuration (error : ConfigurationError)
  | undecodable (error : Utf8.DecodeError)
  | notRepository (path : String)
  | queryFailed (arguments : List String) (errors : String)
  | gitMissing
deriving DecidableEq, Repr

namespace Failure

def message : Failure → String
  | nullByte => "embedded null byte"
  | linkLoop path => s!"Symlink loop from {quoted path.text}"
  | missingPath path => s!"Path does not exist: {path.text}"
  | source error => error.message
  | configuration error => error.message
  | undecodable error => error.message
  | notRepository path => s!"Not a Git repository: {path}"
  | queryFailed arguments errors => s!"Git command failed: {spaceJoined arguments}\n{errors}"
  | gitMissing => "[Errno 2] No such file or directory: 'git'"

/-- Whether the input is at fault, and not the machine. -/
def isInvalidInput : Failure → Bool
  | gitMissing => false
  | _ => true

end Failure

def Session.resolve (session : Session) (path : Path) : Except Failure Path :=
  if path.hasNull then .error .nullByte
  else
    match session.store.tree.resolve session.directory path with
    | .ok place => .ok (fileAt place)
    | .error names => .error (.linkLoop (fileAt names))

abbrev Run (α : Type) := ExceptT Failure (StateM Session) α

namespace Run

def log (event : Event) : Run Unit := modify fun session => { session with events := session.events ++ [event] }

def resolve (path : Path) : Run Path := do (← get).resolve path

end Run
end Rethrow
