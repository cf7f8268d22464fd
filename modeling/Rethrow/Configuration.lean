import Rethrow.Session
import Rethrow.Toml.Document

/-!
Settings from a configuration file: a file of their own, or a section of the project's file.
-/
set_option autoImplicit false

namespace Rethrow.Configuration

def ownName : String := "causelint.toml"
def projectName : String := "pyproject.toml"

def section? (path : Path) (document : Value) : Except ConfigurationError (Option Value) :=
  match ((document.table?.getD []).lookup "tool").getD (.table []) with
  | .table tools =>
    match tools.lookup "causelint" with
    | none => .ok none
    | some (.table entries) => .ok (some (.table entries))
    | some _ => .error (.sectionNotTable path)
  | _ => .error (.toolNotTable path)

def ofDocument (path : Path) (document : Value) : Except ConfigurationError (Option Settings) := do
  let found ← if path.name = projectName then section? path document else .ok (some document)
  match found with
  | none => return none
  | some table => return some (← (Settings.ofTable table).mapError (.invalid path))

def ofBytes (path : Path) (bytes : Bytes) : Except Failure (Option Settings) :=
  match Utf8.decode bytes with
  | .error error => .error (.undecodable error)
  | .ok text =>
    match Toml.parse text with
    | none => .error (.configuration (.unreadable path))
    | some document => (ofDocument path document).mapError .configuration

def firstOf : List Path → Run Settings
  | [] => return {}
  | path :: rest => do
    match (← get).content? path with
    | none => firstOf rest
    | some bytes =>
      match ← ofBytes path bytes with
      | none => firstOf rest
      | some settings =>
        Run.log (.configLoaded path.text)
        return settings

def candidates (root : Path) : Option Path → List Path
  | none => [ownName, projectName].map fun name => root.join (.ofText name)
  | some path => [path]

/-- A file that is named must be there, and is the only one that is read. -/
def load (root : Path) (explicit : Option Path) : Run Settings := do
  if let some path := explicit then
    if ((← get).content? path).isNone then throw (.configuration (.missing path))
  firstOf (candidates root explicit)

end Rethrow.Configuration
