import Rethrow.Syntax
import Rethrow.Text.Basic

/-!
What the analysis looks for and where, and the values of a configuration file that say so.
-/
set_option autoImplicit false

namespace Rethrow

inductive Value where
  | text (content : String)
  | list (items : List Value)
  | table (entries : List (String × Value))
  /-- A number, a truth value or a date: no option takes one. -/
  | atom
deriving Repr, Inhabited

namespace Value

def text? : Value → Option String
  | text content => some content
  | _ => none

def list? : Value → Option (List Value)
  | list items => some items
  | _ => none

def table? : Value → Option (List (String × Value))
  | table entries => some entries
  | _ => none

def nonEmptyText? (value : Value) : Option String := value.text?.filter (· ≠ "")

def texts? (value : Value) : Option (List String) := value.list?.bind (·.mapM nonEmptyText?)

end Value

structure Settings where
  constructors : List String := ["Error"]
  extensions : List String := Dialect.supported
  excluded : List String := ["node_modules", "dist", "build", "coverage"]
deriving DecidableEq, Repr, Inhabited

namespace Settings

def addName (names : List String) (name : String) : List String :=
  if name ∈ names then names else names ++ [name]

def withConstructors (settings : Settings) (names : List String) : Settings :=
  { settings with constructors := names.foldl addName settings.constructors }

def optionNames : List String := ["error-constructors", "extensions", "exclude-dirs"]

inductive Fault where
  | notTable
  | unknownOptions (names : List String)
  | notTexts (name : String)
  | unsupported (extensions : List String)
deriving DecidableEq, Repr

def readOptions : List (String × Value) → Except Fault (List (String × List String))
  | [] => .ok []
  | (name, value) :: rest => do
    let some texts := value.texts? | throw (.notTexts name)
    return (name, texts) :: (← readOptions rest)

def unknownNames (entries : List (String × Value)) : List String :=
  ((entries.map (·.1)).filter (· ∉ optionNames)).eraseDups.mergeSort fun a b => !decide (b < a)

def unsupportedIn (extensions : List String) : List String :=
  extensions.filter fun extension => lower extension ∉ Dialect.supported

/-- Settings from a table. Named constructors are added to the default; the other options replace it. -/
def ofTable (value : Value) : Except Fault Settings := do
  let some entries := value.table? | throw .notTable
  let unknown := unknownNames entries
  unless unknown.isEmpty do throw (.unknownOptions unknown)
  let options ← readOptions entries
  let unsupported := unsupportedIn ((options.lookup "extensions").getD [])
  unless unsupported.isEmpty do throw (.unsupported unsupported)
  let defaults : Settings := {}
  let settings : Settings :=
    { extensions := (options.lookup "extensions").getD defaults.extensions
      excluded := (options.lookup "exclude-dirs").getD defaults.excluded }
  return settings.withConstructors ((options.lookup "error-constructors").getD [])

def Fault.message (source : String) : Fault → String
  | notTable => s!"{source}: causelint configuration must be a table"
  | unknownOptions names => s!"{source}: unknown option(s): {commaJoined names}"
  | notTexts name => s!"{source}: '{name}' must be a list of non-empty strings"
  | unsupported extensions => s!"{source}: unsupported extension(s): {commaJoined extensions}"

end Settings
end Rethrow
