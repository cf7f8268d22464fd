import Rethrow.Toml.Atom
import Rethrow.Settings

/-!
TOML documents. A document is read one statement after another into a table; beside the table stand the keys that may
no longer be opened by a header, and the keys of values written in place, below which nothing may be added.
-/
set_option autoImplicit false

namespace Rethrow.Toml

abbrev Entries := List (String × Value)
abbrev Key := List String

def setEntry (name : String) (value : Value) : Entries → Entries
  | [] => [(name, value)]
  | entry :: rest => if entry.1 = name then (name, value) :: rest else entry :: setEntry name value rest

/-- Changes the table at a key, with the tables on the way made where they are missing. An array of tables stands for
its last one, if `throughArrays`. -/
def update (throughArrays : Bool) (change : Entries → Option Entries) : Key → Entries → Option Entries
  | [], entries => change entries
  | name :: rest, entries => do
    let value ← match entries.lookup name with
      | none => (update throughArrays change rest []).map Value.table
      | some (.table inner) => (update throughArrays change rest inner).map Value.table
      | some (.list items) =>
        match throughArrays, items.getLast? with
        | true, some (.table inner) =>
          (update throughArrays change rest inner).map fun inner => Value.list (items.dropLast ++ [.table inner])
        | _, _ => none
      | some _ => none
    return setEntry name value entries

def addEntry (name : String) (value : Value) (entries : Entries) : Option Entries :=
  if (entries.lookup name).isSome then none else some (entries ++ [(name, value)])

def addTable (name : String) (entries : Entries) : Option Entries :=
  match entries.lookup name with
  | none => some (entries ++ [(name, .list [.table []])])
  | some (.list items) => some (setEntry name (.list (items ++ [.table []])) entries)
  | some _ => none

def splitKey (key : Key) : Key × String := (key.dropLast, key.getLast?.getD "")

def insert (throughArrays : Bool) (key : Key) (value : Value) (entries : Entries) : Option Entries :=
  update throughArrays (addEntry (splitKey key).2 value) (splitKey key).1 entries

def isFixed (fixed : List Key) (key : Key) : Bool := fixed.any (·.isPrefixOf key)

def isInPlace : Value → Bool
  | .list _ | .table _ => true
  | _ => false

mutual

/-- Reads a value. Each call is made with a smaller bound; twice the number of characters is enough. -/
def readValue : Nat → Reader Value
  | 0, _ => none
  | bound + 1, '[' :: rest => do
    let rest ← gapsSkipped rest
    match rest with
    | ']' :: rest => return (.list [], rest)
    | rest =>
      let (items, rest) ← readItems bound rest
      return (.list items, rest)
  | bound + 1, '\x7b' :: rest =>
    match skipSpaces rest with
    | '\x7d' :: rest => some (.table [], rest)
    | rest => (readPairs bound [] [] rest).map fun (entries, rest) => (.table entries, rest)
  | _ + 1, '"' :: rest => (readText ('"' :: rest)).map fun (text, rest) => (.text text, rest)
  | _ + 1, '\'' :: rest => (readText ('\'' :: rest)).map fun (text, rest) => (.text text, rest)
  | _ + 1, chars => (skipAtom chars).map fun rest => (.atom, rest)

def readItems : Nat → Reader (List Value)
  | 0, _ => none
  | bound + 1, chars => do
    let (item, rest) ← readValue bound chars
    let rest ← gapsSkipped rest
    match rest with
    | ']' :: rest => return ([item], rest)
    | ',' :: rest =>
      let rest ← gapsSkipped rest
      match rest with
      | ']' :: rest => return ([item], rest)
      | rest =>
        let (items, rest) ← readItems bound rest
        return (item :: items, rest)
    | _ => none

def readPairs : Nat → Entries → List Key → Reader Entries
  | 0, _, _, _ => none
  | bound + 1, entries, fixed, chars => do
    let (key, rest) ← readKey chars
    let rest ← skipMark '=' rest
    let (value, rest) ← readValue bound (skipSpaces rest)
    guard !isFixed fixed key
    let entries ← insert false key value entries
    match skipSpaces rest with
    | '\x7d' :: rest => return (entries, rest)
    | ',' :: rest => readPairs bound entries (if isInPlace value then key :: fixed else fixed) (skipSpaces rest)
    | _ => none

end

structure State where
  entries : Entries := []
  /-- The table that the entries after a header belong to. -/
  header : Key := []
  /-- Keys that no header may open again. -/
  closed : List Key := []
  /-- Keys that are closed when the next header comes. -/
  closing : List Key := []
  /-- Keys of values written in place. -/
  fixed : List Key := []
deriving Repr, Inhabited

namespace State

def openTable (state : State) (key : Key) : Option State := do
  let closed := state.closing ++ state.closed
  guard (key ∉ closed && !isFixed state.fixed key)
  let entries ← update true some key state.entries
  return { state with entries, header := key, closed := key :: closed, closing := [] }

/-- The header of one more table of an array. What was said of the table before it is forgotten. -/
def openItem (state : State) (key : Key) : Option State := do
  guard !isFixed state.fixed key
  let closed := (state.closing ++ state.closed).filter fun other => !key.isPrefixOf other
  let fixed := state.fixed.filter fun other => !key.isPrefixOf other
  let entries ← update true (addTable (splitKey key).2) (splitKey key).1 state.entries
  return { entries, header := key, closed := key :: closed, closing := [], fixed }

def passed (key : Key) : List Key := (List.range (key.length - 1)).map fun i => key.take (i + 1)

def addValue (state : State) (key : Key) (value : Value) : Option State := do
  let inner := (passed key).map (state.header ++ ·)
  guard (inner.all (· ∉ state.closed))
  guard !isFixed state.fixed (state.header ++ (splitKey key).1)
  let entries ← insert true (state.header ++ key) value state.entries
  let fixed := if isInPlace value then (state.header ++ key) :: state.fixed else state.fixed
  return { state with entries, closing := inner ++ state.closing, fixed }

end State

def readHeader (state : State) : Reader State
  | '[' :: '[' :: rest => do
    let (key, rest) ← readKey (skipSpaces rest)
    let rest ← skipWord "]]" rest
    return (← state.openItem key, rest)
  | '[' :: rest => do
    let (key, rest) ← readKey (skipSpaces rest)
    let rest ← skipWord "]" rest
    return (← state.openTable key, rest)
  | _ => none

def readEntry (state : State) : Reader State := fun chars => do
  let (key, rest) ← readKey chars
  let rest ← skipMark '=' rest
  let rest := skipSpaces rest
  let (value, rest) ← readValue (2 * rest.length + 2) rest
  return (← state.addValue key value, rest)

def startsKey (char : Char) : Bool := isBareKey char || char = '"' || char = '\''

def readStatement (state : State) : Reader State
  | '[' :: rest => readHeader state ('[' :: rest)
  | char :: rest => if startsKey char then readEntry state (char :: rest) else some (state, char :: rest)
  | [] => some (state, [])

def readLines : Nat → State → List Char → Option State
  | 0, _, _ => none
  | bound + 1, state, chars => do
    let (state, rest) ← readStatement state (skipSpaces chars)
    let rest ← skipComment (skipSpaces rest)
    match rest with
    | [] => return state
    | '\n' :: rest => readLines bound state rest
    | _ => none

def joinBreaks : List Char → List Char
  | '\r' :: '\n' :: rest => '\n' :: joinBreaks rest
  | char :: rest => char :: joinBreaks rest
  | [] => []

def parse (text : String) : Option Value :=
  let chars := joinBreaks text.toList
  (readLines (chars.length + 1) {} chars).map fun state => .table state.entries

end Rethrow.Toml
