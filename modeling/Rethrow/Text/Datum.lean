import Rethrow.Text.Basic

/-!
Texts in quotes, and data as JSON on one line or with one item to a line. JSON has escapes for all characters outside
ASCII, those past the basic plane as a pair of surrogates.
-/
set_option autoImplicit false

namespace Rethrow.Quoted

def hex (width n : Nat) : String :=
  let digits := Nat.toDigits 16 n
  String.ofList (List.replicate (width - digits.length) '0' ++ digits)

def escape (quote char : Char) : String :=
  if char = quote || char = '\\' then String.ofList ['\\', char]
  else if char = '\n' then "\\n"
  else if char = '\r' then "\\r"
  else if char = '\t' then "\\t"
  else if isPrintable char then String.singleton char
  else if char.toNat < 0x100 then "\\x" ++ hex 2 char.toNat
  else if char.toNat < 0x10000 then "\\u" ++ hex 4 char.toNat
  else "\\U" ++ hex 8 char.toNat

def quoteFor (text : String) : Char :=
  if text.toList.contains '\'' && !text.toList.contains '"' then '"' else '\''

end Rethrow.Quoted

namespace Rethrow

def quoted (text : String) : String :=
  let quote := Quoted.quoteFor text
  let mark := String.singleton quote
  mark ++ String.join (text.toList.map (Quoted.escape quote)) ++ mark

inductive Datum where
  | null
  | number (value : Int)
  | text (content : String)
  | list (items : List Datum)
  | record (fields : List (String × Datum))
deriving Repr, Inhabited

namespace Datum

def unit16 (code : Nat) : String := "\\u" ++ Quoted.hex 4 code

def escape (char : Char) : String :=
  let code := char.toNat
  if char = '"' then "\\\""
  else if char = '\\' then "\\\\"
  else if char = '\n' then "\\n"
  else if char = '\r' then "\\r"
  else if char = '\t' then "\\t"
  else if code = 0x0C then "\\f"
  else if code = 0x08 then "\\b"
  else if 0x20 ≤ code && code < 0x7F then String.singleton char
  else if code < 0x10000 then unit16 code
  else unit16 (0xD800 + (code - 0x10000) / 0x400) ++ unit16 (0xDC00 + (code - 0x10000) % 0x400)

def writeText (text : String) : String := "\"" ++ String.join (text.toList.map escape) ++ "\""

def brackets (body : String) : String := "[" ++ body ++ "]"
def braces (body : String) : String := "\x7b" ++ body ++ "\x7d"

mutual
def compact : Datum → String
  | null => "null"
  | number value => toString value
  | text content => writeText content
  | list items => brackets (commaJoined (compactItems items))
  | record fields => braces (commaJoined (compactFields fields))

def compactItems : List Datum → List String
  | [] => []
  | item :: rest => compact item :: compactItems rest

def compactFields : List (String × Datum) → List String
  | [] => []
  | (name, value) :: rest => (writeText name ++ ": " ++ compact value) :: compactFields rest
end

def newLine (depth : Nat) : String := String.ofList ('\n' :: List.replicate (2 * depth) ' ')

def spread (depth : Nat) (items : List String) : String :=
  if items.isEmpty then ""
  else newLine (depth + 1) ++ String.intercalate ("," ++ newLine (depth + 1)) items ++ newLine depth

mutual
def indented (depth : Nat) : Datum → String
  | null => "null"
  | number value => toString value
  | text content => writeText content
  | list items => brackets (spread depth (indentedItems (depth + 1) items))
  | record fields => braces (spread depth (indentedFields (depth + 1) fields))

def indentedItems (depth : Nat) : List Datum → List String
  | [] => []
  | item :: rest => indented depth item :: indentedItems depth rest

def indentedFields (depth : Nat) : List (String × Datum) → List String
  | [] => []
  | (name, value) :: rest => (writeText name ++ ": " ++ indented depth value) :: indentedFields depth rest
end

end Datum
end Rethrow
