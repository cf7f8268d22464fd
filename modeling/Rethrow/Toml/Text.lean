/-!
Blanks, comments, texts and keys of a TOML document. Each reader takes the characters that follow and gives what it
read with the characters that are left, or nothing if they are not what it reads.
-/
set_option autoImplicit false

namespace Rethrow.Toml

abbrev Reader (α : Type) := List Char → Option (α × List Char)

def isSpace (char : Char) : Bool := char = ' ' || char = '\t'
def isGap (char : Char) : Bool := isSpace char || char = '\n'

def isControl (char : Char) : Bool := (char.toNat < 0x20 && char ≠ '\t') || char.toNat = 0x7F

def isBareKey (char : Char) : Bool := char.isAlphanum || char = '-' || char = '_'

def isHexDigit (char : Char) : Bool :=
  char.isDigit || ('a' ≤ char && char ≤ 'f') || ('A' ≤ char && char ≤ 'F')

def hexValue (char : Char) : Nat :=
  if char.isDigit then char.toNat - 48 else if char.toNat < 97 then char.toNat - 55 else char.toNat - 87

def skipSpaces (chars : List Char) : List Char := chars.dropWhile isSpace

def skipComment : List Char → Option (List Char)
  | '#' :: rest =>
    if (rest.takeWhile (· ≠ '\n')).any isControl then none else some (rest.dropWhile (· ≠ '\n'))
  | chars => some chars

/-- Skips blanks, line breaks and comments. Every round but the last skips something, so the number of characters
bounds the rounds. -/
def skipGaps : Nat → List Char → Option (List Char)
  | 0, chars => some chars
  | bound + 1, chars => do
    let rest ← skipComment (chars.dropWhile isGap)
    if rest.length = chars.length then return rest else skipGaps bound rest

def gapsSkipped (chars : List Char) : Option (List Char) := skipGaps chars.length chars

def scalar? (code : Nat) : Option Char :=
  if code < 0xD800 || (0xE000 ≤ code && code < 0x110000) then some (Char.ofNat code) else none

def readCode (count : Nat) : Reader Char := fun chars => do
  let digits := chars.take count
  guard (digits.length = count && digits.all isHexDigit)
  let char ← scalar? (digits.foldl (fun value digit => 16 * value + hexValue digit) 0)
  return (char, chars.drop count)

def shortEscape : Char → Option Char
  | 'b' => some '\x08'
  | 't' => some '\t'
  | 'n' => some '\n'
  | 'f' => some '\x0C'
  | 'r' => some '\r'
  | '"' => some '"'
  | '\\' => some '\\'
  | _ => none

def skipFold (chars : List Char) : Option (List Char) :=
  match skipSpaces chars with
  | [] => some []
  | '\n' :: rest => some (rest.dropWhile isGap)
  | _ :: _ => none

def readEscape (multiline : Bool) : Reader (List Char)
  | 'u' :: rest => (readCode 4 rest).map fun (char, rest) => ([char], rest)
  | 'U' :: rest => (readCode 8 rest).map fun (char, rest) => ([char], rest)
  | char :: rest =>
    if multiline && isGap char then (skipFold (char :: rest)).map fun rest => ([], rest)
    else (shortEscape char).map fun char => ([char], rest)
  | [] => none

def readBasic : Nat → Reader (List Char)
  | 0, _ => none
  | _ + 1, [] => none
  | _ + 1, '"' :: rest => some ([], rest)
  | bound + 1, '\\' :: rest => do
    let (piece, rest) ← readEscape false rest
    let (text, rest) ← readBasic bound rest
    return (piece ++ text, rest)
  | bound + 1, char :: rest => do
    guard !isControl char
    let (text, rest) ← readBasic bound rest
    return (char :: text, rest)

def readBasicLines : Nat → Reader (List Char)
  | 0, _ => none
  | _ + 1, [] => none
  | _ + 1, '"' :: '"' :: '"' :: rest => some ([], rest)
  | bound + 1, '\\' :: rest => do
    let (piece, rest) ← readEscape true rest
    let (text, rest) ← readBasicLines bound rest
    return (piece ++ text, rest)
  | bound + 1, char :: rest => do
    guard (char = '\n' || !isControl char)
    let (text, rest) ← readBasicLines bound rest
    return (char :: text, rest)

def readLiteral : Reader (List Char) := fun chars =>
  let text := chars.takeWhile (· ≠ '\'')
  match chars.drop text.length with
  | _ :: rest => if text.any isControl then none else some (text, rest)
  | [] => none

def readLiteralLines : Reader (List Char)
  | '\'' :: '\'' :: '\'' :: rest => some ([], rest)
  | char :: rest => do
    guard (char = '\n' || !isControl char)
    let (text, rest) ← readLiteralLines rest
    return (char :: text, rest)
  | [] => none

/-- The first line break of a text of several lines does not belong to it. -/
def dropBreak : List Char → List Char
  | '\n' :: rest => rest
  | chars => chars

/-- Up to two quotes before the closing three belong to the text. -/
def takeQuotes (quote : Char) (text : List Char) (rest : List Char) : List Char × List Char :=
  let extra := (rest.take 2).takeWhile (· = quote)
  (text ++ extra, rest.drop extra.length)

def readBasicText (chars : List Char) : Option (String × List Char) :=
  (readBasic (chars.length + 1) chars).map fun (text, rest) => (String.ofList text, rest)

def readLiteralText (chars : List Char) : Option (String × List Char) :=
  (readLiteral chars).map fun (text, rest) => (String.ofList text, rest)

def readText : Reader String
  | '"' :: '"' :: '"' :: rest =>
    let chars := dropBreak rest
    (readBasicLines (chars.length + 1) chars).map fun (text, rest) =>
      let (text, rest) := takeQuotes '"' text rest
      (String.ofList text, rest)
  | '\'' :: '\'' :: '\'' :: rest =>
    (readLiteralLines (dropBreak rest)).map fun (text, rest) =>
      let (text, rest) := takeQuotes '\'' text rest
      (String.ofList text, rest)
  | '"' :: rest => readBasicText rest
  | '\'' :: rest => readLiteralText rest
  | _ => none

def readName : Reader String
  | '"' :: rest => readBasicText rest
  | '\'' :: rest => readLiteralText rest
  | chars =>
    let name := chars.takeWhile isBareKey
    if name.isEmpty then none else some (String.ofList name, chars.drop name.length)

def readNames : Nat → Reader (List String)
  | 0, _ => none
  | bound + 1, chars => do
    let (name, rest) ← readName chars
    match skipSpaces rest with
    | '.' :: rest =>
      let (names, rest) ← readNames bound (skipSpaces rest)
      return (name :: names, rest)
    | rest => return ([name], rest)

def readKey (chars : List Char) : Option (List String × List Char) := readNames (chars.length + 1) chars

end Rethrow.Toml
