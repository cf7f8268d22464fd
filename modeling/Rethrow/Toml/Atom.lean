import Rethrow.Toml.Text

/-!
Numbers, truth values, dates and times of a TOML document. Only how far they reach and whether they are well formed
matters: no option takes one. A reader without a result gives the characters that are left.
-/
set_option autoImplicit false

namespace Rethrow.Toml

abbrev Skip := List Char → Option (List Char)

def skipChar (accepts : Char → Bool) : Skip
  | char :: rest => if accepts char then some rest else none
  | [] => none

def optionally (skip : Skip) (chars : List Char) : List Char := (skip chars).getD chars

def either (first second : Skip) : Skip := fun chars => (first chars).orElse fun _ => second chars

def skipDigits (isDigit : Char → Bool) : List Char → List Char
  | '_' :: char :: rest => if isDigit char then skipDigits isDigit rest else '_' :: char :: rest
  | char :: rest => if isDigit char then skipDigits isDigit rest else char :: rest
  | [] => []

def skipNumber (isDigit : Char → Bool) : Skip := fun chars => (skipChar isDigit chars).map (skipDigits isDigit)

def skipRadix : Skip
  | '0' :: 'x' :: rest => skipNumber isHexDigit rest
  | '0' :: 'b' :: rest => skipNumber (fun char => char = '0' || char = '1') rest
  | '0' :: 'o' :: rest => skipNumber (fun char => '0' ≤ char && char ≤ '7') rest
  | _ => none

def isSign (char : Char) : Bool := char = '+' || char = '-'

def skipWhole : Skip
  | '0' :: rest => some rest
  | chars => skipNumber Char.isDigit chars

def skipFraction : Skip
  | '.' :: rest => skipNumber Char.isDigit rest
  | _ => none

def skipExponent : Skip := fun chars => do
  let rest ← skipChar (fun char => char = 'e' || char = 'E') chars
  skipNumber Char.isDigit (optionally (skipChar isSign) rest)

def skipDecimal : Skip := fun chars =>
  (skipWhole (optionally (skipChar isSign) chars)).map fun rest =>
    optionally skipExponent (optionally skipFraction rest)

def skipWord (word : String) : Skip := fun chars =>
  if word.toList.isPrefixOf chars then some (chars.drop word.length) else none

def skipSpecial : Skip := fun chars =>
  either (skipWord "inf") (skipWord "nan") (optionally (skipChar isSign) chars)

def readFixed (count least most : Nat) : Reader Nat := fun chars => do
  let digits := chars.take count
  guard (digits.length = count && digits.all Char.isDigit)
  let value := digits.foldl (fun value digit => 10 * value + (digit.toNat - 48)) 0
  guard (least ≤ value && value ≤ most)
  return (value, chars.drop count)

def skipFixed (count least most : Nat) : Skip := fun chars => (readFixed count least most chars).map (·.2)

def skipMark (mark : Char) : Skip := skipChar (· = mark)

def skipSecondPart : Skip
  | '.' :: char :: rest => if char.isDigit then some (rest.dropWhile Char.isDigit) else none
  | _ => none

def skipTime : Skip := fun chars => do
  let rest ← skipFixed 2 0 23 chars
  let rest ← skipMark ':' rest
  let rest ← skipFixed 2 0 59 rest
  let rest ← skipMark ':' rest
  let rest ← skipFixed 2 0 59 rest
  return optionally skipSecondPart rest

def skipOffset : Skip := fun chars =>
  either (skipChar fun char => char = 'Z' || char = 'z')
    (fun chars => do
      let rest ← skipChar isSign chars
      let rest ← skipFixed 2 0 23 rest
      let rest ← skipMark ':' rest
      skipFixed 2 0 59 rest) chars

def skipClock : Skip := fun chars => do
  let rest ← skipChar (fun char => char = 'T' || char = 't' || char = ' ') chars
  let rest ← skipTime rest
  return optionally skipOffset rest

structure Date where
  year : Nat
  month : Nat
  day : Nat
deriving DecidableEq, Repr

namespace Date

def isLeap (year : Nat) : Bool := (year % 4 = 0 && year % 100 ≠ 0) || year % 400 = 0

def daysIn (year month : Nat) : Nat :=
  if month = 2 then if isLeap year then 29 else 28
  else if month ∈ [4, 6, 9, 11] then 30 else 31

def isValid (date : Date) : Bool := 1 ≤ date.year && date.day ≤ daysIn date.year date.month

end Date

def readDate : Reader Date := fun chars => do
  let (year, rest) ← readFixed 4 0 9999 chars
  let rest ← skipMark '-' rest
  let (month, rest) ← readFixed 2 1 12 rest
  let rest ← skipMark '-' rest
  let (day, rest) ← readFixed 2 1 31 rest
  return (⟨year, month, day⟩, rest)

/-- A number, a truth value, a date or a time. A date must be a day of the calendar. -/
def skipAtom : Skip := fun chars =>
  match readDate chars with
  | some (date, rest) => if date.isValid then some (optionally skipClock rest) else none
  | none =>
    [skipWord "true", skipWord "false", skipTime, skipRadix, skipDecimal, skipSpecial].firstM fun skip => skip chars

end Rethrow.Toml
