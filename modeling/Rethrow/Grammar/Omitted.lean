import Rethrow.Grammar.Scan

/-!
Semicolons that are left out. Where a block ends, the grammar looks for such a semicolon and counts it to the block;
comments that come before it then lie inside the block. Whether it stands before or behind a comment depends on the
dialect and on whether the block is part of an operand.
-/
set_option autoImplicit false

namespace Rethrow.Grammar.Omitted

def isBlank (char : Char) : Bool := isSpace char || isLineBreak char

inductive Passage where
  | refused
  | sameLine
  | passed
deriving DecidableEq, Repr

inductive Passing where
  | between
  | lineComment
  | blockOpening
  | blockComment (starred : Bool)

/-- Passes blanks and comments. Unless `all` is asked for, a block comment ends the passage; `broken` says that one
held a line break. -/
def pass (all : Bool) : Passing → Bool → List Char → Passage × List Char
  | _, _, [] => (.passed, [])
  | .between, broken, char :: rest =>
    if isBlank char then pass all .between broken rest
    else if char ≠ '/' then (.passed, char :: rest)
    else if rest.head? = some '/' then pass all .lineComment broken rest
    else if rest.head? = some '*' then pass all .blockOpening broken rest
    else (.refused, rest)
  | .lineComment, broken, char :: rest =>
    if isBreak char then pass all .between broken rest else pass all .lineComment broken rest
  | .blockOpening, broken, _ :: rest => pass all (.blockComment false) broken rest
  | .blockComment starred, broken, char :: rest =>
    if starred && char = '/' then
      if all || rest.head? = some '/' then pass all .between broken rest
      else (if broken then .passed else .sameLine, rest)
    else pass all (.blockComment (char = '*')) (broken || isBreak char) rest

def isOperatorWord (chars : List Char) : Bool :=
  let (word, _) := wordSpan false chars
  word = ['i', 'n'] || word = ['i', 'n', 's', 't', 'a', 'n', 'c', 'e', 'o', 'f']

def beginsStatement (typed operand : Bool) (chars : List Char) : Bool :=
  match chars with
  | '+' :: rest => rest.head? = some '+'
  | '-' :: rest => rest.head? = some '-'
  | '!' :: rest => rest.head? ≠ some '='
  | '.' :: rest => !typed && (rest.head?.map Char.isDigit).getD false
  | '(' :: _ | '[' :: _ => typed && !operand
  | char :: _ =>
    if ['`', ',', ':', ';', '*', '%', '>', '<', '=', '?', '^', '|', '&', '/'].contains char then false
    else !isOperatorWord chars
  | [] => true

def isHere (typed operand : Bool) : Nat → List Char → Bool
  | 0, _ => false
  | _, [] => true
  | bound + 1, char :: rest =>
    if char = '}' then !typed || (rest.dropWhile isBlank).head? ≠ some ':'
    else if isBreak char then
      match pass true .between false rest with
      | (.refused, _) => false
      | (_, after) => beginsStatement typed operand after
    else if isBlank char then isHere typed operand bound rest
    else if char = '/' && !typed then
      match pass false .between false (char :: rest) with
      | (.refused, _) => false
      | (passage, after) =>
        let ends := after.head? ≠ some ',' && after.head? ≠ some '='
        if passage = .passed && !operand && ends then true
        else if after.isEmpty || after.head? = some '/' then false
        else isHere typed operand bound after
    else false

def blockCommentSpan : Bool → Nat → List Char → Nat
  | _, count, [] => count
  | starred, count, char :: rest =>
    if starred && char = '/' then count + 1 else blockCommentSpan (char = '*') (count + 1) rest

def commentWidth? (chars : List Char) : Option Nat :=
  let blanks := (chars.takeWhile isBlank).length
  match chars.drop blanks with
  | '/' :: '/' :: rest => some (blanks + 2 + (rest.takeWhile fun char => !isBreak char).length)
  | '/' :: '*' :: rest => some (blockCommentSpan false (blanks + 2) rest)
  | _ => none

/-- Where the semicolon after a block stands, if one is left out: right at the end of the block, or behind one of the
comments that follow it. -/
def position? (typed operand : Bool) : Nat → Nat → List Char → Option Nat
  | 0, _, _ => none
  | bound + 1, position, chars =>
    if isHere typed operand (chars.length + 1) chars then some position
    else match commentWidth? chars with
      | some width => position? typed operand bound (position + width) (chars.drop width)
      | none => none

end Rethrow.Grammar.Omitted
