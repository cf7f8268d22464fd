import Rethrow.Grammar.Draft
import Rethrow.Grammar.Scan

/-!
Readers of a grammar. A reader takes a cursor and gives a result and the cursor after it, or fails. Readers do not
call each other in circles: where the grammar does, a reader asks for a `Goal` through `recur`, and the one function
that reads goals is defined by recursion on a bound (`Rethrow.Grammar.Program`). What a stroke, a brace or an angle
bracket begins depends on where it stands, so a reader may go on from any character.
-/
set_option autoImplicit false

namespace Rethrow.Grammar

structure Cursor where
  token : Token
  rest : List Char
  previous : Nat
deriving Repr

namespace Cursor

def resume (awaiting : Bool) (chars : List Char) (position : Nat) (fresh : Bool) : Cursor :=
  let gap := skipGap awaiting .blanks [] fresh position chars
  let (shape, width) := shapeOf gap.rest
  { token :=
      { shape, start := gap.position, stop := gap.position + width, fresh := gap.fresh, remarks := gap.remarks
        source := gap.rest }
    rest := gap.rest.drop width
    previous := position }

def skipInterpreter : List Char → List Char
  | '#' :: '!' :: rest => rest.dropWhile fun char => !isLineBreak char
  | chars => chars

def start (chars : List Char) : Cursor :=
  let body := match chars with
    | '\uFEFF' :: rest => skipInterpreter rest
    | _ => skipInterpreter chars
  resume true body (chars.length - body.length) true

def advance (cursor : Cursor) : Cursor := resume cursor.token.shape.awaits cursor.rest cursor.token.stop false

def advanceBy (cursor : Cursor) (awaiting : Bool) (width : Nat) : Cursor :=
  resume awaiting (cursor.token.source.drop width) (cursor.token.start + width) false

end Cursor

structure Context where
  allowIn : Bool := true
  /-- A colon comes after the expression, as between the branches of a choice. -/
  branch : Bool := false
deriving DecidableEq, Repr

inductive Goal where
  | statement
  | assignment (context : Context)
  | unary
  | construction
  | pattern
  | type
  | element
deriving DecidableEq, Repr

structure Environment where
  dialect : Dialect
  bound : Nat
  recur : Goal → Cursor → Option (Draft × Cursor)

abbrev Parse (α : Type) := ReaderT Environment (StateT Cursor Option) α

section
variable {α σ : Type}

def recur (goal : Goal) : Parse Draft := fun environment cursor => environment.recur goal cursor

def hasTypes : Parse Bool := return (← read).dialect.hasTypes
def hasMarkup : Parse Bool := return (← read).dialect.hasMarkup

def token : Parse Token := return (← get).token
def here : Parse Nat := return (← token).start
def fresh : Parse Bool := return (← token).fresh
def advance : Parse Unit := modify Cursor.advance
def remarks : Parse (List Draft) :=
  return (← token).remarks.map fun ⟨start, stop⟩ => .mk .other none start (stop - start) []
def sees (sign : Punct) : Parse Bool := return (← token).is sign
def seesWord (text : String) : Parse Bool := return (← token).isWord text

def following : Parse Token := return (← get).advance.token

def accept (sign : Punct) : Parse Bool := do
  let found ← sees sign
  if found then advance
  return found

def acceptWord (text : String) : Parse Bool := do
  let found ← seesWord text
  if found then advance
  return found

def expect (sign : Punct) : Parse Unit := do
  guard (← accept sign)

def expectWord (text : String) : Parse Unit := do
  guard (← acceptWord text)

def expectName : Parse Unit := do
  guard (← token).isName
  advance

def attempt (parse : Parse α) : Parse (Option α) := (some <$> parse) <|> pure none

def rounds (round : σ → Parse (Bool × σ)) : Nat → σ → Parse σ
  | 0, _ => failure
  | bound + 1, state => do
    let (more, state) ← round state
    if more then rounds round bound state else return state

def repeating (round : σ → Parse (Bool × σ)) (state : σ) : Parse σ := do
  rounds round (← read).bound state

def whileHolds (go : Parse Bool) (item : Parse (List Draft)) : Parse (List Draft) :=
  repeating (fun drafts => do
    if ← go then return (true, drafts ++ (← item)) else return (false, drafts)) []

def commaList (close : Punct) (item : Parse (List Draft)) : Parse (List Draft) := do
  let drafts ← repeating (fun drafts => do
    let drafts := drafts ++ (← remarks)
    if ← sees close then return (false, drafts)
    let drafts := drafts ++ (← item)
    return (← accept .comma, drafts)) []
  expect close
  return drafts

def node (kind : Kind) (start : Nat) (parts : List Draft) : Parse Draft := do
  return .mk kind none start ((← get).previous - start) parts

def leaf (kind : Kind) : Parse Draft := do
  let start ← here
  advance
  node kind start []

def endStatement : Parse Unit := do
  unless ← accept .semicolon do
    let next ← token
    guard (next.fresh || next.is .rightBrace || next.shape = .finish)

end

def closeHead : Parse Unit := do
  guard (← sees .rightParen)
  modify (·.advanceBy true 1)

def templateStretch : Parse Bool := do
  let cursor ← get
  let some (ending, width) := templateSpan 0 cursor.rest | failure
  set (Cursor.resume (ending = .substitution) (cursor.rest.drop width) (cursor.token.stop + width) false)
  return ending = .substitution

def template (hole : Parse (List Draft)) : Parse Draft := do
  let start ← here
  guard ((← token).shape = .template)
  let parts ← repeating (fun parts => do
    if ← templateStretch then
      let parts := parts ++ (← hole)
      guard (← sees .rightBrace)
      return (true, parts)
    else return (false, parts)) []
  node .other start parts

def regex : Parse Draft := do
  let start ← here
  let source := (← token).source
  let some width := regexSpan false 1 (source.drop 1) | failure
  let (flags, _) := wordSpan false (source.drop width)
  modify (·.advanceBy false (width + flags.length))
  node .other start []

end Rethrow.Grammar
