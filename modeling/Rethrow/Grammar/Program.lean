import Rethrow.Grammar.Expression

/-!
Statements and whole programs. `readGoal` ties the readers of the grammar together by recursion on a bound that grows
with the text: a goal is asked for only a few times between two tokens. A statement that cannot be read is passed over
token by token.
-/
set_option autoImplicit false

namespace Rethrow.Grammar

def condition : Parse Draft := do
  expect .leftParen
  let inner ← expression
  closeHead
  return inner

def statement : Parse Draft := recur .statement

def declaratorRest (context : Context) : Parse (List Draft) := do
  if ← hasTypes then discard (accept .bang)
  annotation?
  initializer? context

def declarator (context : Context) : Parse (List Draft) := do
  let target ← recur .pattern
  return target :: (← declaratorRest context)

def moreDeclarators (context : Context) : Parse (List Draft) :=
  whileHolds (sees .comma) (do
    advance
    declarator context)

def variableList : Parse Draft := do
  let start ← here
  advance
  let first ← declarator {}
  let rest ← moreDeclarators {}
  endStatement
  node .other start (first ++ rest)

def seesVariables : Parse Bool := do
  let after ← following
  let named := startsParameter after && !after.isWord "in" && !after.isWord "instanceof"
  return (← seesWord "var") || (← seesWord "const") || ((← seesWord "let") && named)

def ifStatement : Parse Draft := do
  let start ← here
  advance
  let test ← condition
  let yes ← statement
  if ← acceptWord "else" then
    let no ← statement
    node .other start [test, yes, no]
  else node .other start [test, yes]

def whileStatement : Parse Draft := do
  let start ← here
  advance
  let test ← condition
  let body ← statement
  node .other start [test, body]

/-- The semicolon after the condition may always be left out. -/
def doStatement : Parse Draft := do
  let start ← here
  advance
  let body ← statement
  expectWord "while"
  let test ← condition
  discard (accept .semicolon)
  node .other start [body, test]

def loopOver : Parse (Option Draft) := do
  if (← seesWord "of") || (← seesWord "in") then
    advance
    some <$> expression
  else return none

def optionalBefore (sign : Punct) : Parse (List Draft) := do
  if ← sees sign then return [] else return [← expression]

def forRest (parts : List Draft) : Parse (List Draft) := do
  match ← loopOver with
  | some range =>
    closeHead
    return parts ++ [range]
  | none =>
    expect .semicolon
    let test ← optionalBefore .semicolon
    expect .semicolon
    let step ← optionalBefore .rightParen
    closeHead
    return parts ++ test ++ step

def forHead : Parse (List Draft) := do
  expect .leftParen
  if ← seesVariables then
    advance
    let first ← declarator { allowIn := false }
    let rest ← moreDeclarators { allowIn := false }
    forRest (first ++ rest)
  else if ← sees .semicolon then forRest []
  else
    let first ← expressionIn { allowIn := false }
    forRest [first]

def forStatement : Parse Draft := do
  let start ← here
  advance
  discard (acceptWord "await")
  let head ← forHead
  let body ← statement
  node .other start (head ++ [body])

def switchStatement : Parse Draft := do
  let start ← here
  advance
  let test ← condition
  expect .leftBrace
  let parts ← whileHolds (return !(← sees .rightBrace)) (do
    if ← acceptWord "case" then
      let label ← expression
      expect .colon
      return [label]
    else if (← seesWord "default") && (← following).is .colon then
      advance
      advance
      return []
    else return [← statement])
  expect .rightBrace
  node .other start (test :: parts)

def catchParameter : Parse (List Draft) := do
  if ← accept .leftParen then
    let parameter ← recur .pattern
    annotation?
    expect .rightParen
    return [parameter.withRole .parameter]
  else return []

def catchClause : Parse Draft := do
  let start ← here
  expectWord "catch"
  let parameter ← catchParameter
  let body ← block
  node .catchClause start (parameter ++ [body.withRole .body])

def tryStatement : Parse Draft := do
  let start ← here
  advance
  let body ← block
  let handler ← if ← seesWord "catch" then pure [← catchClause] else pure []
  let finalizer ← if ← acceptWord "finally" then pure [← block] else pure []
  node .other start (body :: handler ++ finalizer)

def wordStatement (kind : Kind) : Parse Draft := do
  let start ← here
  advance
  let next ← token
  let ends := next.fresh || next.is .semicolon || next.is .rightBrace || next.shape = .finish
  let parts ← if ends then pure [] else pure [← expression]
  endStatement
  node kind start parts

def nameList : Parse Unit := do
  expect .leftBrace
  discard (whileHolds (return !(← sees .rightBrace)) (do
    guard ((← token).shape ≠ .finish)
    advance
    return []))
  expect .rightBrace

def importAttributes : Parse Unit := do
  if ((← seesWord "with") || (← seesWord "assert")) && (← following).is .leftBrace then
    advance
    nameList

def fromModule : Parse Unit := do
  expectWord "from"
  guard ((← token).shape = .string)
  advance
  importAttributes

def importClause : Parse Unit :=
  discard (whileHolds
    (return !((← seesWord "from") && (← following).shape = .string) && !(← sees .equals))
    (do
      if ← sees .leftBrace then nameList
      else
        guard ((← token).isName || (← sees .comma) || (← sees .star) || (← token).shape = .string)
        advance
      return []))

def importStatement : Parse Draft := do
  let start ← here
  advance
  if (← token).shape = .string then
    advance
    importAttributes
    endStatement
    node .other start []
  else
    importClause
    if ← accept .equals then
      let value ← recur (.assignment {})
      endStatement
      node .other start [value]
    else
      fromModule
      endStatement
      node .other start []

def seesDeclaration : Parse Bool := do
  let after ← following
  return (← seesWord "function") || (← seesWord "class") ||
    ((← seesWord "async") && after.isWord "function" && !after.fresh) ||
    ((← hasTypes) && (((← seesWord "abstract") && after.isWord "class") ||
      ((← seesWord "interface") && after.isName && !after.fresh)))

def exportDefault (start : Nat) (marks : List Draft) : Parse Draft := do
  if (← seesDeclaration) || (← sees .at) then
    let inner ← statement
    node .other start (marks ++ [inner])
  else
    let value ← recur (.assignment {})
    endStatement
    node .other start (marks ++ [value])

def exportNames (start : Nat) : Parse Draft := do
  if (← seesWord "type") then advance
  if ← accept .star then
    if ← acceptWord "as" then advance
    fromModule
  else
    nameList
    if ← seesWord "from" then fromModule
  endStatement
  node .other start []

def exportStatement (start : Nat) (marks : List Draft) : Parse Draft := do
  advance
  let next ← token
  let after ← following
  if ← acceptWord "default" then exportDefault start marks
  else if ← accept .equals then
    let value ← expression
    endStatement
    node .other start [value]
  else if next.isWord "as" && after.isWord "namespace" then
    advance
    advance
    expectName
    endStatement
    node .other start []
  else if next.is .star || next.is .leftBrace ||
      (next.isWord "type" && (after.is .leftBrace || after.is .star)) then exportNames start
  else
    let inner ← statement
    node .other start (marks ++ [inner])

def interfaceStatement : Parse Draft := do
  let start ← here
  advance
  expectName
  typeParameters?
  if ← acceptWord "extends" then typeList
  objectType
  node .other start []

def typeAlias : Parse Draft := do
  let start ← here
  advance
  expectName
  typeParameters?
  expect .equals
  type
  endStatement
  node .other start []

def enumFrom (start : Nat) : Parse Draft := do
  expectWord "enum"
  expectName
  expect .leftBrace
  let parts ← commaList .rightBrace (do
    let name ← key
    return name :: (← initializer? {}))
  node .other start parts

def namespaceStatement : Parse Draft := do
  let start ← here
  advance
  if (← token).shape = .string then advance
  else
    expectName
    dottedRest
  if ← sees .leftBrace then
    let body ← block
    node .other start [body]
  else
    endStatement
    node .other start []

def declareStatement : Parse Draft := do
  let start ← here
  advance
  if (← seesWord "global") && (← following).is .leftBrace then
    advance
    let body ← block
    node .other start [body]
  else
    let inner ← statement
    node .other start [inner]

def expressionStatement : Parse Draft := do
  let start ← here
  let inner ← expression
  endStatement
  node .other start [inner]

def labeled : Parse Draft := do
  let start ← here
  advance
  advance
  let inner ← statement
  node .other start [inner]

def classStatement (start : Nat) (marks : List Draft) : Parse Draft := do
  discard (acceptWord "abstract")
  classFrom start marks (recur .unary)

def decorated : Parse Draft := do
  let start ← here
  let marks ← decorators
  if ← seesWord "export" then exportStatement start marks else classStatement start marks

def typedStatement? : Parse (Option (Parse Draft)) := do
  unless ← hasTypes do return none
  let next ← token
  let after ← following
  let named := after.isName && !after.fresh
  match next.shape with
  | .word "interface" => return if named then some interfaceStatement else none
  | .word "type" => return if named then some typeAlias else none
  | .word "enum" => return some (enumFrom next.start)
  | .word "const" => return if after.isWord "enum" then some (do advance; enumFrom next.start) else none
  | .word "namespace" | .word "module" =>
    return if named || (after.shape = .string && !after.fresh) then some namespaceStatement else none
  | .word "declare" => return if named then some declareStatement else none
  | .word "abstract" => return if after.isWord "class" then some (classStatement next.start []) else none
  | _ => return none

def plainStatement : Parse Draft := do
  let next ← token
  let after ← following
  match next.shape with
  | .punct .leftBrace => block
  | .punct .semicolon => leaf .other
  | .punct .at => decorated
  | .word text =>
    if after.is .colon && !reserved.contains text then labeled
    else if ← seesVariables then variableList
    else match text with
      | "if" => ifStatement
      | "for" => forStatement
      | "while" | "with" => whileStatement
      | "do" => doStatement
      | "switch" => switchStatement
      | "try" => tryStatement
      | "throw" => wordStatement .throwStatement
      | "return" | "break" | "continue" | "debugger" => wordStatement .other
      | "function" => functionFrom false next.start
      | "async" =>
        if after.isWord "function" && !after.fresh then
          advance
          functionFrom false next.start
        else expressionStatement
      | "class" => classStatement next.start []
      | "import" => if after.is .leftParen || after.is .dot then expressionStatement else importStatement
      | "export" => exportStatement next.start []
      | _ => expressionStatement
  | _ => expressionStatement

def statementGoal : Parse Draft := do
  match ← typedStatement? with
  | some parse => parse
  | none => plainStatement

def goal : Goal → Parse Draft
  | .statement => statementGoal
  | .assignment context => assignment context
  | .unary => unary
  | .construction => construction
  | .pattern => pattern
  | .type => typeGoal
  | .element => elementGoal

def readGoal (dialect : Dialect) : Nat → Goal → Cursor → Option (Draft × Cursor)
  | 0, _, _ => none
  | bound + 1, target, cursor => goal target { dialect, bound, recur := readGoal dialect bound } cursor

def readProgram (dialect : Dialect) (depth : Nat) : Nat → Cursor → List Draft
  | 0, _ => []
  | bound + 1, cursor =>
    if cursor.token.shape = .finish then []
    else match readGoal dialect depth .statement cursor with
      | some (draft, next) => draft :: readProgram dialect depth bound next
      | none => readProgram dialect depth bound cursor.advance

def program (dialect : Dialect) (chars : List Char) : Draft :=
  let bound := 8 * (chars.length + 4)
  .mk .other none 0 chars.length (readProgram dialect bound bound (Cursor.start chars))

end Rethrow.Grammar

namespace Rethrow

def Script.parse (dialect : Dialect) (source : String) : Script :=
  let chars := source.toList
  let draft := Grammar.program dialect chars
  { bytes := Utf8.encodeChars chars, root := (draft.place (Places.ofChars chars) 0).1 }

end Rethrow
