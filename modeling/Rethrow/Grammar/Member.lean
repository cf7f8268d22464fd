import Rethrow.Grammar.Omitted
import Rethrow.Grammar.Types

/-!
Functions of every form, and the members of object literals and classes.
-/
set_option autoImplicit false

namespace Rethrow.Grammar

/-- Passes the brace that closes a block, and counts a semicolon that is left out after it to the block. -/
def closeBlock (operand : Bool) : Parse Unit := do
  let cursor ← get
  guard (cursor.token.is .rightBrace)
  let stop := cursor.token.stop
  let semicolon := Omitted.position? (← hasTypes) operand (cursor.rest.length + 1) stop cursor.rest
  set { cursor.advance with previous := semicolon.getD stop }

def blockOf (operand : Bool) : Parse Draft := do
  let start ← here
  expect .leftBrace
  let parts ← whileHolds (return !(← sees .rightBrace)) (return [← recur .statement])
  closeBlock operand
  node .other start parts

def block : Parse Draft := blockOf false

def functionRest (operand : Bool) (start : Nat) (parts : List Draft) : Parse Draft := do
  if ← hasTypes then typeParameters?
  let parts := parts ++ (← parameters)
  annotation?
  if ← sees .leftBrace then
    let body ← blockOf operand
    node .function start (parts ++ [body])
  else
    guard (← hasTypes)
    endStatement
    node .other start parts

def functionFrom (operand : Bool) (start : Nat) : Parse Draft := do
  expectWord "function"
  discard (accept .star)
  if (← token).isName then advance
  functionRest operand start []

def arrowRest (start : Nat) (parts : List Draft) (context : Context) : Parse Draft := do
  guard !(← fresh)
  expect .arrow
  let body ← if ← sees .leftBrace then blockOf true else recur (.assignment context)
  node .function start (parts ++ [body])

def spreadOrExpression : Parse Draft := do
  let start ← here
  if ← accept .ellipsis then
    let inner ← recur (.assignment {})
    node .spread start [inner]
  else recur (.assignment {})

def key : Parse Draft := do
  let next ← token
  match next.shape with
  | .word _ => leaf .propertyName
  | .string => leaf .string
  | .number | .privateName => leaf .other
  | .punct .leftBracket =>
    advance
    let inner ← recur (.assignment {})
    expect .rightBracket
    node .other next.start [inner]
  | _ => failure

def startsMethod (token : Token) : Bool := token.is .leftParen || token.is .less

def methodModifiers : Parse Unit := do
  discard (whileHolds
    (do
      let next ← following
      let marks := startsKey next || next.is .star
      return (((← seesWord "get") || (← seesWord "set")) && marks) ||
        ((← seesWord "async") && marks && !next.fresh))
    (do advance; return []))
  discard (accept .star)

def objectMember : Parse Draft := do
  let start ← here
  if ← sees .ellipsis then spreadOrExpression
  else
    methodModifiers
    let next ← token
    let name ← key
    if startsMethod (← token) then functionRest false start [name]
    else if ← accept .colon then
      let value ← recur (.assignment {})
      node .pair start [name.withRole .key, value.withRole .value]
    else
      guard next.isName
      let default ← initializer? {}
      if default.isEmpty then node .shorthand start [] else node .other start default

def object : Parse Draft := do
  let start ← here
  expect .leftBrace
  let parts ← commaList .rightBrace (return [← objectMember])
  node .object start parts

def array : Parse Draft := do
  let start ← here
  expect .leftBracket
  let parts ← commaList .rightBracket (do
    if ← sees .comma then return [] else return [← spreadOrExpression])
  node .other start parts

def arguments : Parse Draft := do
  let start ← here
  expect .leftParen
  let parts ← commaList .rightParen (return [← spreadOrExpression])
  node .arguments start parts

def indexSignature : Parse Unit := do
  expect .leftBracket
  expectName
  annotation
  expect .rightBracket
  annotation
  endStatement

def isClassModifier (token : Token) : Bool :=
  ["static", "public", "private", "protected", "readonly", "abstract", "override", "declare", "accessor"].any
    token.isWord

def fieldRest (start : Nat) (parts : List Draft) : Parse Draft := do
  annotation?
  let parts := parts ++ (← initializer? {})
  endStatement
  node .other start parts

/-- A member of a class. Initial values and static blocks run with the class. -/
def classMember : Parse Draft := do
  let start ← here
  if ← accept .semicolon then node .other start []
  else
    let marks ← decorators
    if (← seesWord "static") && (← following).is .leftBrace then
      advance
      let body ← block
      node .other start (marks ++ [body])
    else
      discard (whileHolds
        (do
          let next ← following
          return isClassModifier (← token) && (startsKey next || next.is .star)
            && (!next.fresh || (← seesWord "static")))
        (do advance; return []))
      methodModifiers
      let declared ← if ← hasTypes then attempt indexSignature else pure none
      if declared.isSome then node .other start marks
      else
        let name ← key
        if ← hasTypes then
          if (← sees .question) || (← sees .bang) then advance
        if startsMethod (← token) then functionRest false start (marks ++ [name])
        else fieldRest start (marks ++ [name])

def classBody : Parse (List Draft) := do
  expect .leftBrace
  let parts ← whileHolds (return !(← sees .rightBrace)) (return [← classMember])
  expect .rightBrace
  return parts

def typeList : Parse Unit := do
  type
  discard (whileHolds (sees .comma) (do advance; type; return []))

def classFrom (start : Nat) (marks : List Draft) (heritage : Parse Draft) : Parse Draft := do
  expectWord "class"
  if (← token).isName && !(← seesWord "extends") && !(← seesWord "implements") then advance
  if ← hasTypes then typeParameters?
  let extended ← if ← acceptWord "extends" then
      let parent ← heritage
      if ← hasTypes then typeArguments?
      pure [parent]
    else pure []
  if ← acceptWord "implements" then typeList
  let parts ← classBody
  node .other start (marks ++ extended ++ parts)

end Rethrow.Grammar
