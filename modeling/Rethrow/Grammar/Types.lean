import Rethrow.Grammar.Parse

/-!
Type annotations. Nothing in them is executed, so only their extent matters.
-/
set_option autoImplicit false

namespace Rethrow.Grammar

def type : Parse Unit := discard (recur .type)

def typeArguments : Parse Unit := do
  expect .less
  discard (commaList .greater (do type; return []))

def typeArguments? : Parse Unit := do
  if (← sees .less) && !(← fresh) then typeArguments

def typeParameter : Parse (List Draft) := do
  discard (whileHolds
    (return ((← seesWord "const") || (← seesWord "in") || (← seesWord "out")) && (← following).isName)
    (do advance; return []))
  expectName
  if ← acceptWord "extends" then type
  if ← accept .equals then type
  return []

def typeParameters : Parse Unit := do
  expect .less
  discard (commaList .greater typeParameter)

def typeParameters? : Parse Unit := do
  if ← sees .less then typeParameters

def annotation : Parse Unit := do
  expect .colon
  type

def annotation? : Parse Unit := do
  if (← hasTypes) && (← sees .colon) then annotation

def isParameterModifier (token : Token) : Bool :=
  ["public", "private", "protected", "readonly", "override"].any token.isWord

def startsParameter (token : Token) : Bool :=
  token.isName || token.is .leftBrace || token.is .leftBracket

def initializer? (context : Context) : Parse (List Draft) := do
  if ← accept .equals then return [← recur (.assignment context)] else return []

def decorators : Parse (List Draft) :=
  whileHolds (sees .at) (do
    advance
    return [← recur .unary])

def parameter : Parse (List Draft) := do
  let marks ← decorators
  if ← hasTypes then
    discard (whileHolds (return isParameterModifier (← token) && startsParameter (← following))
      (do advance; return []))
  discard (accept .ellipsis)
  let target ← recur .pattern
  if ← hasTypes then discard (accept .question)
  annotation?
  return marks ++ [target] ++ (← initializer? {})

def parameters : Parse (List Draft) := do
  expect .leftParen
  commaList .rightParen parameter

def typeSignature : Parse Unit := do
  typeParameters?
  discard parameters

def functionType : Parse Unit := do
  discard (acceptWord "abstract")
  discard (acceptWord "new")
  typeSignature
  expect .arrow
  type

def dottedRest : Parse Unit :=
  discard (whileHolds (sees .dot) (do
    advance
    if (← token).shape = .privateName then advance else expectName
    return []))

def seesModifier (words : List String) : Parse Bool := do
  return words.any (← token).isWord

def startsKey (token : Token) : Bool :=
  match token.shape with
  | .word _ | .privateName | .number | .string => true
  | .punct sign => sign = .leftBracket
  | _ => false

def bracketedKey : Parse Unit := do
  expect .leftBracket
  let index : Parse Unit := do
    expectName
    annotation
    expect .rightBracket
  let mapped : Parse Unit := do
    expectName
    expectWord "in"
    type
    if ← acceptWord "as" then type
    expect .rightBracket
  let computed : Parse Unit := do
    discard (recur (.assignment {}))
    expect .rightBracket
  index <|> mapped <|> computed

def typeKey : Parse Unit := do
  if ← sees .leftBracket then bracketedKey
  else
    guard (startsKey (← token))
    advance

def acceptSign : Parse Unit := do
  if (← sees .plus) || (← sees .minus) then advance

def typeMember : Parse (List Draft) := do
  acceptSign
  discard (whileHolds
    (return (← seesModifier ["readonly", "get", "set", "static"]) && startsKey (← following))
    (do advance; return []))
  let constructs := (← seesWord "new") && ((← following).is .leftParen || (← following).is .less)
  if constructs then advance
  unless constructs || (← sees .leftParen) || (← sees .less) do
    typeKey
    acceptSign
    discard (accept .question)
  if (← sees .leftParen) || (← sees .less) then typeSignature
  if ← sees .colon then annotation
  unless (← accept .comma) do endStatement
  return []

def objectType : Parse Unit := do
  expect .leftBrace
  discard (whileHolds (return !(← sees .rightBrace)) typeMember)
  expect .rightBrace

def tupleItem : Parse (List Draft) := do
  discard (accept .ellipsis)
  let named : Parse Unit := do
    expectName
    discard (accept .question)
    annotation
  let plain : Parse Unit := do
    type
    discard (accept .question)
  named <|> plain
  return []

def namedType : Parse Unit := do
  expectName
  dottedRest
  typeArguments?
  if (← seesWord "is") && !(← fresh) then
    advance
    type

def importType : Parse Unit := do
  expectWord "import"
  expect .leftParen
  discard (commaList .rightParen (do type; return []))
  dottedRest
  typeArguments?

/-- A constraint on an inferred type; before a question mark the word begins a condition instead. -/
def inferConstraint (operand : Parse Unit) : Parse Unit := do
  expectWord "extends"
  operand
  guard !(← sees .question)

def primaryType : Parse Unit := do
  let next ← token
  match next.shape with
  | .string | .number => advance
  | .template => discard (template (do type; return []))
  | .punct .minus =>
    advance
    guard ((← token).shape = .number)
    advance
  | .punct .leftParen =>
    advance
    type
    expect .rightParen
  | .punct .leftBracket =>
    advance
    discard (commaList .rightBracket tupleItem)
  | .punct .leftBrace => objectType
  | .word "typeof" =>
    advance
    if ← seesWord "import" then importType
    else
      expectName
      dottedRest
      typeArguments?
  | .word "import" => importType
  | .word _ => namedType
  | _ => failure

def arrayRest : Parse Unit :=
  discard (whileHolds (return (← sees .leftBracket) && !(← fresh)) (do
    advance
    unless ← sees .rightBracket do type
    expect .rightBracket
    return []))

def startsType (token : Token) : Bool :=
  match token.shape with
  | .word _ | .string | .number | .template => true
  | .punct sign => sign = .leftParen || sign = .leftBracket || sign = .leftBrace || sign = .minus
  | _ => false

def postfixType : Parse Unit := do
  primaryType
  arrayRest

def operatorType : Parse Unit := do
  discard (whileHolds
    (return (← seesModifier ["keyof", "unique", "readonly", "asserts"]) && startsType (← following)
      && !(← following).fresh && !(← following).isWord "is")
    (do advance; return []))
  if (← seesWord "infer") && (← following).isName then
    advance
    advance
    discard (attempt (inferConstraint postfixType))
  else postfixType

def startsFunctionType (token : Token) : Bool :=
  token.is .leftParen || token.is .less || token.isWord "new" || token.isWord "abstract"

def functionOr (other : Parse Unit) : Parse Unit := do
  if startsFunctionType (← token) then functionType <|> other else other

def unionType : Parse Unit := do
  if (← sees .pipe) || (← sees .ampersand) then advance
  operatorType
  discard (whileHolds (return (← sees .pipe) || (← sees .ampersand)) (do
    advance
    functionOr operatorType
    return []))

def plainType : Parse Unit := functionOr unionType

def typeGoal : Parse Draft := do
  let start ← here
  plainType
  if (← seesWord "extends") && !(← fresh) then
    advance
    plainType
    expect .question
    type
    expect .colon
    type
  node .other start []

end Rethrow.Grammar
