import Rethrow.Grammar.Markup
import Rethrow.Grammar.Member

/-!
Expressions. Binary operators are read as one flat list of operands, since nothing here depends on how they bind. A
parenthesis may turn out to hold the parameters of an arrow function, so both are read alike and told apart by what
follows.
-/
set_option autoImplicit false

namespace Rethrow.Grammar

def expressionIn (context : Context) : Parse Draft := do
  let start ← here
  let first ← recur (.assignment context)
  if ← sees .comma then
    let rest ← whileHolds (sees .comma) (do
      advance
      return [← recur (.assignment context)])
    node .other start (first :: rest)
  else return first

def expression : Parse Draft := expressionIn {}

def reserved : List String :=
  ["break", "case", "catch", "const", "continue", "debugger", "default", "do", "else", "enum", "export", "extends",
    "finally", "for", "if", "in", "instanceof", "return", "switch", "throw", "try", "var", "while", "with"]

def constants : List String := ["this", "null", "true", "false", "super", "undefined", "import"]

/-- Whether type arguments may end before a token, so that the bracket before them was no comparison. -/
def mayFollowTypeArguments (token : Token) : Bool :=
  token.fresh ||
    match token.shape with
    | .template | .finish => true
    | .punct sign =>
      [.leftParen, .rightParen, .rightBracket, .rightBrace, .colon, .semicolon, .comma, .dot, .optionalDot, .question,
        .equals, .operator, .pipe, .ampersand].contains sign
    | _ => false

def typeArgumentsOfValue : Parse Unit := do
  guard (← hasTypes)
  typeArguments
  guard (mayFollowTypeArguments (← token))

def callOf (start : Nat) (callee : Draft) (list : Draft) : Parse Draft :=
  node .call start [callee.withRole .called, list.withRole .arguments]

def memberName : Parse Unit := do
  if (← token).shape = .privateName then advance else expectName

def chainLink (calls : Bool) (start : Nat) (head : Draft) : Parse (Option Draft) := do
  let next ← token
  match next.shape with
  | .punct .dot =>
    advance
    memberName
    some <$> node .other start [head]
  | .punct .optionalDot =>
    guard calls
    advance
    match (← token).shape with
    | .punct .leftParen => some <$> (do callOf start head (← arguments))
    | .punct .less =>
      typeArguments
      some <$> (do callOf start head (← arguments))
    | .punct .leftBracket =>
      advance
      let index ← expression
      expect .rightBracket
      some <$> node .other start [head, index]
    | .template => some <$> (do callOf start head (← template (return [← expression])))
    | _ =>
      memberName
      some <$> node .other start [head]
  | .punct .leftBracket =>
    advance
    let index ← expression
    expect .rightBracket
    some <$> node .other start [head, index]
  | .punct .leftParen =>
    if calls then some <$> (do callOf start head (← arguments)) else return none
  | .template =>
    some <$> (do callOf start head (← template (return [← expression])))
  | .punct .bang =>
    if (← hasTypes) && !next.fresh then
      advance
      some <$> node .other start [head]
    else return none
  | .punct .less =>
    if !calls then return none
    match ← attempt typeArgumentsOfValue with
    | none => return none
    | some _ =>
      match (← token).shape with
      | .punct .leftParen => some <$> (do callOf start head (← arguments))
      | .template => some <$> (do callOf start head (← template (return [← expression])))
      | _ => some <$> node .other start [head]
  | _ => return none

def chain (calls : Bool) (head : Draft) : Parse Draft :=
  repeating (fun head => do
    match ← chainLink calls head.start head with
    | some longer => return (true, longer)
    | none => return (false, head)) head

def parenthesisItem : Parse (Bool × Draft) := do
  let start ← here
  let rest ← accept .ellipsis
  let inner ← recur (.assignment {})
  let optional ← if ← hasTypes then accept .question else pure false
  let annotated := (← hasTypes) && (← sees .colon)
  if annotated then annotation
  let default ← if optional || annotated then initializer? {} else pure []
  let parts := inner :: default
  let item ← if parts.length = 1 && !rest then pure inner else node .other start parts
  return (rest || optional || annotated, item)

/-- What stands between parentheses, after the comments that come first, and whether it can only be a list of
parameters. -/
def parenthesis : Parse (Bool × List Draft × List Draft) := do
  expect .leftParen
  let leading ← remarks
  let (only, items) ← repeating (fun (only, items) => do
    if ← sees .rightParen then return (false, (true, items))
    let (parameter, item) ← parenthesisItem
    let more ← accept .comma
    return (more, (only || parameter, items ++ [item]))) (false, [])
  expect .rightParen
  return (only, leading, items)

/-- The body of an arrow function after its parameters. With a type between them, a colon has to follow the function
where the context needs one. -/
def arrowAfter (start : Nat) (items : List Draft) (context : Context) : Parse Draft := do
  if ← sees .arrow then arrowRest start items context
  else
    guard ((← hasTypes) && (← sees .colon))
    annotation
    let function ← arrowRest start items context
    if context.branch then guard (← sees .colon)
    return function

def parenthesized (start : Nat) (leading items : List Draft) : Parse Draft := do
  match items with
  | [] => failure
  | [item] => node .parenthesized start (leading ++ [item])
  | first :: rest =>
    let stop := match rest.getLast? with
      | some (.mk _ _ start width _) => start + width
      | none => first.start
    node .parenthesized start (leading ++ [.mk .other none first.start (stop - first.start) items])

def parenthesizedValue : Parse Draft := do
  let start ← here
  let (only, leading, items) ← parenthesis
  guard !only
  parenthesized start leading items

inductive Parenthesis where
  | function (draft : Draft)
  | value (draft : Draft)

def parenthesisOrArrow (context : Context) : Parse Parenthesis := do
  let start ← here
  let (only, leading, items) ← parenthesis
  match ← attempt (arrowAfter start items context) with
  | some function => return .function function
  | none =>
    guard !only
    .value <$> parenthesized start leading items

def arrowFrom (start : Nat) (context : Context) : Parse Draft := do
  if ← sees .less then typeParameters
  let (_, _, items) ← parenthesis
  arrowAfter start items context

def nameArrow (start : Nat) (context : Context) : Parse Draft := do
  let name ← leaf .identifier
  arrowRest start [name] context

def asyncArrow (context : Context) : Parse Draft := do
  let start ← here
  advance
  guard !(← fresh)
  if (← token).isName then nameArrow start context else arrowFrom start context

/-- In markup, a bracket opens type parameters only if a comma or a bound shows it. -/
def looksGeneric : Parse Bool := do
  let cursor ← get
  let first := cursor.advance
  let name := if first.token.isWord "const" then first.advance else first
  let next := name.advance
  return name.token.isName && (next.token.is .comma || (next.token.isWord "extends" && next.advance.token.isName))

def genericArrow (context : Context) : Parse Draft := do
  guard (← hasTypes)
  if ← hasMarkup then guard (← looksGeneric)
  arrowFrom (← here) context

def primary : Parse Draft := do
  let next ← token
  match next.shape with
  | .word "function" => functionFrom true next.start
  | .word "class" => classFrom next.start [] (recur .unary)
  | .word "new" => recur .construction
  | .word "async" =>
    let after ← following
    if after.isWord "function" && !after.fresh then
      advance
      functionFrom true next.start
    else leaf .identifier
  | .word text =>
    guard !(reserved.contains text)
    leaf (if constants.contains text then .other else .identifier)
  | .number | .privateName => leaf .other
  | .string => leaf .string
  | .template => template (return [← expression])
  | .punct .slash | .punct .slashEquals => regex
  | .punct .leftParen => parenthesizedValue
  | .punct .leftBracket => array
  | .punct .leftBrace => object
  | .punct .at => do
    let marks ← decorators
    classFrom next.start marks (recur .unary)
  | .punct .less =>
    guard (← hasMarkup)
    let inner ← recur .element
    advance
    node .other next.start [inner]
  | _ => failure

def construction : Parse Draft := do
  let start ← here
  expectWord "new"
  if ← accept .dot then
    expectName
    node .other start []
  else
    let callee ← chain false (← primary)
    discard (attempt typeArgumentsOfValue)
    let callee := callee.withRole .constructed
    if ← sees .leftParen then
      let list ← arguments
      node .construction start [callee, list.withRole .arguments]
    else node .construction start [callee]

def operandFrom (head : Draft) : Parse Draft := do
  let value ← chain true head
  if (← sees .step) && !(← fresh) then
    advance
    node .other head.start [value]
  else return value

def typeAssertion : Parse Draft := do
  let start ← here
  expect .less
  type
  expect .greater
  let inner ← recur .unary
  node .other start [inner]

def isUnaryOperator (token : Token) : Bool :=
  match token.shape with
  | .punct sign => sign = .bang || sign = .tilde || sign = .plus || sign = .minus || sign = .step
  | .word text => text = "typeof" || text = "void" || text = "delete"
  | _ => false

def unary : Parse Draft := do
  let next ← token
  if isUnaryOperator next then
    advance
    let inner ← recur .unary
    node .other next.start [inner]
  else if next.isWord "await" then
    let awaited : Parse Draft := do
      advance
      let inner ← recur .unary
      node .other next.start [inner]
    awaited <|> (do operandFrom (← leaf .identifier))
  else if next.is .less && !(← hasMarkup) then typeAssertion
  else operandFrom (← primary)

inductive Continuation where
  | operator (width : Nat)
  | typing
  | ending

def continuation (context : Context) : Parse Continuation := do
  let next ← token
  let width := next.stop - next.start
  match next.shape with
  | .punct .less | .punct .greater =>
    match angleOperator? next.source with
    | some (false, width) => return .operator width
    | _ => return .ending
  | .punct sign =>
    if [.operator, .plus, .minus, .star, .slash, .pipe, .ampersand].contains sign then return .operator width
    else return .ending
  | .word "instanceof" => return .operator width
  | .word "in" => return if context.allowIn then .operator width else .ending
  | .word "as" | .word "satisfies" => return if (← hasTypes) && !next.fresh then .typing else .ending
  | _ => return .ending

def binaryFrom (context : Context) (first : Draft) : Parse Draft := do
  let (combined, operands) ← repeating (fun (combined, operands) => do
    match ← continuation context with
    | .operator width =>
      modify (·.advanceBy true width)
      return (true, (true, operands ++ [← unary]))
    | .typing =>
      advance
      type
      return (true, (true, operands))
    | .ending => return (false, (combined, operands))) (false, [first])
  if combined then node .other first.start operands else return first

def opensChoice : Parse Bool := do
  let next ← following
  return (← sees .question) &&
    !(next.is .colon || next.is .comma || next.is .rightParen || next.is .equals)

def choiceFrom (context : Context) (condition : Draft) : Parse Draft := do
  if ← opensChoice then
    advance
    let yes ← recur (.assignment { branch := true })
    expect .colon
    let no ← recur (.assignment context)
    node .other condition.start [condition, yes, no]
  else return condition

def assignmentWidth : Parse (Option Nat) := do
  let next ← token
  match next.shape with
  | .punct .equals | .punct .assignment | .punct .slashEquals => return some (next.stop - next.start)
  | .punct .less | .punct .greater =>
    match angleOperator? next.source with
    | some (true, width) => return some width
    | _ => return none
  | _ => return none

def assignmentFrom (context : Context) (operand : Draft) : Parse Draft := do
  let left ← choiceFrom context (← binaryFrom context operand)
  match ← assignmentWidth with
  | some width =>
    modify (·.advanceBy true width)
    let right ← recur (.assignment context)
    node .other left.start [left, right]
  | none => return left

def endsYield (token : Token) : Bool :=
  token.fresh ||
    match token.shape with
    | .finish => true
    | .word text => text = "in" || text = "of"
    | .punct sign => [.rightParen, .rightBracket, .rightBrace, .comma, .semicolon, .colon].contains sign
    | _ => false

def yield (context : Context) : Parse Draft := do
  let start ← here
  advance
  if endsYield (← token) then node .other start []
  else
    discard (accept .star)
    let inner ← recur (.assignment context)
    node .other start [inner]

def assignment (context : Context) : Parse Draft := do
  let next ← token
  let plain : Parse Draft := do assignmentFrom context (← unary)
  match next.shape with
  | .word "yield" => yield context
  | .word "async" =>
    if (← following).is .arrow then nameArrow next.start context else asyncArrow context <|> plain
  | .word _ =>
    let after ← following
    if after.is .arrow && !after.fresh then nameArrow next.start context else plain
  | .punct .leftParen =>
    match ← parenthesisOrArrow context with
    | .function function => return function
    | .value value => assignmentFrom context (← operandFrom value)
  | .punct .less => genericArrow context <|> plain
  | _ => plain

def pattern : Parse Draft := do
  let next ← token
  match next.shape with
  | .word _ => leaf .identifier
  | .punct .leftBrace =>
    let parts ← object
    node .other next.start [parts]
  | .punct .leftBracket => array
  | _ => failure

def elementGoal : Parse Draft := element (do if ← hasTypes then typeArguments?) expression

end Rethrow.Grammar
