import Rethrow.Grammar.Parse

/-!
Markup inside expressions: elements, their attributes, and the text and expressions between their tags.
-/
set_option autoImplicit false

namespace Rethrow.Grammar

def markupWord : Parse Unit := do
  let next ← token
  guard next.isName
  let name := markupName next.source
  modify (·.advanceBy false name.length)

def markupPath : Parse Unit := do
  markupWord
  discard (whileHolds (return (← sees .dot) || (← sees .colon)) (do
    advance
    markupWord
    return []))

def markupHole (expression : Parse Draft) : Parse (List Draft) := do
  expect .leftBrace
  if ← sees .rightBrace then return []
  discard (accept .ellipsis)
  let inner ← expression
  guard (← sees .rightBrace)
  return [inner]

def quotedAttribute : Parse Unit := do
  match (← token).source with
  | quote :: rest =>
    guard (quote = '"' || quote = '\'')
    let some width := attributeSpan quote 1 rest | failure
    modify (·.advanceBy false width)
  | [] => failure

def attributeValue (expression : Parse Draft) : Parse (List Draft) := do
  if ← sees .leftBrace then
    let parts ← markupHole expression
    advance
    return parts
  else if ← sees .less then
    let inner ← recur .element
    advance
    return [inner]
  else
    quotedAttribute
    return []

def markupAttribute (expression : Parse Draft) : Parse (List Draft) := do
  if ← sees .leftBrace then
    let parts ← markupHole expression
    advance
    return parts
  else
    markupPath
    if ← accept .equals then attributeValue expression else return []

def skipMarkupText : Parse Unit := do
  let cursor ← get
  let width := markupTextSpan 0 cursor.rest
  let rest := cursor.rest.drop width
  guard !rest.isEmpty
  set (Cursor.resume false rest (cursor.token.stop + width) false)

def content (expression : Parse Draft) : Parse (List Draft) :=
  repeating (fun parts => do
    skipMarkupText
    if ← sees .leftBrace then return (true, parts ++ (← markupHole expression))
    else if (← sees .less) && (← following).is .slash then return (false, parts)
    else return (true, parts ++ [← recur .element])) []

def closingTag : Parse Unit := do
  expect .less
  expect .slash
  unless ← sees .greater do markupPath
  guard (← sees .greater)

def nodeThrough (start : Nat) (parts : List Draft) : Parse Draft := do
  return .mk .other none start ((← token).stop - start) parts

def element (typeArguments : Parse Unit) (expression : Parse Draft) : Parse Draft := do
  let start ← here
  expect .less
  unless ← sees .greater do
    markupPath
    typeArguments
  let attributes ← whileHolds (return !(← sees .greater) && !(← sees .slash)) (markupAttribute expression)
  if ← accept .slash then
    guard (← sees .greater)
    nodeThrough start attributes
  else
    let inner ← content expression
    closingTag
    nodeThrough start (attributes ++ inner)

end Rethrow.Grammar
