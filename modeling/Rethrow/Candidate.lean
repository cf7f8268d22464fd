import Rethrow.Syntax

/-!
Throws that construct a recognised error. A throw belongs to the nearest handler around it: the search through a
handler's body enters neither functions nor nested catch clauses, and no throw. An error keeps the caught one if the
`cause` member of its options names it; no alias is followed.
-/
set_option autoImplicit false

namespace Rethrow

structure Handler where
  clause : Node
  body : Node
  parameter : Option String
deriving Repr, Inhabited

namespace Script

def boundName (script : Script) (clause : Node) : Option String := do
  let parameter ← clause.child? .parameter
  guard (parameter.kind = .identifier)
  return script.text parameter

def handler? (script : Script) (clause : Node) : Option Handler := do
  guard (clause.kind = .catchClause)
  let body ← clause.child? .body
  return { clause, body, parameter := script.boundName clause }

def handlers (script : Script) : List Handler := script.root.walk.filterMap script.handler?

end Script

structure Candidate where
  statement : Node
  call : Node
  message : Node
  options : Option Node
deriving Repr, Inhabited

def Candidate.literal? (candidate : Candidate) : Option Node :=
  candidate.options.filter fun options => options.kind = .object

namespace Node

mutual
/-- What stands inside any number of parentheses. Empty parentheses hold nothing. -/
def unwrapped : Node → Option Node
  | mk mark children => if mark.kind = .parenthesized then firstUnwrapped children else some (mk mark children)
def firstUnwrapped : List Node → Option Node
  | [] => none
  | child :: rest => if child.kind = .comment then firstUnwrapped rest else unwrapped child
end

def constructor? (node : Node) : Option Node :=
  match node.kind with
  | .construction => node.child? .constructed
  | .call => node.child? .called
  | _ => none

def argumentNodes? (node : Node) : Option (List Node) := do
  let list ← node.child? .arguments
  guard (list.kind = .arguments)
  return list.significant

end Node

namespace Script

/-- The error that a throw constructs, if its constructor goes by one of `names` and it has an argument. A spread in
first place may hold the options as well as the message. -/
def candidate? (script : Script) (names : List String) (statement : Node) : Option Candidate := do
  let expression ← statement.significant.head?
  let call ← expression.unwrapped
  let constructor ← call.constructor?
  guard (script.text constructor ∈ names)
  match ← call.argumentNodes? with
  | [] => none
  | message :: rest =>
    let options := if message.kind = .spread then some message else rest.head?
    return { statement, call, message, options }

def visit (script : Script) (names : List String) (node : Node) : Option (List Candidate) :=
  if node.kind.isBoundary then some []
  else if node.kind = .throwStatement then some (script.candidate? names node).toList
  else none

def candidates (script : Script) (names : List String) (handler : Handler) : List Candidate :=
  Node.gather (script.visit names) handler.body.children

end Script
end Rethrow

namespace Rethrow.Script

def keyName? (script : Script) (key : Node) : Option String :=
  match key.kind with
  | .propertyName => some (script.text key)
  | .string => some (String.ofList ((script.text key).toList.drop 1).dropLast)
  | _ => none

def causeValue? (script : Script) (member : Node) : Option Node :=
  match member.kind with
  | .pair => do
    let key ← member.child? .key
    let value ← member.child? .value
    guard (script.keyName? key = some "cause")
    return value
  | .shorthand => if script.text member = "cause" then some member else none
  | _ => none

def cause? (script : Script) (literal : Node) : Option Node :=
  (literal.children.filterMap script.causeValue?).getLast?

def isNamed (script : Script) (name : String) (value : Node) : Bool :=
  (value.kind = .identifier || value.kind = .shorthand) && script.text value = name

/-- Whether a candidate keeps the caught value. With nothing caught by name there is nothing to keep. -/
def linked (script : Script) (parameter : Option String) (candidate : Candidate) : Bool :=
  match parameter with
  | none => true
  | some name => ((candidate.literal?.bind script.cause?).map (script.isNamed name)).getD false

end Rethrow.Script
