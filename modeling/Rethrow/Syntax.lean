import Rethrow.Text.LetterCase
import Rethrow.Text.Utf8

/-!
Syntax trees over a source text. Only the distinctions that the analysis makes are kept: every other node is `other`,
and every other part of a node has no role. A tree can be read by structural recursion (`preorder`, `harvest`) or with a
list of trees still to do (`walk`, `gather`), which needs no deep recursion; `walk_eq` and `gather_eq` say that the two
ways agree.
-/
set_option autoImplicit false

namespace Rethrow

inductive Dialect where
  | script
  | typed
  | typedMarkup
deriving DecidableEq, Repr, Inhabited

namespace Dialect

def hasTypes : Dialect → Bool
  | script => false
  | typed | typedMarkup => true

def hasMarkup : Dialect → Bool
  | typed => false
  | script | typedMarkup => true

def suffixes : List (String × Dialect) :=
  [(".js", script), (".jsx", script), (".mjs", script), (".cjs", script),
    (".ts", typed), (".mts", typed), (".cts", typed), (".tsx", typedMarkup)]

def supported : List String := suffixes.map (·.1)

def ofSuffix? (suffix : String) : Option Dialect := suffixes.lookup (lower suffix)

end Dialect

inductive Kind where
  | catchClause
  | throwStatement
  | function
  | parenthesized
  | comment
  | construction
  | call
  | arguments
  | spread
  | object
  | pair
  | propertyName
  | string
  | shorthand
  | identifier
  | other
deriving DecidableEq, Repr, Inhabited

inductive Role where
  | body
  | parameter
  | constructed
  | called
  | arguments
  | key
  | value
deriving DecidableEq, Repr

def Kind.ofName : String → Kind
  | "catch_clause" => catchClause
  | "throw_statement" => throwStatement
  | "function" | "function_declaration" | "function_expression" | "generator_function"
  | "generator_function_declaration" | "arrow_function" | "method_definition" => function
  | "parenthesized_expression" => parenthesized
  | "comment" => comment
  | "new_expression" => construction
  | "call_expression" => call
  | "arguments" => arguments
  | "spread_element" => spread
  | "object" => object
  | "pair" => pair
  | "property_identifier" => propertyName
  | "string" => string
  | "shorthand_property_identifier" => shorthand
  | "identifier" => identifier
  | _ => other

def Role.ofName? : String → Option Role
  | "body" => some body
  | "parameter" => some parameter
  | "constructor" => some constructed
  | "function" => some called
  | "arguments" => some arguments
  | "key" => some key
  | "value" => some value
  | _ => none

/-- Nested functions and nested catch clauses end the scope of a handler. -/
def Kind.isBoundary (kind : Kind) : Bool := kind = function || kind = catchClause

/-- A place in a text: bytes from its start, and line and byte column, all counted from zero. -/
structure Place where
  offset : Nat
  row : Nat
  column : Nat
deriving DecidableEq, Repr, Inhabited

structure Extent where
  start : Place
  stop : Place
deriving DecidableEq, Repr, Inhabited

structure Mark where
  kind : Kind
  role : Option Role
  index : Nat
  extent : Extent
deriving DecidableEq, Repr, Inhabited

inductive Node where
  | mk (mark : Mark) (children : List Node)
deriving Repr, Inhabited

namespace Node

mutual
def decideEq : (left right : Node) → Decidable (left = right)
  | mk mark children, mk other others =>
    match decEq mark other, decideEqAll children others with
    | .isTrue same, .isTrue alike => .isTrue (by rw [same, alike])
    | .isFalse differ, _ => .isFalse fun equal => differ (Node.mk.inj equal).1
    | _, .isFalse differ => .isFalse fun equal => differ (Node.mk.inj equal).2
def decideEqAll : (left right : List Node) → Decidable (left = right)
  | [], [] => .isTrue rfl
  | [], _ :: _ => .isFalse (by simp)
  | _ :: _, [] => .isFalse (by simp)
  | node :: rest, other :: others =>
    match decideEq node other, decideEqAll rest others with
    | .isTrue same, .isTrue alike => .isTrue (by rw [same, alike])
    | .isFalse differ, _ => .isFalse fun equal => differ (List.cons.inj equal).1
    | _, .isFalse differ => .isFalse fun equal => differ (List.cons.inj equal).2
end

instance : DecidableEq Node := decideEq

def mark : Node → Mark
  | mk mark _ => mark

def children : Node → List Node
  | mk _ children => children

def kind (node : Node) : Kind := node.mark.kind
def role (node : Node) : Option Role := node.mark.role
def index (node : Node) : Nat := node.mark.index
def extent (node : Node) : Extent := node.mark.extent
def start (node : Node) : Nat := node.extent.start.offset
def stop (node : Node) : Nat := node.extent.stop.offset

def child? (node : Node) (role : Role) : Option Node := node.children.find? fun child => child.role = some role

def significant (node : Node) : List Node := node.children.filter fun child => child.kind ≠ .comment

mutual
def size : Node → Nat
  | mk _ children => sizeAll children + 1
def sizeAll : List Node → Nat
  | [] => 0
  | node :: rest => size node + sizeAll rest
end

theorem size_all_append (left right : List Node) : sizeAll (left ++ right) = sizeAll left + sizeAll right := by
  induction left with
  | nil => simp [sizeAll]
  | cons node rest ih => simp [sizeAll, ih]; omega

theorem size_eq (node : Node) : node.size = sizeAll node.children + 1 := by
  cases node; simp [size, children]

mutual
def preorder : Node → List Node
  | mk mark children => mk mark children :: preorderAll children
def preorderAll : List Node → List Node
  | [] => []
  | node :: rest => preorder node ++ preorderAll rest
end

def walkAll : List Node → List Node
  | [] => []
  | node :: rest => node :: walkAll (node.children ++ rest)
termination_by todo => sizeAll todo
decreasing_by simp [size_all_append, sizeAll, size_eq]

def walk (node : Node) : List Node := walkAll [node]

theorem preorder_all_append (left right : List Node) :
    preorderAll (left ++ right) = preorderAll left ++ preorderAll right := by
  induction left with
  | nil => simp [preorderAll]
  | cons node rest ih => simp [preorderAll, ih]

theorem preorder_eq (node : Node) : node.preorder = node :: preorderAll node.children := by
  cases node; simp [preorder, children]

theorem walk_all_eq (todo : List Node) : walkAll todo = preorderAll todo := by
  fun_induction walkAll todo with
  | case1 => simp [preorderAll]
  | case2 node rest ih => simp [ih, preorderAll, preorder_eq, preorder_all_append]

theorem walk_eq (node : Node) : node.walk = node.preorder := by
  simp [walk, walk_all_eq, preorderAll]

section Gather
variable {α : Type}

/-- Collects what `visit` gives. Where `visit` gives an answer, even an empty one, the node is not entered; elsewhere
its children are visited in its place. -/
def gather (visit : Node → Option (List α)) : List Node → List α
  | [] => []
  | node :: rest =>
    match visit node with
    | some found => found ++ gather visit rest
    | none => gather visit (node.children ++ rest)
termination_by todo => sizeAll todo
decreasing_by all_goals simp [size_all_append, sizeAll, size_eq]

mutual
def harvest (visit : Node → Option (List α)) : Node → List α
  | mk mark children =>
    match visit (mk mark children) with
    | some found => found
    | none => harvestAll visit children
def harvestAll (visit : Node → Option (List α)) : List Node → List α
  | [] => []
  | node :: rest => harvest visit node ++ harvestAll visit rest
end

theorem harvest_all_append (visit : Node → Option (List α)) (left right : List Node) :
    harvestAll visit (left ++ right) = harvestAll visit left ++ harvestAll visit right := by
  induction left with
  | nil => simp [harvestAll]
  | cons node rest ih => simp [harvestAll, ih]

theorem gather_eq (visit : Node → Option (List α)) (todo : List Node) :
    gather visit todo = harvestAll visit todo := by
  fun_induction gather visit todo with
  | case1 => simp [harvestAll]
  | case2 node rest found h ih => cases node; simp [harvestAll, harvest, h, ih]
  | case3 node rest h ih => cases node; rw [ih]; simp [harvestAll, harvest, h, harvest_all_append, children]

end Gather

end Node

structure Script where
  bytes : Bytes
  root : Node
deriving Repr, Inhabited

/-- The text that a node covers. Bounds past the end of the source stand for its end. -/
def Script.text (script : Script) (node : Node) : String :=
  Utf8.decodeLossy ((script.bytes.take node.stop).drop node.start)

end Rethrow

namespace Rethrow.Outline

def level (above : Nat) : List (Nat × Mark) → List (Nat × Mark)
  | [] => []
  | (depth, mark) :: rest => (min depth above, mark) :: level (min depth above + 1) rest

/-- Puts an entry in front of a forest. The trees that follow it at a greater depth become its children. -/
def adopt (entry : Nat × Mark) (forest : List (Nat × Node)) : List (Nat × Node) :=
  let (below, rest) := forest.span fun tree => entry.1 < tree.1
  (entry.1, .mk entry.2 (below.map (·.2))) :: rest

def forest (entries : List (Nat × Mark)) : List Node :=
  ((level 0 entries).foldr adopt []).map (·.2)

def root? (entries : List (Nat × Mark)) : Option Node := (forest entries).head?

end Rethrow.Outline
