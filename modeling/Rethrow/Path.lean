import Rethrow.Text.Basic

/-!
Paths: where they start, and the names on the way. Empty names and single dots are left out when a path is read.
-/
set_option autoImplicit false

namespace Rethrow

/-- Where a path starts: at the current directory, at the root, or at a root that is written with two strokes. -/
inductive Anchor where
  | here
  | root
  | doubleRoot
deriving DecidableEq, Repr, Inhabited

structure Path where
  anchor : Anchor
  parts : List String
deriving DecidableEq, Repr, Inhabited

namespace Path

def anchorOf (text : String) : Anchor :=
  match text.toList with
  | '/' :: '/' :: '/' :: _ => .root
  | '/' :: '/' :: _ => .doubleRoot
  | '/' :: _ => .root
  | _ => .here

def ofText (text : String) : Path :=
  { anchor := anchorOf text, parts := (splitText '/' text).filter fun part => part ≠ "" && part ≠ "." }

def Anchor.text : Anchor → String
  | .here => ""
  | .root => "/"
  | .doubleRoot => "//"

def text (path : Path) : String :=
  if path.anchor = .here && path.parts.isEmpty then "."
  else Anchor.text path.anchor ++ String.intercalate "/" path.parts

def name (path : Path) : String := path.parts.getLast?.getD ""

def join (path inner : Path) : Path :=
  if inner.anchor = .here then { path with parts := path.parts ++ inner.parts } else inner

def parent (path : Path) : Path := { path with parts := path.parts.dropLast }

/-- From the last dot of a name to its end, unless that dot is its first or last character. -/
def suffixOf (name : String) : String :=
  match (Join.splitOn '.' name.toList).reverse with
  | last :: before :: others =>
    if last.isEmpty || (before.isEmpty && others.isEmpty) then "" else String.ofList ('.' :: last)
  | _ => ""

def suffix (path : Path) : String := suffixOf path.name

/-- Names from the root down, without double dots: each takes back the name before it. -/
def climb (above : List String) : List String → List String
  | [] => above
  | part :: rest => climb (if part = ".." then above.dropLast else above ++ [part]) rest

def start (path : Path) (directory : List String) : List String := if path.anchor = .here then directory else []

def le (a b : Path) : Bool := !decide (b.parts < a.parts)

def inOrder (paths : List Path) : List Path := paths.eraseDups.mergeSort le

def hasNull (path : Path) : Bool := path.parts.any fun part => part.toList.contains '\x00'

end Path
end Rethrow
