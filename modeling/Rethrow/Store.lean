import Rethrow.Path
import Rethrow.Text.Utf8

/-!
File systems. A tree says what stands where: files, symbolic links and directories, by their names from the root down.
What a file holds is kept apart from the tree, by the number of the file, so that two names can stand for one file.
Files and links are followed as the operating system does; resolving a path also goes past what is not there.
-/
set_option autoImplicit false

namespace Rethrow

/-- A place in a tree: the names on the way from the root. -/
abbrev Names := List String

def fileAt (names : Names) : Path := { anchor := .root, parts := names }

def isName (text : String) : Bool :=
  text ∉ ["", ".", ".."] && !text.toList.any fun char => char = '/' || char = '\x00'

/-- Nothing stands below a file or a link, and no two of them at one place. A directory need not be listed if something
stands in it. -/
structure Tree where
  files : List (Names × Nat) := []
  links : List (Names × Path) := []
  directories : List Names := []
  named : ∀ place ∈ files.map (·.1) ++ links.map (·.1) ++ directories, ∀ name ∈ place, isName name = true := by
    decide +kernel
  apart : (files.map (·.1) ++ links.map (·.1)).Pairwise fun left right => ¬ left <+: right ∧ ¬ right <+: left := by
    decide +kernel
  closed : ∀ leaf ∈ files.map (·.1) ++ links.map (·.1), ∀ directory ∈ [] :: directories, ¬ leaf <+: directory := by
    decide +kernel

inductive Lost where
  | missing
  | notDirectory
  | tooManyLinks
deriving DecidableEq, Repr

namespace Tree

instance : Inhabited Tree := ⟨{}⟩

def of? (files : List (Names × Nat)) (links : List (Names × Path)) (directories : List Names) : Option Tree :=
  if named : ∀ place ∈ files.map (·.1) ++ links.map (·.1) ++ directories, ∀ name ∈ place, isName name = true then
    if apart : (files.map (·.1) ++ links.map (·.1)).Pairwise fun left right => ¬ left <+: right ∧ ¬ right <+: left then
      if closed : ∀ leaf ∈ files.map (·.1) ++ links.map (·.1),
          ∀ directory ∈ [] :: directories, ¬ leaf <+: directory then
        some { files, links, directories, named, apart, closed }
      else none
    else none
  else none

def leaves (tree : Tree) : List Names := tree.files.map (·.1) ++ tree.links.map (·.1)

def file? (tree : Tree) (place : Names) : Option Nat := tree.files.lookup place

def link? (tree : Tree) (place : Names) : Option Path := tree.links.lookup place

def isBelow (directory place : Names) : Bool := directory.isPrefixOf place && directory.length < place.length

def isDirectory (tree : Tree) (place : Names) : Bool :=
  place.isEmpty || tree.directories.contains place || (tree.leaves ++ tree.directories).any (isBelow place)

def has (tree : Tree) (place : Names) : Bool := (tree.file? place).isSome || tree.isDirectory place

/-- Goes from name to name, and through directories only. At a link, `jump` goes on with what it points to. -/
def walk (tree : Tree) (jump : Names → Names → Except Lost Names) (place : Names) : Names → Except Lost Names
  | [] => if tree.has place then .ok place else .error .missing
  | name :: rest =>
    if !tree.isDirectory place then .error (if (tree.file? place).isSome then .notDirectory else .missing)
    else if name = ".." then tree.walk jump place.dropLast rest
    else
      match tree.link? (place ++ [name]) with
      | none => tree.walk jump (place ++ [name]) rest
      | some target => jump (target.start place) (target.parts ++ rest)

def follow (tree : Tree) : Nat → Names → Names → Except Lost Names
  | 0 => tree.walk fun _ _ => .error .tooManyLinks
  | links + 1 => tree.walk (tree.follow links)

def maxLinks : Nat := 40

def find (tree : Tree) (directory path : Path) : Except Lost Names :=
  tree.follow maxLinks (path.start directory.parts) path.parts

def find? (tree : Tree) (directory path : Path) : Option Names := (tree.find directory path).toOption

def reach? (tree : Tree) (names : Names) : Option Names := (tree.follow maxLinks [] names).toOption

def number? (tree : Tree) (names : Names) : Option Nat := (tree.reach? names).bind tree.file?

def straightenWith (tree : Tree) (enter : Names → Path → Except Names Names) (place : Names) :
    Names → Except Names Names
  | [] => .ok place
  | name :: rest =>
    if name = ".." then tree.straightenWith enter place.dropLast rest
    else
      match tree.link? (place ++ [name]) with
      | none => tree.straightenWith enter (place ++ [name]) rest
      | some target =>
        match enter (place ++ [name]) target with
        | .ok next => tree.straightenWith enter next rest
        | .error stuck => .error (Path.climb stuck rest)

/-- Names without the links on their way, whether anything stands there or not. A link that comes up while it is being
replaced is left as it is, with all that follows; `passed` are the links being replaced. -/
def straighten (tree : Tree) : Nat → List Names → Names → Names → Except Names Names
  | 0, _ => tree.straightenWith fun link _ => .error link
  | depth + 1, passed => tree.straightenWith fun link target =>
    if passed.contains link then .error link
    else tree.straighten depth (link :: passed) (target.start link.dropLast) target.parts

/-- The place that a path leads to. Names that lead nowhere are straightened instead, unless they end in a loop. -/
def resolve (tree : Tree) (directory path : Path) : Except Names Names :=
  match tree.find directory path with
  | .ok place => .ok place
  | .error _ =>
    match tree.straighten tree.links.length [] [] (directory.join path).parts with
    | .ok names => .ok names
    | .error names =>
      match tree.follow maxLinks [] names with
      | .error .tooManyLinks => .error names
      | _ => .ok names

end Tree

/-- A file whose content is not listed is empty. -/
structure Store where
  tree : Tree := {}
  contents : List (Nat × Bytes) := []
deriving Inhabited

namespace Store

def read (store : Store) (file : Nat) : Bytes := (store.contents.lookup file).getD []

def write (store : Store) (file : Nat) (content : Bytes) : Store :=
  { store with contents := (file, content) :: store.contents }

end Store
end Rethrow
