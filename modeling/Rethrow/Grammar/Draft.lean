import Rethrow.Syntax

/-!
Syntax trees as they are read, in characters from the start of the text. Placing a draft turns these into bytes,
lines and columns and numbers the nodes in preorder. Every place comes from a prefix of the text, so a placed node
starts and ends between two characters of it.
-/
set_option autoImplicit false

namespace Rethrow

inductive Draft where
  | mk (kind : Kind) (role : Option Role) (start width : Nat) (parts : List Draft)
deriving Repr, Inhabited

namespace Draft

def start : Draft → Nat
  | mk _ _ start _ _ => start

def kind : Draft → Kind
  | mk kind _ _ _ _ => kind

def withRole (role : Role) : Draft → Draft
  | mk kind _ start width parts => mk kind (some role) start width parts

end Draft

namespace Place

def origin : Place := ⟨0, 0, 0⟩

def next (place : Place) (char : Char) : Place :=
  if char = '\n' then ⟨place.offset + 1, place.row + 1, 0⟩
  else ⟨place.offset + char.utf8Size, place.row, place.column + char.utf8Size⟩

def scan (place : Place) : List Char → List Place
  | [] => [place]
  | char :: rest => place :: scan (place.next char) rest

def final (place : Place) (chars : List Char) : Place := chars.foldl next place

end Place

structure Places where
  table : Array Place
  last : Place

namespace Places

def ofChars (chars : List Char) : Places := ⟨(Place.scan .origin chars).toArray, Place.final .origin chars⟩

def get (places : Places) (index : Nat) : Place := places.table.getD index places.last

end Places

namespace Draft

mutual
def place (places : Places) (index : Nat) : Draft → Node × Nat
  | mk kind role start width parts =>
    let (children, next) := placeAll places (index + 1) parts
    (.mk { kind, role, index, extent := ⟨places.get start, places.get (start + width)⟩ } children, next)
def placeAll (places : Places) (index : Nat) : List Draft → List Node × Nat
  | [] => ([], index)
  | draft :: rest =>
    let (node, next) := place places index draft
    let (nodes, last) := placeAll places next rest
    (node :: nodes, last)
end

end Draft
end Rethrow
