import Rethrow.Text.Utf8

/-!
Replacements of byte ranges of a text. `selectDisjoint` keeps a part of a batch that can be applied; `applyAll`
applies a batch from its last edit to its first, so that no edit moves the range of another.
-/
set_option autoImplicit false

namespace Rethrow

structure Edit where
  start : Int
  stop : Int
  text : String
deriving DecidableEq, Repr, Inhabited

namespace Edit

/-- Edits that start together overlap, two insertions at one place too. -/
def overlaps (a b : Edit) : Bool := a.start = b.start || (a.start < b.stop && b.start < a.stop)

def conflicts (edit kept : Edit) : Bool :=
  edit.overlaps kept || (kept.start ≤ edit.start && edit.start < kept.stop)

def widestFirst (a b : Edit) : Bool := a.start < b.start || (a.start = b.start && b.stop ≤ a.stop)

def inOrder (a b : Edit) : Bool := a.start < b.start || (a.start = b.start && a.stop ≤ b.stop)

def keep (kept : List Edit) (edit : Edit) : List Edit :=
  if kept.any edit.conflicts then kept else kept ++ [edit]

/-- Drops every edit that conflicts with an earlier or wider one that is kept. -/
def selectDisjoint (edits : List Edit) : List Edit := (edits.mergeSort widestFirst).foldl keep []

end Edit

inductive EditError where
  | overlapping (first second : Edit)
  | outside (edit : Edit) (size : Nat)
  | undecodable (error : Utf8.DecodeError)
deriving DecidableEq, Repr

namespace Edit

def rangeText (edit : Edit) : String := s!"({edit.start}, {edit.stop})"

def overlap? : List Edit → Option (Edit × Edit)
  | first :: second :: rest => if first.overlaps second then some (first, second) else overlap? (second :: rest)
  | _ => none

def fits (edit : Edit) (size : Nat) : Bool := 0 ≤ edit.start && edit.start ≤ edit.stop && edit.stop ≤ size

def splice (edit : Edit) (bytes : Bytes) : Bytes :=
  bytes.take edit.start.toNat ++ Utf8.encode edit.text ++ bytes.drop edit.stop.toNat

def spliceAll (bytes : Bytes) : List Edit → Except EditError Bytes
  | [] => .ok bytes
  | edit :: rest =>
    if edit.fits bytes.length then spliceAll (edit.splice bytes) rest else .error (.outside edit bytes.length)

def applyAll (text : String) (edits : List Edit) : Except EditError String := do
  let ordered := edits.mergeSort inOrder
  if let some (first, second) := overlap? ordered then throw (.overlapping first second)
  let bytes ← spliceAll (Utf8.encode text) ordered.reverse
  (Utf8.decode bytes).mapError .undecodable

end Edit

def EditError.message : EditError → String
  | overlapping first second => s!"Overlapping edits at bytes {first.rangeText} and {second.rangeText}"
  | outside edit size => s!"Edit range {edit.rangeText} outside source of {size} bytes"
  | undecodable error => error.message

end Rethrow
