import Rethrow.Analysis
import Rethrow.Proofs.Application
import Rethrow.Proofs.Lapse

/-!
Trees whose nodes cover whole characters of their text. The grammar reads such trees; and with any reader that does,
a repair succeeds, however the ranges of its nodes lie to each other.
-/
set_option autoImplicit false

namespace Rethrow

/-- A node starts before it stops, and both between two characters of the text. Nothing is asked of two nodes. -/
def Script.Aligned (script : Script) (source : String) : Prop :=
  ∀ node ∈ script.root.preorder, node.start ≤ node.stop ∧
    node.start ∈ Utf8.boundaries source.toList ∧ node.stop ∈ Utf8.boundaries source.toList

def Reader.Aligned (read : Reader) : Prop := ∀ dialect source, (read dialect source).Aligned source

namespace Place
open Utf8

theorem next_offset (place : Place) (char : Char) :
    (place.next char).offset = place.offset + (String.utf8EncodeChar char).length := by
  rw [String.length_utf8EncodeChar, next]
  split
  · rename_i newline
    subst newline
    rfl
  · rfl

-- Past the end of the text, `take` gives all of it and the table its last place.
theorem scan_offset (place : Place) (chars : List Char) (index : Nat) :
    ((scan place chars)[index]?.getD (final place chars)).offset =
      place.offset + (encodeChars (chars.take index)).length := by
  induction chars generalizing place index with
  | nil => cases index <;> simp [scan, final, encodeChars]
  | cons char rest ih =>
      cases index with
      | zero => simp [scan, encodeChars]
      | succ index =>
          have later := ih (place.next char) index
          rw [next_offset] at later
          simp only [scan, List.getElem?_cons_succ, final, List.foldl_cons, List.take_succ_cons, encodeChars,
            List.flatMap_cons, List.length_append] at later ⊢
          omega

end Place

theorem Places.get_offset (chars : List Char) (index : Nat) :
    ((ofChars chars).get index).offset = (Utf8.encodeChars (chars.take index)).length := by
  have scanned := Place.scan_offset .origin chars index
  rw [get, ofChars, Array.getD_eq_getD_getElem?, List.getElem?_toArray, scanned]
  exact Nat.zero_add _

namespace Draft

def Spans (places : Places) (node : Node) : Prop :=
  ∃ first width, node.extent = ⟨places.get first, places.get (first + width)⟩

mutual
theorem place_spans (places : Places) (index : Nat) (draft : Draft) :
    ∀ node ∈ (place places index draft).1.preorder, Spans places node := by
  cases draft with
  | mk kind role start width parts =>
      intro node member
      rw [place, Node.preorder] at member
      rcases List.mem_cons.mp member with rfl | below
      · exact ⟨start, width, rfl⟩
      · exact place_all_spans places (index + 1) parts node below
theorem place_all_spans (places : Places) (index : Nat) (drafts : List Draft) :
    ∀ node ∈ Node.preorderAll (placeAll places index drafts).1, Spans places node := by
  cases drafts with
  | nil => simp [placeAll, Node.preorderAll]
  | cons draft rest =>
      intro node member
      rw [placeAll, Node.preorderAll] at member
      rcases List.mem_append.mp member with first | later
      · exact place_spans places index draft node first
      · exact place_all_spans places _ rest node later
end

end Draft

theorem Script.parse_aligned : Reader.Aligned Script.parse := by
  intro dialect source node member
  obtain ⟨first, width, extent⟩ := Draft.place_spans _ 0 _ node member
  have start : node.start = (Utf8.encodeChars (source.toList.take first)).length := by
    rw [Node.start, extent, Places.get_offset]
  have stop : node.stop = (Utf8.encodeChars (source.toList.take (first + width))).length := by
    rw [Node.stop, extent, Places.get_offset]
  have between : ∀ count, (Utf8.encodeChars (source.toList.take count)).length ∈ Utf8.boundaries source.toList :=
    fun count => List.mem_map.mpr ⟨_, (List.mem_inits _ _).mpr (List.take_prefix count _), rfl⟩
  refine ⟨?_, start ▸ between first, stop ▸ between (first + width)⟩
  rw [start, stop, List.take_add, Utf8.encode_chars_append, List.length_append]
  omega

namespace Script

theorem findings_perm (script : Script) (names : List String) :
    (script.findings names).Perm ((script.reports names).flatMap (·.2)) := List.mergeSort_perm _ _

theorem fix_clean (script : Script) (names : List String) (source : String) (aligned : script.Aligned source)
    (edit : Edit) (member : edit ∈ ((script.reports names).flatMap (·.2)).filterMap (·.fix)) :
    edit.Clean source.toList := by
  rw [script.reports_fixes names] at member
  obtain ⟨lapse, held, fixed⟩ := List.mem_filterMap.mp member
  have owns := (script.mem_lapses names lapse held).1
  obtain ⟨between, constructor, list, rest, made⟩ := owns.shape
  have listMember := Node.below_mem _ _ _ owns.statement_mem made.list_below
  have argument : ∀ child ∈ list.children, child ∈ script.root.preorder :=
    fun child direct => Node.child_mem _ list child listMember direct
  rcases lapse.candidate.fix_inversion lapse.name edit fixed with ⟨_, rfl⟩ | ⟨literal, found, rfl⟩
  · obtain ⟨_, _, ends⟩ := aligned _ (argument _ made.message_child)
    obtain ⟨front, back, shape, stop⟩ := Utf8.mem_boundaries _ _ ends
    exact ⟨front, [], back, by simp [shape], by simp [stop], by simp [stop]⟩
  · obtain ⟨forward, starts, ends⟩ := aligned _ (argument _ (made.literal_child literal found))
    obtain ⟨front, back, shape, start⟩ := Utf8.mem_boundaries _ _ starts
    obtain ⟨other, beyond, otherShape, stop⟩ := Utf8.mem_boundaries _ _ ends
    obtain ⟨middle, rfl⟩ := Utf8.prefix_of_length front back other beyond (shape.symm.trans otherShape) (by omega)
    exact ⟨front, middle, beyond, otherShape, by simp [start], by simp [stop]⟩

end Script

namespace Reader

variable {read : Reader} {settings : Settings} {source suffix : String} {dialect : Dialect}

/-- The edits that a repair of a text makes. -/
def edits (read : Reader) (settings : Settings) (dialect : Dialect) (source : String) : List Edit :=
  Script.fixes ((read dialect source).findings settings.constructors)

theorem analyze_supported (supported : Dialect.ofSuffix? suffix = some dialect) :
    read.analyze settings source suffix = .ok ((read dialect source).findings settings.constructors) := by
  simp only [analyze, script, supported]
  rfl

theorem repair_of_no_edits (supported : Dialect.ofSuffix? suffix = some dialect)
    (none : read.edits settings dialect source = []) :
    read.repair settings source suffix = .ok ⟨source, 0, (read dialect source).findings settings.constructors⟩ := by
  rw [edits] at none
  simp only [repair, analyze_supported supported, bind, Except.bind, none]
  rfl

theorem repair_of_edits (supported : Dialect.ofSuffix? suffix = some dialect)
    (some : read.edits settings dialect source ≠ []) :
    read.repair settings source suffix =
      match Edit.applyAll source (read.edits settings dialect source) with
      | .ok fixed => .ok ⟨fixed, (read.edits settings dialect source).length,
          (read dialect fixed).findings settings.constructors⟩
      | .error error => .error (.edit error) := by
  have filled : (read.edits settings dialect source).isEmpty = false := by simpa using some
  rw [edits] at *
  simp only [repair, analyze_supported supported, bind, Except.bind, filled]
  cases Edit.applyAll source (Script.fixes ((read dialect source).findings settings.constructors)) <;> rfl

theorem repair_inversion (result : Repair) (done : read.repair settings source suffix = .ok result) :
    ∃ dialect, Dialect.ofSuffix? suffix = some dialect ∧
      result.applied = (read.edits settings dialect source).length ∧
      Edit.Replaces 0 (Utf8.encode source) (read.edits settings dialect source) (Utf8.encode result.source) ∧
      read.analyze settings result.source suffix = .ok result.remaining := by
  cases supported : Dialect.ofSuffix? suffix with
  | none => simp [repair, analyze, script, supported, bind, Except.bind] at done
  | some dialect =>
      refine ⟨dialect, rfl, ?_⟩
      by_cases none : read.edits settings dialect source = []
      · rw [repair_of_no_edits supported none] at done
        cases done
        rw [none]
        exact ⟨rfl, .rest _ _, analyze_supported supported⟩
      · rw [repair_of_edits supported none] at done
        cases applied : Edit.applyAll source (read.edits settings dialect source) with
        | error error => simp [applied] at done
        | ok fixed =>
            simp only [applied, Except.ok.injEq] at done
            subst done
            have replaced := Edit.apply_all_replaces source fixed _ applied
            rw [edits, Script.fixes, Edit.select_disjoint_in_order] at replaced
            exact ⟨rfl, replaced, analyze_supported supported⟩

theorem repair_succeeds (supported : Dialect.ofSuffix? suffix = some dialect)
    (aligned : (read dialect source).Aligned source) : ∃ result, read.repair settings source suffix = .ok result := by
  by_cases none : read.edits settings dialect source = []
  · exact ⟨_, repair_of_no_edits supported none⟩
  · have clean : ∀ edit ∈ read.edits settings dialect source, edit.Clean source.toList := by
      intro edit member
      have fixed := Edit.select_disjoint_subset _ edit member
      rw [((Script.findings_perm _ _).filterMap _).mem_iff] at fixed
      exact Script.fix_clean _ _ source aligned edit fixed
    obtain ⟨fixed, applied⟩ := Edit.apply_all_selected source _ clean
    have done := repair_of_edits supported none
    rw [edits, Script.fixes, applied] at done
    exact ⟨_, done⟩

theorem repair_returns (read : Reader) (settings : Settings) (source suffix : String) (dialect : Dialect)
    (supported : Dialect.ofSuffix? suffix = some dialect) (aligned : (read dialect source).Aligned source) :
    ∃ result, read.repair settings source suffix = .ok result ∧
      result.applied = (read.edits settings dialect source).length ∧
      Edit.Replaces 0 (Utf8.encode source) (read.edits settings dialect source) (Utf8.encode result.source) ∧
      read.analyze settings result.source suffix = .ok result.remaining := by
  obtain ⟨result, done⟩ := repair_succeeds supported aligned
  obtain ⟨chosen, same, facts⟩ := repair_inversion result done
  rw [supported] at same
  cases same
  exact ⟨result, done, facts⟩

end Reader

/-- Behind a byte order mark, characters of two, three and four bytes beside an options literal to replace and a place
to insert one; lines end with two characters. -/
def wideSource : String :=
  "\uFEFFtry\x7b\x7dcatch(é)\x7b\r\nif(é)throw Error('日',\x7ba:'日'\x7d);throw Error('𝄞')\x7d\r\n"

def wideEdits : List Edit := [⟨44, 53, "\x7b cause: é \x7d"⟩, ⟨73, 73, ", \x7b cause: é \x7d"⟩]

theorem wide_source_edits : Reader.edits Script.parse {} .script wideSource = wideEdits := by
  have findings : (Script.parse .script wideSource).findings ["Error"] =
      ((Script.parse .script wideSource).reports ["Error"]).flatMap (·.2) :=
    List.mergeSort_of_pairwise (by decide +kernel)
  have fixes : (((Script.parse .script wideSource).reports ["Error"]).flatMap (·.2)).filterMap (·.fix) = wideEdits := by
    decide +kernel
  have sorted : wideEdits.mergeSort Edit.widestFirst = wideEdits := List.mergeSort_of_pairwise (by decide)
  rw [Reader.edits, Script.fixes, findings, fixes, Edit.selectDisjoint, sorted]
  decide

theorem wide_source_repaired :
    Dialect.ofSuffix? ".js" = some .script ∧ (Script.parse .script wideSource).Aligned wideSource ∧
      ∃ result, repair {} wideSource ".js" = .ok result ∧ result.applied = 2 ∧
        Edit.Replaces 0 (Utf8.encode wideSource) wideEdits (Utf8.encode result.source) ∧
        analyze {} result.source ".js" = .ok result.remaining := by
  have supported : Dialect.ofSuffix? ".js" = some .script := by decide +kernel
  have aligned := Script.parse_aligned .script wideSource
  have returns := Reader.repair_returns Script.parse {} wideSource ".js" .script supported aligned
  rw [wide_source_edits] at returns
  exact ⟨supported, aligned, returns⟩

end Rethrow
