import Rethrow.Path
import Rethrow.Proofs.Encoding
import Rethrow.Store
import Rethrow.Text.Basic

/-!
File names as the version control program writes them. A name of plain characters is written as it is, any other between
quotation marks with escapes. What is written is printable, and between two strokes in it nothing stands that a path
would leave out.
-/
set_option autoImplicit false

namespace Rethrow

namespace Join

theorem split_on_eq (mark : Char) (chars : List Char) : splitOn mark chars = chars.splitOn mark := by
  rw [List.splitOn_eq_splitOnP]
  induction chars with
  | nil => rfl
  | cons char rest ih =>
      rw [splitOn, List.splitOnP_cons_eq_if_modifyHead, ← ih]
      by_cases same : char = mark
      · rw [if_pos same, if_pos (beq_iff_eq.mpr same)]
      · rw [if_neg same, if_neg (by simpa using same)]
        cases split : splitOn mark rest with
        | nil => exact absurd (ih.symm.trans split) (List.splitOnP_ne_nil _ _)
        | cons stretch others => rfl

theorem split_on_intercalate (mark : Char) (stretches : List (List Char)) (some : stretches ≠ [])
    (clear : ∀ stretch ∈ stretches, mark ∉ stretch) : splitOn mark ([mark].intercalate stretches) = stretches := by
  rw [split_on_eq]
  exact List.splitOn_intercalate mark clear some

theorem intercalate_split_on (mark : Char) (chars : List Char) : [mark].intercalate (splitOn mark chars) = chars := by
  rw [split_on_eq]
  exact List.intercalate_splitOn mark

theorem flat_map_intercalate (f : Char → List Char) (between : List Char) (stretches : List (List Char)) :
    (between.intercalate stretches).flatMap f = (between.flatMap f).intercalate (stretches.map (·.flatMap f)) := by
  induction stretches with
  | nil => rfl
  | cons first rest ih =>
      cases rest with
      | nil => simp
      | cons second rest =>
          rw [List.intercalate_cons_cons, List.flatMap_append, List.flatMap_append, ih]
          simp only [List.map_cons, List.intercalate_cons_cons]

theorem intercalate_concat (between : List Char) (char : Char) (stretches : List (List Char)) (some : stretches ≠ []) :
    ∃ others, others ≠ [] ∧ between.intercalate stretches ++ [char] = between.intercalate others ∧
      ∀ stretch ∈ others, stretch ∈ stretches ∨ ∃ held ∈ stretches, stretch = held ++ [char] := by
  induction stretches with
  | nil => exact absurd rfl some
  | cons first rest ih =>
      cases rest with
      | nil => exact ⟨[first ++ [char]], by simp, by simp, by simp⟩
      | cons second rest =>
          obtain ⟨others, nonempty, same, each⟩ := ih (List.cons_ne_nil _ _)
          obtain ⟨other, others, rfl⟩ := List.exists_cons_of_ne_nil nonempty
          refine ⟨first :: other :: others, by simp, ?_, ?_⟩
          · rw [List.intercalate_cons_cons, List.intercalate_cons_cons, List.append_assoc, same]
          · intro stretch member
            rcases List.mem_cons.mp member with rfl | later
            · exact .inl List.mem_cons_self
            · rcases each stretch later with held | ⟨held, listed, rfl⟩
              · exact .inl (List.mem_cons_of_mem _ held)
              · exact .inr ⟨held, List.mem_cons_of_mem _ listed, rfl⟩

theorem intercalate_cons (between : List Char) (char : Char) (first : List Char) (rest : List (List Char)) :
    char :: between.intercalate (first :: rest) = between.intercalate ((char :: first) :: rest) := by
  cases rest with
  | nil => simp
  | cons second rest => simp only [List.intercalate_cons_cons, List.cons_append]

end Join

namespace Listing

def isPrintable (char : Char) : Bool := 0x20 ≤ char.toNat && char.toNat ≤ 0x7E

def isPlain (char : Char) : Bool := isPrintable char && char ≠ '"' && char ≠ '\\'

def letters : List (Nat × Char) :=
  [(0x07, 'a'), (0x08, 'b'), (0x09, 't'), (0x0A, 'n'), (0x0B, 'v'), (0x0C, 'f'), (0x0D, 'r'), (0x22, '"'), (0x5C, '\\')]

def octalDigit (n : Nat) : Char := Char.ofNat (0x30 + n % 8)

def escaped (byte : UInt8) : List Char :=
  match letters.lookup byte.toNat with
  | some letter => ['\\', letter]
  | none =>
    if 0x20 ≤ byte.toNat && byte.toNat ≤ 0x7E then [Char.ofNat byte.toNat]
    else ['\\', octalDigit (byte.toNat / 64), octalDigit (byte.toNat / 8), octalDigit byte.toNat]

def quotedChar (char : Char) : List Char := (String.utf8EncodeChar char).flatMap escaped

def written (name : List Char) : List Char :=
  if name.all isPlain then name else '"' :: name.flatMap quotedChar ++ ['"']

/-- The name of a file from the topmost directory down. -/
def joined (names : Names) : List Char := ['/'].intercalate (names.map String.toList)

def text (files : List Names) : String := String.ofList (files.flatMap fun names => written (joined names) ++ ['\n'])

/-- Every directory on the way to a file and the file itself have names, and no name holds a stroke. -/
structure IsFileName (names : Names) : Prop where
  nonempty : names ≠ []
  proper : ∀ name ∈ names, name ≠ "" ∧ name ≠ "." ∧ name ≠ ".."
  clear : ∀ name ∈ names, '/' ∉ name.toList

/-- A name that is written as it is and is more than spaces. -/
def Verbatim (names : Names) : Prop := (∀ char ∈ joined names, isPlain char = true) ∧ ∃ char ∈ joined names, char ≠ ' '

theorem octal_digit_facts (n : Nat) : isPrintable (octalDigit n) = true ∧ octalDigit n ≠ '/' := by
  have digits : ∀ m < 8, isPrintable (Char.ofNat (0x30 + m)) = true ∧ Char.ofNat (0x30 + m) ≠ '/' := by decide
  exact digits (n % 8) (Nat.mod_lt n (by omega))

theorem escaped_cases (byte : UInt8) :
    (∃ rest, escaped byte = '\\' :: rest ∧ ∀ char ∈ rest, isPrintable char = true ∧ char ≠ '/') ∨
      escaped byte = [Char.ofNat byte.toNat] ∧ (Char.ofNat byte.toNat).toNat = byte.toNat ∧
        isPrintable (Char.ofNat byte.toNat) = true := by
  unfold escaped
  split
  · rename_i letter found
    obtain ⟨before, after, same, _⟩ := List.lookup_eq_some_iff.mp found
    have facts : ∀ pair ∈ letters, isPrintable pair.2 = true ∧ pair.2 ≠ '/' := by decide
    refine .inl ⟨[letter], rfl, fun char member => ?_⟩
    obtain rfl := List.mem_singleton.mp member
    exact facts (byte.toNat, char) (by rw [same]; simp)
  · split
    · rename_i bounds
      rw [Bool.and_eq_true, decide_eq_true_iff, decide_eq_true_iff] at bounds
      have value : (Char.ofNat byte.toNat).toNat = byte.toNat := Utf8.val_of_nat byte.toNat (.inl (by omega))
      exact .inr ⟨rfl, value, by rw [isPrintable, value]; simpa using bounds⟩
    · refine .inl ⟨_, rfl, fun char member => ?_⟩
      simp only [List.mem_cons, List.not_mem_nil, or_false] at member
      rcases member with rfl | rfl | rfl <;> exact octal_digit_facts _

theorem escaped_byte (byte : UInt8) : escaped byte ≠ [] ∧ (∀ char ∈ escaped byte, isPrintable char = true) ∧
    ('/' ∈ escaped byte → byte = 0x2F) ∧ ((escaped byte).head? = some '.' → byte = 0x2E) := by
  obtain ⟨rest, same, facts⟩ | ⟨same, value, printable⟩ := escaped_cases byte
  · rw [same]
    refine ⟨List.cons_ne_nil _ _, fun char member => ?_, fun member => ?_, fun head => ?_⟩
    · rcases List.mem_cons.mp member with rfl | held
      · decide
      · exact (facts char held).1
    · exact absurd rfl (facts '/' ((List.mem_cons.mp member).resolve_left (by decide))).2
    · exact absurd (Option.some.inj head) (by decide)
  · rw [same]
    refine ⟨List.cons_ne_nil _ _, fun char member => ?_, fun member => ?_, fun head => ?_⟩
    · rwa [List.mem_singleton.mp member]
    · rw [← List.mem_singleton.mp member] at value
      exact UInt8.toNat_inj.mp value.symm
    · rw [Option.some.inj head] at value
      exact UInt8.toNat_inj.mp value.symm

theorem char_of_byte (char : Char) (byte : UInt8) (single : byte < 0x80) (member : byte ∈ String.utf8EncodeChar char) :
    Char.ofNat byte.toNat = char := by
  have found := Utf8.scalar_mem_pieces (Utf8.encodeChars [char]) byte single (by simpa [Utf8.encodeChars] using member)
  rw [Utf8.pieces_encode_chars] at found
  simpa using found

theorem quoted_char_printable (char quoted : Char) (member : quoted ∈ quotedChar char) : isPrintable quoted = true := by
  obtain ⟨byte, _, held⟩ := List.mem_flatMap.mp member
  exact (escaped_byte byte).2.1 quoted held

theorem quoted_char_stroke (char : Char) (member : '/' ∈ quotedChar char) : char = '/' := by
  obtain ⟨byte, listed, held⟩ := List.mem_flatMap.mp member
  obtain rfl := (escaped_byte byte).2.2.1 held
  exact (char_of_byte char _ (by decide) listed).symm

theorem quoted_char_cons (char : Char) :
    ∃ first rest, quotedChar char = first :: rest ∧ (first = '.' → char = '.') := by
  cases bytes : String.utf8EncodeChar char with
  | nil =>
      have size := String.length_utf8EncodeChar char
      have positive := Char.utf8Size_pos char
      rw [bytes, List.length_nil] at size
      omega
  | cons byte others =>
      obtain ⟨first, rest, start⟩ := List.exists_cons_of_ne_nil (escaped_byte byte).1
      refine ⟨first, rest ++ others.flatMap escaped, by rw [quotedChar, bytes, List.flatMap_cons, start]; rfl, ?_⟩
      rintro rfl
      obtain rfl := (escaped_byte byte).2.2.2 (by rw [start]; rfl)
      exact (char_of_byte char 0x2E (by decide) (by rw [bytes]; exact List.mem_cons_self)).symm

theorem plain_printable (char : Char) (plain : isPlain char = true) : isPrintable char = true := by
  rw [isPlain, Bool.and_eq_true, Bool.and_eq_true] at plain
  exact plain.1.1

theorem printable_blank (char : Char) (printable : isPrintable char = true) (blank : isBlank char = true) :
    char = ' ' := by
  rw [isPrintable, Bool.and_eq_true, decide_eq_true_iff, decide_eq_true_iff] at printable
  simp only [isBlank, Bool.or_eq_true, Bool.and_eq_true, decide_eq_true_iff] at blank
  refine Char.ext (UInt32.toNat_inj.mp ?_)
  change char.toNat = 0x20
  omega

theorem printable_break (char : Char) (printable : isPrintable char = true) : Lines.isBreak char = false := by
  rw [isPrintable, Bool.and_eq_true, decide_eq_true_iff, decide_eq_true_iff] at printable
  simp only [Lines.isBreak, Bool.or_eq_false_iff, Bool.and_eq_false_iff, decide_eq_false_iff_not]
  omega

theorem written_printable (names : Names) : ∀ char ∈ written (joined names), isPrintable char = true := by
  intro char member
  rw [written] at member
  split at member
  · rename_i plain
    exact plain_printable char (List.all_eq_true.mp plain char member)
  · rw [List.cons_append, List.mem_cons, List.mem_append, List.mem_flatMap, List.mem_singleton] at member
    rcases member with rfl | ⟨held, _, quoted⟩ | rfl
    · rfl
    · exact quoted_char_printable held char quoted
    · rfl

-- Quoting keeps what is no row of dots from becoming one.
theorem quoted_dots (name : List Char) (count : Nat) (dots : name.flatMap quotedChar = List.replicate count '.') :
    name = List.replicate count '.' := by
  induction name generalizing count with
  | nil =>
      cases count with
      | zero => rfl
      | succ count => simp [List.replicate_succ] at dots
  | cons char rest ih =>
      obtain ⟨first, others, start, dot⟩ := quoted_char_cons char
      rw [List.flatMap_cons, start] at dots
      cases count with
      | zero => simp at dots
      | succ count =>
          rw [List.replicate_succ, List.cons_append, List.cons.injEq] at dots
          obtain rfl := dot dots.1
          obtain rfl : others = [] := by
            have single : quotedChar '.' = ['.'] := by decide +kernel
            rw [single] at start
            exact (List.cons.inj start).2.symm
          rw [ih count dots.2, List.replicate_succ]

def Stands (stretch : List Char) : Prop := ∀ count ≤ 2, stretch ≠ List.replicate count '.'

theorem stands_of_quote (stretch : List Char) (quote : '"' ∈ stretch) : Stands stretch := by
  rintro count - rfl
  exact absurd (List.eq_of_mem_replicate quote) (by decide)

theorem stands_iff (name : String) : Stands name.toList ↔ name ≠ "" ∧ name ≠ "." ∧ name ≠ ".." := by
  have rows : ∀ other : String, name ≠ other ↔ name.toList ≠ other.toList := fun other =>
    not_congr String.toList_inj.symm
  rw [rows, rows, rows]
  constructor
  · exact fun stands => ⟨stands 0 (by omega), stands 1 (by omega), stands 2 (by omega)⟩
  · rintro ⟨empty, dot, dots⟩ count bound
    rcases count with _ | _ | _ | count
    · exact empty
    · exact dot
    · exact dots
    · omega

theorem mem_split_on_quoted (stretches : List (List Char)) (some : stretches ≠ [])
    (clear : ∀ stretch ∈ stretches, '/' ∉ stretch) :
    ∀ stretch ∈ Join.splitOn '/' ('"' :: ['/'].intercalate stretches ++ ['"']),
      '"' ∈ stretch ∨ stretch ∈ stretches := by
  obtain ⟨first, rest, rfl⟩ := List.exists_cons_of_ne_nil some
  have opened : ∀ stretch ∈ ('"' :: first) :: rest, '/' ∉ stretch ∧ ('"' ∈ stretch ∨ stretch ∈ first :: rest) := by
    intro stretch member
    rcases List.mem_cons.mp member with rfl | later
    · exact ⟨by simp [clear first List.mem_cons_self], .inl List.mem_cons_self⟩
    · exact ⟨clear stretch (List.mem_cons_of_mem _ later), .inr (List.mem_cons_of_mem _ later)⟩
  obtain ⟨others, nonempty, same, each⟩ :=
    Join.intercalate_concat ['/'] '"' (('"' :: first) :: rest) (List.cons_ne_nil _ _)
  have closed : ∀ stretch ∈ others, '/' ∉ stretch ∧ ('"' ∈ stretch ∨ stretch ∈ first :: rest) := by
    intro stretch member
    rcases each stretch member with held | ⟨held, listed, rfl⟩
    · exact opened stretch held
    · exact ⟨by simp [(opened held listed).1], .inl (by simp)⟩
  rw [Join.intercalate_cons, same, Join.split_on_intercalate '/' others nonempty fun stretch member =>
    (closed stretch member).1]
  exact fun stretch member => (closed stretch member).2

theorem split_on_joined {names : Names} (valid : IsFileName names) :
    Join.splitOn '/' (joined names) = names.map String.toList := by
  refine Join.split_on_intercalate '/' _ (by simpa using valid.nonempty) fun stretch member => ?_
  obtain ⟨name, listed, rfl⟩ := List.mem_map.mp member
  exact valid.clear name listed

theorem written_stretches {names : Names} (valid : IsFileName names) :
    ∀ stretch ∈ Join.splitOn '/' (written (joined names)), Stands stretch := by
  have stands : ∀ name ∈ names, Stands name.toList := fun name member =>
    (stands_iff name).mpr (valid.proper name member)
  intro stretch member
  rw [written] at member
  split at member
  · rw [split_on_joined valid] at member
    obtain ⟨name, listed, rfl⟩ := List.mem_map.mp member
    exact stands name listed
  · have single : ['/'].flatMap quotedChar = ['/'] := by decide +kernel
    rw [joined, Join.flat_map_intercalate, single, List.map_map] at member
    have clear : ∀ stretch ∈ names.map ((·.flatMap quotedChar) ∘ String.toList), '/' ∉ stretch := by
      intro stretch held stroke
      obtain ⟨name, listed, rfl⟩ := List.mem_map.mp held
      obtain ⟨char, inside, quoted⟩ := List.mem_flatMap.mp stroke
      exact valid.clear name listed (quoted_char_stroke char quoted ▸ inside)
    rcases mem_split_on_quoted _ (by simpa using valid.nonempty) clear stretch member with quote | held
    · exact stands_of_quote stretch quote
    · obtain ⟨name, listed, rfl⟩ := List.mem_map.mp held
      exact fun count bound dots => stands name listed count bound (quoted_dots name.toList count dots)

end Listing
end Rethrow
