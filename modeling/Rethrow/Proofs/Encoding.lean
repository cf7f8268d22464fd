import Mathlib.Data.List.Basic
import Rethrow.Text.Utf8

/-!
Encoding and decoding. A text can be read back from its bytes, character by character, and bytes that are read without
a fault are those of the text that was read; and in any byte string a character of one byte is found again wherever
its byte stands.
-/
set_option autoImplicit false

namespace Rethrow.Utf8

theorem is_continuation_iff (byte : UInt8) : isContinuation byte = true ↔ 0x80 ≤ byte.toNat ∧ byte.toNat ≤ 0xBF := by
  rw [isContinuation, Bool.and_eq_true, decide_eq_true_iff, decide_eq_true_iff, UInt8.le_iff_toNat_le,
    UInt8.le_iff_toNat_le]
  rfl

theorem may_follow_iff (lead byte : UInt8) :
    mayFollow lead byte = true ↔ (0x80 ≤ byte.toNat ∧ byte.toNat ≤ 0xBF) ∧
      (lead.toNat = 0xE0 → 0xA0 ≤ byte.toNat) ∧ (lead.toNat = 0xED → byte.toNat ≤ 0x9F) ∧
      (lead.toNat = 0xF0 → 0x90 ≤ byte.toNat) ∧ (lead.toNat = 0xF4 → byte.toNat ≤ 0x8F) := by
  have equal : ∀ value : UInt8, lead = value ↔ lead.toNat = value.toNat := fun value => UInt8.toNat_inj.symm
  unfold mayFollow
  simp only [equal, UInt8.le_iff_toNat_le, UInt8.reduceToNat]
  repeat' split
  all_goals
    simp only [Bool.and_eq_true, decide_eq_true_iff, is_continuation_iff]
    omega

theorem scalar_mem_pieces (bytes : Bytes) (byte : UInt8) (single : byte < 0x80) (member : byte ∈ bytes) :
    Piece.scalar (Char.ofNat byte.toNat) ∈ pieces bytes := by
  have small : byte.toNat < 0x80 := UInt8.lt_iff_toNat_lt.mp single
  have second : ∀ lead next : UInt8, mayFollow lead next = true → next ≠ byte := by
    rintro lead next follows rfl
    have := ((may_follow_iff lead next).mp follows).1
    omega
  have later : ∀ next : UInt8, isContinuation next = true → next ≠ byte := by
    rintro next continues rfl
    have := (is_continuation_iff next).mp continues
    omega
  fun_induction pieces bytes <;> grind

theorem mem_decode_lossy (bytes : Bytes) (byte : UInt8) (single : byte < 0x80) (member : byte ∈ bytes) :
    Char.ofNat byte.toNat ∈ (decodeLossy bytes).toList := by
  rw [decodeLossy, String.toList_ofList]
  exact List.mem_map.mpr ⟨_, scalar_mem_pieces bytes byte single member, rfl⟩

theorem pieces_one (a : UInt8) (rest : Bytes) (small : a.toNat < 0x80) :
    pieces (a :: rest) = .scalar (Char.ofNat a.toNat) :: pieces rest := by
  have single : a < 0x80 := UInt8.lt_iff_toNat_lt.mpr small
  rw [pieces.eq_def]
  simp only [single, if_true]

theorem lead_bounds (a : UInt8) (low : 0xC2 ≤ a.toNat) (high : a.toNat ≤ 0xF4) :
    ¬ a < 0x80 ∧ (a < 0xC2 || 0xF4 < a) = false := by
  rw [Bool.or_eq_false_iff, decide_eq_false_iff_not, decide_eq_false_iff_not, UInt8.lt_iff_toNat_lt,
    UInt8.lt_iff_toNat_lt, UInt8.lt_iff_toNat_lt]
  exact ⟨Nat.not_lt.mpr (Nat.le_trans (by decide) low), Nat.not_lt.mpr low, Nat.not_lt.mpr high⟩

theorem pieces_two (a b : UInt8) (rest : Bytes) (low : 0xC2 ≤ a.toNat) (high : a.toNat < 0xE0)
    (second : mayFollow a b = true) : pieces (a :: b :: rest) = .scalar (twoBytes a b) :: pieces rest := by
  obtain ⟨many, starts⟩ := lead_bounds a low (by omega)
  have two : a < 0xE0 := UInt8.lt_iff_toNat_lt.mpr high
  rw [pieces.eq_def]
  simp only [many, starts, second, two, Bool.not_true, Bool.false_eq_true, if_false, if_true]

theorem pieces_three (a b c : UInt8) (rest : Bytes) (low : 0xE0 ≤ a.toNat) (high : a.toNat < 0xF0)
    (second : mayFollow a b = true) (third : isContinuation c = true) :
    pieces (a :: b :: c :: rest) = .scalar (threeBytes a b c) :: pieces rest := by
  obtain ⟨many, starts⟩ := lead_bounds a (by omega) (by omega)
  have two : ¬ a < 0xE0 := fun less => Nat.not_lt.mpr low (UInt8.lt_iff_toNat_lt.mp less)
  have three : a < 0xF0 := UInt8.lt_iff_toNat_lt.mpr high
  rw [pieces.eq_def]
  simp only [many, starts, second, third, two, three, Bool.not_true, Bool.false_eq_true, if_false, if_true]

theorem pieces_four (a b c d : UInt8) (rest : Bytes) (low : 0xF0 ≤ a.toNat) (high : a.toNat ≤ 0xF4)
    (second : mayFollow a b = true) (third : isContinuation c = true) (fourth : isContinuation d = true) :
    pieces (a :: b :: c :: d :: rest) = .scalar (fourBytes a b c d) :: pieces rest := by
  obtain ⟨many, starts⟩ := lead_bounds a (by omega) high
  have two : ¬ a < 0xE0 := fun less => Nat.not_lt.mpr (Nat.le_trans (by decide) low) (UInt8.lt_iff_toNat_lt.mp less)
  have three : ¬ a < 0xF0 := fun less => Nat.not_lt.mpr low (UInt8.lt_iff_toNat_lt.mp less)
  rw [pieces.eq_def]
  simp only [many, starts, second, third, fourth, two, three, Bool.not_true, Bool.false_eq_true, if_false]

theorem to_nat_of_nat (n : Nat) (small : n < 256) : (UInt8.ofNat n).toNat = n := by
  simp [Nat.mod_eq_of_lt small]

-- The bytes of a character are read back as that character. The cases are the lengths of the encoding.
theorem pieces_encode_char (char : Char) (rest : Bytes) :
    pieces (String.utf8EncodeChar char ++ rest) = .scalar char :: pieces rest := by
  have valid : char.toNat < 0xD800 ∨ 0xDFFF < char.toNat ∧ char.toNat < 0x110000 := char.valid
  have back : ∀ n, n = char.toNat → Char.ofNat n = char := fun n same => same ▸ Char.ofNat_toNat char
  unfold String.utf8EncodeChar
  generalize size : char.val.toNat = v
  have value : char.toNat = v := size
  rw [value] at valid
  dsimp only
  by_cases one : v ≤ 0x7f
  · have first := to_nat_of_nat v (by omega)
    rw [if_pos one, List.cons_append, List.nil_append, pieces_one _ rest (by omega), first, back v value.symm]
  rw [if_neg one]
  by_cases two : v ≤ 0x7ff
  · have first := to_nat_of_nat (v / 64 % 32 + 0xc0) (by omega)
    have second := to_nat_of_nat (v % 64 + 0x80) (by omega)
    rw [if_pos two, List.cons_append, List.cons_append, List.nil_append,
      pieces_two _ _ rest (by omega) (by omega) ((may_follow_iff _ _).mpr (by omega)), twoBytes, payload, first, second,
      back _ (by omega)]
  rw [if_neg two]
  by_cases three : v ≤ 0xffff
  · have first := to_nat_of_nat (v / 4096 % 16 + 0xe0) (by omega)
    have second := to_nat_of_nat (v / 64 % 64 + 0x80) (by omega)
    have third := to_nat_of_nat (v % 64 + 0x80) (by omega)
    rw [if_pos three, List.cons_append, List.cons_append, List.cons_append, List.nil_append,
      pieces_three _ _ _ rest (by omega) (by omega) ((may_follow_iff _ _).mpr (by omega))
        ((is_continuation_iff _).mpr (by omega)), threeBytes, payload, payload, first, second, third, back _ (by omega)]
  · have first := to_nat_of_nat (v / 262144 % 8 + 0xf0) (by omega)
    have second := to_nat_of_nat (v / 4096 % 64 + 0x80) (by omega)
    have third := to_nat_of_nat (v / 64 % 64 + 0x80) (by omega)
    have fourth := to_nat_of_nat (v % 64 + 0x80) (by omega)
    rw [if_neg three, List.cons_append, List.cons_append, List.cons_append, List.cons_append, List.nil_append,
      pieces_four _ _ _ _ rest (by omega) (by omega) ((may_follow_iff _ _).mpr (by omega))
        ((is_continuation_iff _).mpr (by omega)) ((is_continuation_iff _).mpr (by omega)),
      fourBytes, payload, payload, payload, first, second, third, fourth, back _ (by omega)]

theorem pieces_encode_chars (chars : List Char) : pieces (encodeChars chars) = chars.map .scalar := by
  induction chars with
  | nil => simp [encodeChars, pieces]
  | cons char rest ih =>
      rw [encodeChars, List.flatMap_cons, pieces_encode_char, List.map_cons]
      exact congrArg _ ih

theorem read_pieces_scalars (position : Nat) (chars : List Char) :
    readPieces position (chars.map .scalar) = .ok chars := by
  induction chars generalizing position with
  | nil => rfl
  | cons char rest ih =>
      rw [List.map_cons, readPieces, ih]
      rfl

theorem decode_encode_chars (chars : List Char) : decode (encodeChars chars) = .ok (String.ofList chars) := by
  rw [decode, pieces_encode_chars, read_pieces_scalars]
  rfl

theorem decode_encode (text : String) : decode (encode text) = .ok text := by
  rw [encode, decode_encode_chars, String.ofList_toList]

theorem val_of_nat (v : Nat) (valid : v.isValidChar) : (Char.ofNat v).val.toNat = v := by
  rw [Char.ofNat, dif_pos valid]
  exact UInt32.toNat_ofNatLT ..

theorem of_nat_eq_byte (byte : UInt8) (v : Nat) (same : v = byte.toNat) : UInt8.ofNat v = byte := by
  rw [same, UInt8.ofNat_toNat]

theorem encode_one_byte (a : UInt8) (small : a.toNat < 0x80) : String.utf8EncodeChar (Char.ofNat a.toNat) = [a] := by
  have value := val_of_nat a.toNat (.inl (by omega))
  rw [String.utf8EncodeChar, value]
  rw [if_pos (by omega), UInt8.ofNat_toNat]

theorem encode_two_bytes (a b : UInt8) (low : 0xC2 ≤ a.toNat) (high : a.toNat < 0xE0) (second : mayFollow a b = true) :
    String.utf8EncodeChar (twoBytes a b) = [a, b] := by
  have follows := (may_follow_iff a b).mp second
  have value := val_of_nat (a.toNat % 32 * 64 + payload b) (.inl (by rw [payload]; omega))
  rw [twoBytes, String.utf8EncodeChar, value]
  rw [payload] at *
  rw [if_neg (by omega), if_pos (by omega), of_nat_eq_byte a _ (by omega), of_nat_eq_byte b _ (by omega)]

theorem encode_three_bytes (a b c : UInt8) (low : 0xE0 ≤ a.toNat) (high : a.toNat < 0xF0)
    (second : mayFollow a b = true) (third : isContinuation c = true) :
    String.utf8EncodeChar (threeBytes a b c) = [a, b, c] := by
  have follows := (may_follow_iff a b).mp second
  have continues := (is_continuation_iff c).mp third
  have value := val_of_nat ((a.toNat % 16 * 64 + b.toNat % 64) * 64 + c.toNat % 64) (by rw [Nat.isValidChar]; omega)
  rw [threeBytes, payload, payload, String.utf8EncodeChar, value]
  rw [if_neg (by omega), if_neg (by omega), if_pos (by omega), of_nat_eq_byte a _ (by omega),
    of_nat_eq_byte b _ (by omega), of_nat_eq_byte c _ (by omega)]

theorem encode_four_bytes (a b c d : UInt8) (low : 0xF0 ≤ a.toNat) (high : a.toNat ≤ 0xF4)
    (second : mayFollow a b = true) (third : isContinuation c = true) (fourth : isContinuation d = true) :
    String.utf8EncodeChar (fourBytes a b c d) = [a, b, c, d] := by
  have follows := (may_follow_iff a b).mp second
  have continues := (is_continuation_iff c).mp third
  have ends := (is_continuation_iff d).mp fourth
  have value := val_of_nat (((a.toNat % 8 * 64 + b.toNat % 64) * 64 + c.toNat % 64) * 64 + d.toNat % 64)
    (by rw [Nat.isValidChar]; omega)
  rw [fourBytes, payload, payload, payload, String.utf8EncodeChar, value]
  rw [if_neg (by omega), if_neg (by omega), if_neg (by omega), of_nat_eq_byte a _ (by omega),
    of_nat_eq_byte b _ (by omega), of_nat_eq_byte c _ (by omega), of_nat_eq_byte d _ (by omega)]

theorem read_pieces_scalar (position : Nat) (char : Char) (rest : List Piece) (chars : List Char)
    (read : readPieces position (.scalar char :: rest) = .ok chars) :
    ∃ tail, chars = char :: tail ∧ readPieces (position + char.utf8Size) rest = .ok tail := by
  rw [readPieces] at read
  cases result : readPieces (position + char.utf8Size) rest with
  | error error => simp [result, Except.map] at read
  | ok tail =>
      simp only [result, Except.map, Except.ok.injEq] at read
      exact ⟨tail, read.symm, rfl⟩

theorem encode_chars_read (char : Char) (taken rest : Bytes) (position : Nat) (chars : List Char)
    (whole : String.utf8EncodeChar char = taken)
    (read : readPieces position (.scalar char :: pieces rest) = .ok chars)
    (later : ∀ position tail, readPieces position (pieces rest) = .ok tail → encodeChars tail = rest) :
    encodeChars chars = taken ++ rest := by
  obtain ⟨tail, rfl, next⟩ := read_pieces_scalar position char _ chars read
  rw [encodeChars, List.flatMap_cons, whole]
  exact congrArg _ (later _ tail next)

theorem lead_of_not_fault (a : UInt8) (starts : ¬ (a < 0xC2 || 0xF4 < a) = true) :
    0xC2 ≤ a.toNat ∧ a.toNat ≤ 0xF4 := by
  rw [Bool.or_eq_true, decide_eq_true_iff, decide_eq_true_iff, not_or, UInt8.lt_iff_toNat_lt,
    UInt8.lt_iff_toNat_lt] at starts
  exact ⟨Nat.not_lt.mp starts.1, Nat.not_lt.mp starts.2⟩

-- Strict reading accepts nothing but what writing gives. The cases are those of `pieces`; a fault is never read.
theorem encode_chars_read_pieces (bytes : Bytes) (position : Nat) (chars : List Char)
    (read : readPieces position (pieces bytes) = .ok chars) : encodeChars chars = bytes := by
  fun_induction pieces bytes generalizing position chars with
  | case1 => cases read; rfl
  | case2 a rest small ih =>
      exact encode_chars_read _ [a] rest position chars (encode_one_byte a (UInt8.lt_iff_toNat_lt.mp small)) read ih
  | case3 | case4 | case5 | case7 | case8 | case10 | case11 => cases read
  | case6 a _ starts b rest second two ih =>
      have low := (lead_of_not_fault a starts).1
      exact encode_chars_read _ [a, b] rest position chars
        (encode_two_bytes a b low (UInt8.lt_iff_toNat_lt.mp two) (by simpa using second)) read ih
  | case9 a _ _ b second two c rest third three ih =>
      have low : 0xE0 ≤ a.toNat := Nat.not_lt.mp fun less => two (UInt8.lt_iff_toNat_lt.mpr less)
      exact encode_chars_read _ [a, b, c] rest position chars
        (encode_three_bytes a b c low (UInt8.lt_iff_toNat_lt.mp three) (by simpa using second) (by simpa using third))
        read ih
  | case12 a _ starts b second _ c third three d rest fourth ih =>
      have low : 0xF0 ≤ a.toNat := Nat.not_lt.mp fun less => three (UInt8.lt_iff_toNat_lt.mpr less)
      exact encode_chars_read _ [a, b, c, d] rest position chars
        (encode_four_bytes a b c d low (lead_of_not_fault a starts).2 (by simpa using second) (by simpa using third)
          (by simpa using fourth)) read ih

theorem encode_of_decode (bytes : Bytes) (text : String) (read : decode bytes = .ok text) : encode text = bytes := by
  rw [decode] at read
  cases result : readPieces 0 (pieces bytes) with
  | error error => simp [result, Except.map] at read
  | ok chars =>
      simp only [result, Except.map, Except.ok.injEq] at read
      rw [encode, ← read, String.toList_ofList]
      exact encode_chars_read_pieces bytes 0 chars result

theorem decode_cases (bytes : Bytes) :
    (∃ text, encode text = bytes ∧ decode bytes = .ok text) ∨
      (∀ text, encode text ≠ bytes) ∧ ∃ error, decode bytes = .error error := by
  cases read : decode bytes with
  | ok text => exact .inl ⟨text, encode_of_decode bytes text read, rfl⟩
  | error error =>
      refine .inr ⟨?_, error, rfl⟩
      rintro text rfl
      rw [decode_encode] at read
      cases read

end Rethrow.Utf8
