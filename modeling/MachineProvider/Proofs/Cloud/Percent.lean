import MachineProvider.Cloud.Url
import Mathlib.Data.List.Basic

/-!
# Segments with escaped characters

In the path of an address a segment is written with its special characters escaped. Different
segments without percent signs are written differently, since the bytes of a segment can be read off
(`Url.written_injective`). What is written consists of characters that stand for themselves
(`Url.isLiteral_of_mem_written`), and it stands for dots only if it is as it was
(`Url.written_eq_of_dots`).
-/

namespace MachineProvider.Url

/-- A segment as it is written in a path. -/
def written (segment : List Char) : List Char :=
  segment.flatMap (percentEncode escapedInPath)

/-- Whether a character is escaped in a path. -/
def isEscaped (c : Char) : Bool :=
  c.toNat < 0x20 || c.toNat ≥ 0x7F || escapedInPath.contains c

/-- Whether a character may stand in a segment and stands for itself there. -/
def isLiteral (c : Char) : Bool :=
  !isEscaped c && !isSlash c

/-- The number that a hexadecimal digit stands for. -/
def hexValue (c : Char) : Nat :=
  if c.toNat < 'A'.toNat then c.toNat - '0'.toNat else c.toNat - 'A'.toNat + 10

/-- The bytes that a text stands for in which percent signs only escape bytes. -/
def unescape : List Char → List UInt8
  | '%' :: high :: low :: rest => .ofNat (hexValue high * 16 + hexValue low) :: unescape rest
  | c :: rest => c.toUInt8 :: unescape rest
  | [] => []

section Escaping

variable {c : Char} {segment other rest : List Char}

theorem percentEncode_of_isEscaped (h : isEscaped c = true) :
    percentEncode escapedInPath c = (String.utf8EncodeChar c).flatMap percentByte :=
  if_pos h

theorem percentEncode_of_not_isEscaped (h : isEscaped c = false) :
    percentEncode escapedInPath c = [c] :=
  if_neg (Bool.eq_false_iff.mp h)

theorem hexValue_hexDigit {n : Nat} (h : n < 16) : hexValue (hexDigit n) = n := by
  have all : ∀ n : Fin 16, hexValue (hexDigit n) = n := by decide
  exact all ⟨n, h⟩

theorem unescape_percentByte (b : UInt8) (rest : List Char) :
    unescape (percentByte b ++ rest) = b :: unescape rest := by
  have bound : b.toNat < 256 := b.toNat_lt
  have high : hexValue (hexDigit (b.toNat / 16)) = b.toNat / 16 := hexValue_hexDigit (by omega)
  have low : hexValue (hexDigit (b.toNat % 16)) = b.toNat % 16 := hexValue_hexDigit (by omega)
  have digits : b.toNat / 16 * 16 + b.toNat % 16 = b.toNat := by omega
  simp only [percentByte, List.cons_append, List.nil_append, unescape, high, low, digits,
    UInt8.ofNat_toNat]

theorem unescape_percentBytes (bytes : List UInt8) (rest : List Char) :
    unescape (bytes.flatMap percentByte ++ rest) = bytes ++ unescape rest := by
  induction bytes with
  | nil => rfl
  | cons b bytes ih => rw [List.flatMap_cons, List.append_assoc, unescape_percentByte, ih]; rfl

theorem unescape_cons (h : c ≠ '%') : unescape (c :: rest) = c.toUInt8 :: unescape rest := by
  rw [unescape]
  intro high low rest' percent
  exact absurd percent h

/-- A character that stands for itself is one byte. -/
theorem utf8EncodeChar_of_not_isEscaped (h : isEscaped c = false) :
    String.utf8EncodeChar c = [c.toUInt8] := by
  have ascii : c.toNat < 0x7F := by
    simp only [isEscaped, Bool.or_eq_false_iff, decide_eq_false_iff_not] at h
    omega
  have size : c.utf8Size = 1 := by
    rw [Char.utf8Size_eq_one_iff, UInt32.le_iff_toNat_le]
    exact Nat.le_of_lt ascii
  exact String.utf8EncodeChar_eq_singleton size

theorem unescape_written (plain : '%' ∉ segment) :
    unescape (written segment) = segment.flatMap String.utf8EncodeChar := by
  induction segment with
  | nil => rfl
  | cons c rest ih =>
      rw [List.mem_cons, not_or] at plain
      rw [written, List.flatMap_cons, List.flatMap_cons]
      change unescape (_ ++ written rest) = _
      rw [← ih plain.2]
      cases escaped : isEscaped c with
      | true => rw [percentEncode_of_isEscaped escaped, unescape_percentBytes]
      | false =>
          rw [percentEncode_of_not_isEscaped escaped, utf8EncodeChar_of_not_isEscaped escaped]
          exact unescape_cons (Ne.symm plain.1)

/-- Different segments without percent signs are written differently. -/
theorem written_injective (plain : '%' ∉ segment) (plain' : '%' ∉ other)
    (same : written segment = written other) : segment = other := by
  have bytes : segment.flatMap String.utf8EncodeChar = other.flatMap String.utf8EncodeChar := by
    rw [← unescape_written plain, ← unescape_written plain', same]
  have texts : String.ofList segment = String.ofList other := by
    rw [← String.toByteArray_inj, String.toByteArray_ofList, String.toByteArray_ofList]
    exact congrArg List.toByteArray bytes
  exact String.ofList_injective texts

theorem isLiteral_of_mem_percentByte {b : UInt8} (member : c ∈ percentByte b) :
    isLiteral c = true := by
  have digit {n : Nat} (h : n < 16) : isLiteral (hexDigit n) = true := by
    have all : ∀ n : Fin 16, isLiteral (hexDigit n) = true := by decide
    exact all ⟨n, h⟩
  have bound : b.toNat < 256 := b.toNat_lt
  simp only [percentByte, List.mem_cons, List.not_mem_nil, or_false] at member
  rcases member with rfl | rfl | rfl
  · decide
  · exact digit (by omega)
  · exact digit (by omega)

/-- What is written of a segment stands for itself. -/
theorem isLiteral_of_mem_written (unslashed : ∀ c ∈ segment, isSlash c = false)
    (member : c ∈ written segment) : isLiteral c = true := by
  obtain ⟨d, within, part⟩ := List.mem_flatMap.mp member
  cases escaped : isEscaped d with
  | true =>
      rw [percentEncode_of_isEscaped escaped] at part
      obtain ⟨b, -, digit⟩ := List.mem_flatMap.mp part
      exact isLiteral_of_mem_percentByte digit
  | false =>
      rw [percentEncode_of_not_isEscaped escaped, List.mem_singleton] at part
      subst part
      simp [isLiteral, escaped, unslashed c within]

theorem written_cons (c : Char) (rest : List Char) :
    written (c :: rest) = percentEncode escapedInPath c ++ written rest :=
  List.flatMap_cons

theorem written_cons_of_not_isEscaped (h : isEscaped c = false) (rest : List Char) :
    written (c :: rest) = c :: written rest := by
  rw [written_cons, percentEncode_of_not_isEscaped h]
  rfl

/-- What stands for itself is written as it is. -/
theorem written_eq_self (literal : ∀ c ∈ segment, isEscaped c = false) :
    written segment = segment := by
  induction segment with
  | nil => rfl
  | cons c rest ih =>
      rw [List.forall_mem_cons] at literal
      rw [written_cons_of_not_isEscaped literal.1, ih literal.2]

/-- A character that is escaped does not begin with the byte of a dot. -/
theorem utf8EncodeChar_of_isEscaped (h : isEscaped c = true) :
    ∃ b bytes, String.utf8EncodeChar c = b :: bytes ∧ b.toNat ≠ '.'.toNat := by
  have other : c.val.toNat ≠ '.'.toNat := by
    intro dot
    obtain rfl : c = '.' := Char.ext (UInt32.toNat_inj.mp dot)
    revert h
    decide
  have dot : '.'.toNat = 46 := rfl
  rw [dot] at other ⊢
  unfold String.utf8EncodeChar
  dsimp only
  split
  · exact ⟨_, _, rfl, by rw [UInt8.toNat_ofNat']; omega⟩
  · split
    · exact ⟨_, _, rfl, by rw [UInt8.toNat_ofNat']; omega⟩
    · split
      · exact ⟨_, _, rfl, by rw [UInt8.toNat_ofNat']; omega⟩
      · exact ⟨_, _, rfl, by rw [UInt8.toNat_ofNat']; omega⟩

/-- A byte that is not the one of a dot does not stand for one. -/
theorem percent_mem_plainDots {b : UInt8} (other : b.toNat ≠ '.'.toNat) (rest : List Char) :
    '%' ∈ plainDots (percentByte b ++ rest) := by
  have high : ∀ n : Fin 16, hexDigit n = '2' → n = 2 := by decide
  have low : ∀ n : Fin 16, hexDigit n = 'E' → n = 14 := by decide
  have upper : ∀ n : Fin 16, hexDigit n ≠ 'e' := by decide
  have bound : b.toNat < 256 := b.toNat_lt
  have dot : '.'.toNat = 46 := rfl
  rw [percentByte, List.cons_append, plainDots]
  · exact List.mem_cons_self
  · intro _ _ same
    have second := (List.cons.inj (List.cons.inj same).2).1
    exact upper ⟨b.toNat % 16, by omega⟩ second
  · intro _ _ same
    have first := congrArg Fin.val (high ⟨b.toNat / 16, by omega⟩ (List.cons.inj same).1)
    have second := congrArg Fin.val
      (low ⟨b.toNat % 16, by omega⟩ (List.cons.inj (List.cons.inj same).2).1)
    simp only at first second
    omega

/-- What is written begins with a character that is no percent sign only if the segment does. -/
theorem eq_cons_of_written {d : Char} {tail : List Char} (h : written segment = d :: tail)
    (plain : d ≠ '%') : ∃ rest, segment = d :: rest ∧ tail = written rest := by
  cases segment with
  | nil => cases h
  | cons c rest =>
      cases escaped : isEscaped c with
      | true =>
          obtain ⟨b, bytes, first, -⟩ := utf8EncodeChar_of_isEscaped escaped
          rw [written_cons, percentEncode_of_isEscaped escaped, first, List.flatMap_cons] at h
          exact absurd (List.cons.inj h).1.symm plain
      | false =>
          rw [written_cons_of_not_isEscaped escaped] at h
          obtain ⟨rfl, rfl⟩ := List.cons.inj h
          exact ⟨rest, rfl, rfl⟩

theorem written_ne_nil (nonempty : segment ≠ []) : written segment ≠ [] := by
  obtain ⟨c, rest, rfl⟩ := List.exists_cons_of_ne_nil nonempty
  cases escaped : isEscaped c with
  | true =>
      obtain ⟨b, bytes, first, -⟩ := utf8EncodeChar_of_isEscaped escaped
      rw [written_cons, percentEncode_of_isEscaped escaped, first, List.flatMap_cons]
      exact nofun
  | false =>
      rw [written_cons_of_not_isEscaped escaped]
      exact nofun

/-- What is written of a segment stands for dots only if it is the segment. -/
theorem written_eq_of_dots (dots : ∀ d ∈ plainDots (written segment), d = '.') :
    written segment = segment := by
  induction segment using plainDots.induct with
  | case1 rest ih =>
      have same : written ('%' :: '2' :: 'e' :: rest) = '%' :: '2' :: 'e' :: written rest := rfl
      rw [same, plainDots, List.forall_mem_cons] at dots
      rw [same, ih dots.2]
  | case2 rest ih =>
      have same : written ('%' :: '2' :: 'E' :: rest) = '%' :: '2' :: 'E' :: written rest := rfl
      rw [same, plainDots, List.forall_mem_cons] at dots
      rw [same, ih dots.2]
  | case3 c rest lower upper ih =>
      cases escaped : isEscaped c with
      | true =>
          obtain ⟨b, bytes, first, other⟩ := utf8EncodeChar_of_isEscaped escaped
          rw [written_cons, percentEncode_of_isEscaped escaped, first, List.flatMap_cons,
            List.append_assoc] at dots
          exact absurd (dots _ (percent_mem_plainDots other _)) (by decide)
      | false =>
          rw [written_cons_of_not_isEscaped escaped] at dots ⊢
          -- A percent sign in front of the digits of a dot is not what the segment begins with.
          have begins {d : Char} {tail : List Char} (two : written rest = '2' :: d :: tail)
              (plain : d ≠ '%') : ∃ rest', rest = '2' :: d :: rest' := by
            obtain ⟨after, rfl, one⟩ := eq_cons_of_written two (by decide)
            obtain ⟨rest', rfl, -⟩ := eq_cons_of_written one.symm plain
            exact ⟨rest', rfl⟩
          have kept : plainDots (c :: written rest) = c :: plainDots (written rest) := by
            rw [plainDots]
            · intro tail percent two
              obtain ⟨rest', same⟩ := begins two (by decide)
              exact lower rest' percent same
            · intro tail percent two
              obtain ⟨rest', same⟩ := begins two (by decide)
              exact upper rest' percent same
          rw [kept, List.forall_mem_cons] at dots
          rw [ih dots.2]
  | case4 => rfl

end Escaping

end MachineProvider.Url
