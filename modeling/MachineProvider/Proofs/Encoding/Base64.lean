import MachineProvider.Encoding.Base64

/-!
# Reading base64 back

Every six bits have a character of their own, and padding stands for no bits. What was written with
`encode` is read back by `decode?`, however many bytes are left over at the end.
-/

namespace MachineProvider.Base64

/-- Each number below 64 has a character that stands for it. -/
theorem value?_digit {n : Nat} (h : n < 64) : value? (digit n) = some n := by
  have all : ∀ n : Fin 64, value? (digit n) = some n.val := by decide
  exact all ⟨n, h⟩

theorem digit_ne_pad {n : Nat} (h : n < 64) : digit n ≠ '=' := by
  intro pad
  have read := value?_digit h
  rw [pad] at read
  cases read

/-- A byte is put together again from its upper six bits and its lower two. -/
theorem ofNat_first (a : UInt8) {low : Nat} (h : low < 16) :
    UInt8.ofNat (a.toNat / 4 * 4 + (a.toNat % 4 * 16 + low) / 16) = a := by
  have whole : a.toNat / 4 * 4 + (a.toNat % 4 * 16 + low) / 16 = a.toNat := by omega
  rw [whole, UInt8.ofNat_toNat]

/-- A byte is put together again from its upper four bits and its lower four. -/
theorem ofNat_second (b : UInt8) {high low : Nat} (h : low < 4) :
    UInt8.ofNat ((high * 16 + b.toNat / 16) % 16 * 16 + (b.toNat % 16 * 4 + low) / 4) = b := by
  have bound := b.toNat_lt
  have whole : (high * 16 + b.toNat / 16) % 16 * 16 + (b.toNat % 16 * 4 + low) / 4 = b.toNat := by
    omega
  rw [whole, UInt8.ofNat_toNat]

/-- A byte is put together again from its upper two bits and its lower six. -/
theorem ofNat_third (c : UInt8) {high : Nat} :
    UInt8.ofNat ((high * 4 + c.toNat / 64) % 4 * 64 + c.toNat % 64) = c := by
  have bound := c.toNat_lt
  have whole : (high * 4 + c.toNat / 64) % 4 * 64 + c.toNat % 64 = c.toNat := by omega
  rw [whole, UInt8.ofNat_toNat]

/-- Four characters that are no padding are three bytes. -/
theorem decodeChars?_digits {w x y z : Nat} (hw : w < 64) (hx : x < 64) (hy : y < 64) (hz : z < 64)
    (rest : List Char) :
    decodeChars? (digit w :: digit x :: digit y :: digit z :: rest) =
      (decodeChars? rest).map fun bytes =>
        UInt8.ofNat (w * 4 + x / 16) :: UInt8.ofNat (x % 16 * 16 + y / 4) ::
          UInt8.ofNat (y % 4 * 64 + z) :: bytes := by
  rw [decodeChars?]
  · simp only [value?_digit hw, value?_digit hx, value?_digit hy, value?_digit hz]
    cases decodeChars? rest <;> rfl
  -- The other ways to read four characters are for padding.
  · intro pad _ _
    exact digit_ne_pad hy pad
  · intro pad _
    exact digit_ne_pad hz pad

/-- Two characters with unused bits that are zero are one byte. -/
theorem decodePadded?_two {w x : Nat} (hw : w < 64) (hx : x < 64) (unused : x % 16 = 0) :
    decodePadded? (digit w) (digit x) none = some [UInt8.ofNat (w * 4 + x / 16)] := by
  simp only [decodePadded?, value?_digit hw, value?_digit hx]
  exact if_pos unused

/-- Three characters with unused bits that are zero are two bytes. -/
theorem decodePadded?_three {w x y : Nat} (hw : w < 64) (hx : x < 64) (hy : y < 64)
    (unused : y % 4 = 0) :
    decodePadded? (digit w) (digit x) (some (digit y)) =
      some [UInt8.ofNat (w * 4 + x / 16), UInt8.ofNat (x % 16 * 16 + y / 4)] := by
  simp only [decodePadded?, value?_digit hw, value?_digit hx, value?_digit hy]
  exact if_pos unused

/-- Bytes are read back from the characters that write them. -/
theorem decodeChars?_encodeChars (bytes : List UInt8) :
    decodeChars? (encodeChars bytes) = some bytes := by
  fun_induction encodeChars bytes with
  | case1 => rfl
  | case2 a =>
      have bound := a.toNat_lt
      have w : a.toNat / 4 < 64 := by omega
      have x : a.toNat % 4 * 16 < 64 := by omega
      have nothing : 0 < 16 := by decide
      have first := ofNat_first a nothing
      rw [Nat.add_zero] at first
      rw [decodeChars?, decodePadded?_two w x (by omega), first]
  | case3 a b =>
      have bound := a.toNat_lt
      have bound' := b.toNat_lt
      have w : a.toNat / 4 < 64 := by omega
      have x : a.toNat % 4 * 16 + b.toNat / 16 < 64 := by omega
      have y : b.toNat % 16 * 4 < 64 := by omega
      have nothing : 0 < 4 := by decide
      have second : UInt8.ofNat ((a.toNat % 4 * 16 + b.toNat / 16) % 16 * 16 +
          b.toNat % 16 * 4 / 4) = b := ofNat_second b nothing
      rw [decodeChars?, decodePadded?_three w x y (by omega), ofNat_first a (by omega), second]
      exact digit_ne_pad y
  | case4 a b c rest ih =>
      have bound := a.toNat_lt
      have bound' := b.toNat_lt
      have bound'' := c.toNat_lt
      have w : a.toNat / 4 < 64 := by omega
      have x : a.toNat % 4 * 16 + b.toNat / 16 < 64 := by omega
      have y : b.toNat % 16 * 4 + c.toNat / 64 < 64 := by omega
      have z : c.toNat % 64 < 64 := by omega
      rw [decodeChars?_digits w x y z, ih, Option.map_some, ofNat_first a (by omega),
        ofNat_second b (by omega), ofNat_third c]

/-- What was written is read back. -/
theorem decode?_encode (bytes : List UInt8) : decode? (encode bytes) = some bytes := by
  rw [decode?, encode, String.toList_ofList, decodeChars?_encodeChars]

end MachineProvider.Base64
