import MachineProvider.Encoding.Gzip
import Mathlib.Algebra.Group.Nat.Defs

/-!
# Decompressing what was compressed

A compressor is lossless when decompressing a stream gives the bytes that were compressed, whatever
they are. The streams that `Gzip.encode` writes keep their bytes in stored blocks. Such blocks are
read back one by one (`Inflate.readBlocks_storedBlocks`), and so `Gzip.encode` is lossless
(`Gzip.isLossless_encode`).
-/

namespace MachineProvider

namespace Inflate

/-- The lowest bits of a number, so many, the lowest first. -/
def bitsOf (count n : Nat) : List Bool :=
  (List.range count).map n.testBit

theorem bitsOf_add (a b n : Nat) : bitsOf (a + b) n = bitsOf a n ++ bitsOf b (n / 2 ^ a) := by
  have shifted : (n / 2 ^ a).testBit = fun i => n.testBit (a + i) := by
    funext i
    rw [Nat.testBit_div_two_pow, Nat.add_comm]
  rw [bitsOf, List.range_add, List.map_append, List.map_map, bitsOf, bitsOf, shifted]
  rfl

theorem bitsOf_mod (count n : Nat) : bitsOf count (n % 2 ^ count) = bitsOf count n := by
  refine List.map_congr_left fun i member => ?_
  rw [Nat.testBit_mod_two_pow, decide_eq_true (List.mem_range.mp member), Bool.true_and]

/-- A number is read back from its bits, as far as they go. -/
theorem readBits_bitsOf (count n : Nat) (rest : List Bool) :
    readBits count (bitsOf count n ++ rest) = some (n % 2 ^ count, rest) := by
  induction count generalizing n with
  | zero => simp [readBits, bitsOf, Nat.mod_one]
  | succ count ih =>
      have split : bitsOf (count + 1) n = n.testBit 0 :: bitsOf count (n / 2) := by
        rw [Nat.add_comm, bitsOf_add]
        rfl
      have low : (n.testBit 0).toNat = n % 2 := by
        rw [Nat.testBit_zero]
        rcases Nat.mod_two_eq_zero_or_one n with even | odd <;> simp [*]
      rw [split, List.cons_append, readBits, ih, Nat.pow_succ', Nat.mod_mul, ← low]
      rfl

theorem bitsOfBytes_cons (b : UInt8) (bytes : List UInt8) :
    bitsOfBytes (b :: bytes) = bitsOf 8 b.toNat ++ bitsOfBytes bytes :=
  List.flatMap_cons ..

theorem bitsOfBytes_append (first second : List UInt8) :
    bitsOfBytes (first ++ second) = bitsOfBytes first ++ bitsOfBytes second :=
  List.flatMap_append

theorem length_bitsOfBytes (bytes : List UInt8) :
    (bitsOfBytes bytes).length = 8 * bytes.length := by
  induction bytes with
  | nil => rfl
  | cons b rest ih =>
      rw [bitsOfBytes_cons, List.length_append, ih, bitsOf, List.length_map, List.length_range,
        List.length_cons]
      omega

theorem bitsOfBytes_littleEndian (count n : Nat) :
    bitsOfBytes (Gzip.littleEndian count n) = bitsOf (8 * count) n := by
  induction count generalizing n with
  | zero => rfl
  | succ count ih =>
      have low : bitsOf 8 (UInt8.ofNat n).toNat = bitsOf 8 n := bitsOf_mod 8 n
      have both : bitsOf (8 + 8 * count) n = bitsOf 8 n ++ bitsOf (8 * count) (n / 256) :=
        bitsOf_add ..
      rw [Gzip.littleEndian, bitsOfBytes_cons, ih, low, Nat.mul_succ, Nat.add_comm, both]

/-- A number is read back from its bytes when there are enough of them. -/
theorem readBits_littleEndian (count : Nat) {n : Nat} (small : n < 2 ^ (8 * count))
    (rest : List Bool) :
    readBits (8 * count) (bitsOfBytes (Gzip.littleEndian count n) ++ rest) = some (n, rest) := by
  rw [bitsOfBytes_littleEndian, readBits_bitsOf, Nat.mod_eq_of_lt small]

theorem readBytes_bitsOfBytes (bytes : List UInt8) (rest : List Bool) (out : Array UInt8) :
    readBytes bytes.length (bitsOfBytes bytes ++ rest) out = some (out ++ bytes.toArray, rest) := by
  induction bytes generalizing out with
  | nil => simp [readBytes, bitsOfBytes]
  | cons b bytes ih =>
      have whole : b.toNat % 2 ^ 8 = b.toNat := Nat.mod_eq_of_lt b.toNat_lt
      rw [bitsOfBytes_cons, List.append_assoc, List.length_cons, readBytes, readBits_bitsOf, whole]
      change readBytes bytes.length _ (out.push (UInt8.ofNat b.toNat)) = _
      rw [ih, UInt8.ofNat_toNat]
      simp

/-- The bits of whole bytes begin at the next boundary. -/
theorem alignToByte_append {skipped bits : List Bool} (few : skipped.length < 8)
    (whole : bits.length % 8 = 0) : alignToByte (skipped ++ bits) = bits := by
  have aligned : (skipped.length + bits.length) % 8 = skipped.length := by omega
  rw [alignToByte, List.length_append, aligned, List.drop_left]

section Blocks

variable {bytes : List UInt8} {rest : List Bool}

/-- The bytes of a stored block are read back. -/
theorem readStored_append (few : bytes.length ≤ Gzip.maxStored) (whole : rest.length % 8 = 0)
    {skipped : List Bool} (short : skipped.length < 8) (out : Array UInt8) :
    readStored (skipped ++ (bitsOfBytes (Gzip.littleEndian 2 bytes.length) ++
      (bitsOfBytes (Gzip.littleEndian 2 (Gzip.maxStored - bytes.length)) ++
        (bitsOfBytes bytes ++ rest)))) out = some (out ++ bytes.toArray, rest) := by
  unfold Gzip.maxStored at *
  have size (bits : List Bool) :
      readBits 16 (bitsOfBytes (Gzip.littleEndian 2 bytes.length) ++ bits) =
        some (bytes.length, bits) :=
    readBits_littleEndian 2 (by omega) bits
  have complement (bits : List Bool) :
      readBits 16 (bitsOfBytes (Gzip.littleEndian 2 (65535 - bytes.length)) ++ bits) =
        some (65535 - bytes.length, bits) :=
    readBits_littleEndian 2 (by omega) bits
  have agrees : bytes.length + (65535 - bytes.length) = 65535 := by omega
  rw [readStored, alignToByte_append short]
  · simp only [size, complement, agrees, if_true, Option.bind_eq_bind, Option.bind_some]
    exact readBytes_bitsOfBytes bytes rest out
  · simp only [List.length_append, length_bitsOfBytes]
    omega

/-- A stored block is read back, and then the blocks after it unless it is the last one. -/
theorem readBlocks_storedBlock (few : bytes.length ≤ Gzip.maxStored)
    (whole : rest.length % 8 = 0) (last : Bool) (fuel : Nat) (out : Array UInt8) :
    readBlocks (fuel + 1) (bitsOfBytes (Gzip.storedBlock last bytes) ++ rest) out =
      if last then some (out ++ bytes.toArray, rest)
      else readBlocks fuel rest (out ++ bytes.toArray) := by
  -- The first three bits say whether the block is the last one, and that it stores its bytes.
  have bits : bitsOfBytes (Gzip.storedBlock last bytes) ++ rest =
      last :: false :: false :: (List.replicate 5 false ++
        (bitsOfBytes (Gzip.littleEndian 2 bytes.length) ++
          (bitsOfBytes (Gzip.littleEndian 2 (Gzip.maxStored - bytes.length)) ++
            (bitsOfBytes bytes ++ rest)))) := by
    simp only [Gzip.storedBlock, List.cons_append, bitsOfBytes_cons, bitsOfBytes_append,
      List.append_assoc]
    cases last <;> rfl
  have short : (List.replicate 5 false).length < 8 := by decide
  have stored := readStored_append few whole short out
  have flag (bits : List Bool) : readBits 1 (last :: bits) = some (last.toNat, bits) := rfl
  have kind (bits : List Bool) : readBits 2 (false :: false :: bits) = some (0, bits) := rfl
  rw [bits, readBlocks]
  simp only [flag, kind, stored, if_true, Option.bind_eq_bind, Option.bind_some]
  cases last <;> rfl

/-- Stored blocks are read back, whatever comes after them. -/
theorem readBlocks_storedBlocks (bytes : List UInt8) (whole : rest.length % 8 = 0) {fuel : Nat}
    (enough : (Gzip.storedBlocks bytes).length < fuel) (out : Array UInt8) :
    readBlocks fuel (bitsOfBytes (Gzip.storedBlocks bytes) ++ rest) out =
      some (out ++ bytes.toArray, rest) := by
  obtain ⟨fuel, rfl⟩ : ∃ fewer, fuel = fewer + 1 := ⟨fuel - 1, by omega⟩
  fun_induction Gzip.storedBlocks bytes generalizing fuel out with
  | case1 bytes few => exact readBlocks_storedBlock few whole true fuel out
  | case2 bytes many ih =>
      rw [Gzip.storedBlock, List.cons_append, List.cons_append, List.cons_append,
        List.length_cons] at enough
      simp only [List.length_append] at enough
      obtain ⟨fewer, rfl⟩ : ∃ fewer, fuel = fewer + 1 := ⟨fuel - 1, by omega⟩
      have front : (bytes.take Gzip.maxStored).length ≤ Gzip.maxStored := List.length_take_le ..
      have whole' : (bitsOfBytes (Gzip.storedBlocks (bytes.drop Gzip.maxStored)) ++ rest).length % 8
          = 0 := by
        rw [List.length_append, length_bitsOfBytes]
        omega
      have onward := readBlocks_storedBlock front whole' false (fewer + 1) out
      have rejoined : (bytes.take Gzip.maxStored).toArray ++ (bytes.drop Gzip.maxStored).toArray =
          bytes.toArray := by
        rw [List.append_toArray, List.take_append_drop]
      rw [bitsOfBytes_append, List.append_assoc, onward, if_neg Bool.false_ne_true,
        ih _ _ (by omega), Array.append_assoc, rejoined]

/-- What stored blocks stand for, and the bits of the bytes after them. -/
theorem inflate?_storedBlocks (bytes after : List UInt8) :
    inflate? (Gzip.storedBlocks bytes ++ after) = some (bytes, bitsOfBytes after) := by
  have whole : (bitsOfBytes after).length % 8 = 0 := by
    rw [length_bitsOfBytes]
    exact Nat.mul_mod_right 8 _
  have enough : (Gzip.storedBlocks bytes).length <
      (bitsOfBytes (Gzip.storedBlocks bytes) ++ bitsOfBytes after).length + 1 := by
    rw [List.length_append, length_bitsOfBytes]
    omega
  have read := readBlocks_storedBlocks bytes whole enough #[]
  have short : ([] : List Bool).length < 8 := by decide
  have aligned := alignToByte_append short whole
  rw [List.nil_append] at aligned
  rw [inflate?, bitsOfBytes_append]
  simp only [read, Option.bind_eq_bind, Option.bind_some, aligned]
  simp

end Blocks

end Inflate

namespace Gzip

/-- Whether the bytes that a compressor compresses are read back from its streams. -/
def Compressor.IsLossless (gzip : Compressor) : Prop :=
  ∀ bytes, decode? (gzip bytes) = some bytes

/-- The header that is written has no optional fields. -/
theorem afterHeader?_header (data : List UInt8) : afterHeader? (header ++ data) = some data := rfl

/-- Decompressing a stream gives the bytes that were compressed. -/
theorem isLossless_encode : Compressor.IsLossless encode := by
  intro bytes
  have stream : encode bytes = header ++ (storedBlocks bytes ++
      (littleEndian 4 (checksum bytes).toNat ++ littleEndian 4 bytes.length)) := by
    simp only [encode, List.append_assoc]
  have crc (bits : List Bool) :
      Inflate.readBits 32 (Inflate.bitsOfBytes (littleEndian 4 (checksum bytes).toNat) ++ bits) =
        some ((checksum bytes).toNat, bits) :=
    Inflate.readBits_littleEndian 4 (checksum bytes).toNat_lt bits
  have size : Inflate.readBits 32 (Inflate.bitsOfBytes (littleEndian 4 bytes.length)) =
      some (bytes.length % UInt32.size, []) := by
    rw [Inflate.bitsOfBytes_littleEndian, ← List.append_nil (Inflate.bitsOf ..)]
    exact Inflate.readBits_bitsOf 32 bytes.length []
  rw [stream, decode?, afterHeader?_header]
  simp only [Inflate.inflate?_storedBlocks, Inflate.bitsOfBytes_append, crc, size,
    Option.bind_eq_bind, Option.bind_some, decide_true, Bool.and_self, if_true]
  rfl

end Gzip

end MachineProvider
