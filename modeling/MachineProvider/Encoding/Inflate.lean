/-!
# Reading compressed data

The DEFLATE format (RFC 1951) is a sequence of bits in blocks. A block stores bytes as they are, or
writes them with two prefix codes: one for bytes and the lengths of repetitions, the other for the
distances of these. Each reading step takes the bits that are left and returns those after what it
read. The bits of a byte come lowest first.
-/

namespace MachineProvider.Inflate

/-- The bits of bytes in their order. -/
def bitsOfBytes (bytes : List UInt8) : List Bool :=
  bytes.flatMap fun b => (List.range 8).map fun i => b.toNat.testBit i

/-- A number of so many bits, the lowest first. -/
def readBits : Nat → List Bool → Option (Nat × List Bool)
  | 0, bits => some (0, bits)
  | _ + 1, [] => none
  | count + 1, bit :: rest => do
    let (high, rest) ← readBits count rest
    return (bit.toNat + 2 * high, rest)

/-- A prefix code in its canonical form: how many codes there are of each length from one on, and
the symbols in the order of their codes. -/
structure Code where
  counts : List Nat
  symbols : Array Nat

namespace Code

/-- The longest code has so many bits. -/
def maxLength : Nat := 15

/-- How many codes of the last length would be left over; nothing when there are too many codes. -/
def unused? (counts : List Nat) : Option Nat :=
  counts.foldlM (fun left count => if count ≤ left * 2 then some (left * 2 - count) else none) 1

/-- The code in which each symbol has a code of the given length, or none when the length is
zero. The lengths must leave no code over, unless there is at most one code. -/
def ofLengths? (lengths : List Nat) : Option Code := do
  let counts := (List.range maxLength).map fun i => lengths.count (i + 1)
  let left ← unused? counts
  if left ≠ 0 && counts.foldl (· + ·) 0 > 1 then none
  else
    let numbered := lengths.zipIdx
    let symbols := (List.range maxLength).flatMap fun i =>
      (numbered.filter (·.1 = i + 1)).map (·.2)
    return { counts, symbols := symbols.toArray }

/-- Reads one symbol. `code` is the value of the bits read so far, `first` the first code of the
next length without its last bit, and `index` the place of its symbol. -/
def readSymbol (symbols : Array Nat) : List Nat → Nat → Nat → Nat → List Bool →
    Option (Nat × List Bool)
  | count :: counts, code, first, index, bit :: rest =>
    let code := code * 2 + bit.toNat
    let first := first * 2
    if code < first + count then do
      let symbol ← symbols[index + (code - first)]?
      return (symbol, rest)
    else readSymbol symbols counts code (first + count) (index + count) rest
  | _, _, _, _, _ => none

/-- Reads one symbol of a code. -/
def read (c : Code) (bits : List Bool) : Option (Nat × List Bool) :=
  readSymbol c.symbols c.counts 0 0 0 bits

end Code

/-- For each length symbol from 257 on: the shortest length and the number of further bits. -/
def lengthTable : Array (Nat × Nat) := #[
  (3, 0), (4, 0), (5, 0), (6, 0), (7, 0), (8, 0), (9, 0), (10, 0), (11, 1), (13, 1), (15, 1),
  (17, 1), (19, 2), (23, 2), (27, 2), (31, 2), (35, 3), (43, 3), (51, 3), (59, 3), (67, 4),
  (83, 4), (99, 4), (115, 4), (131, 5), (163, 5), (195, 5), (227, 5), (258, 0)]

/-- For each distance symbol: the shortest distance and the number of further bits. -/
def distanceTable : Array (Nat × Nat) := #[
  (1, 0), (2, 0), (3, 0), (4, 0), (5, 1), (7, 1), (9, 2), (13, 2), (17, 3), (25, 3), (33, 4),
  (49, 4), (65, 5), (97, 5), (129, 6), (193, 6), (257, 7), (385, 7), (513, 8), (769, 8),
  (1025, 9), (1537, 9), (2049, 10), (3073, 10), (4097, 11), (6145, 11), (8193, 12),
  (12289, 12), (16385, 13), (24577, 13)]

/-- The lengths of the fixed code for bytes and lengths. -/
def fixedLengths : List Nat :=
  List.replicate 144 8 ++ List.replicate 112 9 ++ List.replicate 24 7 ++ List.replicate 8 8

/-- The lengths of the fixed code for distances. -/
def fixedDistances : List Nat :=
  List.replicate 32 5

/-- Repeats so many bytes from a distance back; the repetition may overlap itself. -/
def repeatBytes (distance : Nat) : Nat → Array UInt8 → Option (Array UInt8)
  | 0, out => some out
  | count + 1, out =>
    if distance ≤ out.size then
      match out[out.size - distance]? with
      | some b => repeatBytes distance count (out.push b)
      | none => none
    else none

/-- A value from a table of shortest values and further bits. -/
def readFromTable (table : Array (Nat × Nat)) (symbol : Nat) (bits : List Bool) :
    Option (Nat × List Bool) := do
  let (base, extra) ← table[symbol]?
  let (more, rest) ← readBits extra bits
  return (base + more, rest)

/-- The symbol that ends a block. -/
def endOfBlock : Nat := 256

/-- The bytes of a block up to its end, read with a bound on the number of symbols. -/
def readCoded (literals distances : Code) : Nat → List Bool → Array UInt8 →
    Option (Array UInt8 × List Bool)
  | 0, _, _ => none
  | fuel + 1, bits, out => do
    let (symbol, bits) ← literals.read bits
    if symbol < endOfBlock then
      readCoded literals distances fuel bits (out.push (UInt8.ofNat symbol))
    else if symbol = endOfBlock then return (out, bits)
    else
      let (length, bits) ← readFromTable lengthTable (symbol - 257) bits
      let (symbol, bits) ← distances.read bits
      let (distance, bits) ← readFromTable distanceTable symbol bits
      let out ← repeatBytes distance length out
      readCoded literals distances fuel bits out

/-- So many bytes as they are. -/
def readBytes : Nat → List Bool → Array UInt8 → Option (Array UInt8 × List Bool)
  | 0, bits, out => some (out, bits)
  | count + 1, bits, out => do
    let (b, bits) ← readBits 8 bits
    readBytes count bits (out.push (UInt8.ofNat b))

/-- The bits from the next boundary between bytes on. The number of all bits is a multiple of
eight. -/
def alignToByte (bits : List Bool) : List Bool :=
  bits.drop (bits.length % 8)

/-- A block that stores its bytes: their number, its complement, and the bytes. -/
def readStored (bits : List Bool) (out : Array UInt8) : Option (Array UInt8 × List Bool) := do
  let (size, bits) ← readBits 16 (alignToByte bits)
  let (complement, bits) ← readBits 16 bits
  if size + complement = 65535 then readBytes size bits out else none

/-- The order in which the lengths of the code for lengths are written. -/
def lengthOrder : List Nat :=
  [16, 17, 18, 0, 8, 7, 9, 6, 10, 5, 11, 4, 12, 3, 13, 2, 14, 1, 15]

/-- Numbers of three bits, so many. -/
def readTriples : Nat → List Bool → Option (List Nat × List Bool)
  | 0, bits => some ([], bits)
  | count + 1, bits => do
    let (n, bits) ← readBits 3 bits
    let (ns, bits) ← readTriples count bits
    return (n :: ns, bits)

/-- The lengths of two codes, written with a code of their own in which three symbols repeat a
length. -/
def readLengths (code : Code) (total : Nat) : Nat → List Bool → List Nat →
    Option (List Nat × List Bool)
  | 0, _, _ => none
  | fuel + 1, bits, lengths =>
    if lengths.length = total then some (lengths, bits)
    else if lengths.length > total then none
    else do
      let (symbol, bits) ← code.read bits
      if symbol < 16 then readLengths code total fuel bits (lengths ++ [symbol])
      else if symbol = 16 then
        let last ← lengths.getLast?
        let (more, bits) ← readBits 2 bits
        readLengths code total fuel bits (lengths ++ List.replicate (3 + more) last)
      else
        let (least, extra) := if symbol = 17 then (3, 3) else (11, 7)
        let (more, bits) ← readBits extra bits
        readLengths code total fuel bits (lengths ++ List.replicate (least + more) 0)

/-- The two codes that a block brings along. -/
def readCodes (bits : List Bool) : Option (Code × Code × List Bool) := do
  let (literals, bits) ← readBits 5 bits
  let (distances, bits) ← readBits 5 bits
  let (lengths, bits) ← readBits 4 bits
  let literalCount := literals + 257
  let distanceCount := distances + 1
  if literalCount > 286 || distanceCount > 30 then none
  else
    let (triples, bits) ← readTriples (lengths + 4) bits
    let named := lengthOrder.zip triples
    let code ← Code.ofLengths? ((List.range 19).map fun i => (named.lookup i).getD 0)
    let total := literalCount + distanceCount
    let (all, bits) ← readLengths code total (total + 1) bits []
    if all[endOfBlock]? = some 0 then none
    else
      let literals ← Code.ofLengths? (all.take literalCount)
      let distances ← Code.ofLengths? (all.drop literalCount)
      return (literals, distances, bits)

/-- The bytes of all blocks up to the last one, read with a bound on their number. -/
def readBlocks : Nat → List Bool → Array UInt8 → Option (Array UInt8 × List Bool)
  | 0, _, _ => none
  | fuel + 1, bits, out => do
    let (last, bits) ← readBits 1 bits
    let (kind, bits) ← readBits 2 bits
    let (out, bits) ←
      if kind = 0 then readStored bits out
      else if kind = 1 then do
        let literals ← Code.ofLengths? fixedLengths
        let distances ← Code.ofLengths? fixedDistances
        readCoded literals distances (bits.length + 1) bits out
      else if kind = 2 then do
        let (literals, distances, bits) ← readCodes bits
        readCoded literals distances (bits.length + 1) bits out
      else none
    if last = 1 then return (out, bits) else readBlocks fuel bits out

/-- The bytes that compressed data stands for, and the bits from the next boundary on. -/
def inflate? (bytes : List UInt8) : Option (List UInt8 × List Bool) := do
  let bits := bitsOfBytes bytes
  let (out, rest) ← readBlocks (bits.length + 1) bits #[]
  return (out.toList, alignToByte rest)

end MachineProvider.Inflate
