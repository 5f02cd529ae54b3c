import MachineProvider.Encoding.Inflate

/-!
# Gzip streams

A gzip stream (RFC 1952) is a header, compressed data, and a checksum and the size of what it stands
for. `decode?` reads a stream and ignores what follows it. There are many ways to compress bytes,
and a `Compressor` may write any stream that stands for them; `encode` is one that keeps the data
in stored blocks.
-/

namespace MachineProvider.Gzip

/-- A way to write bytes as a stream. -/
abbrev Compressor : Type := List UInt8 → List UInt8

/-- One byte more in a cyclic redundancy check of 32 bits. -/
def checksumStep (crc : UInt32) (b : UInt8) : UInt32 :=
  (List.range 8).foldl
    (fun crc _ => if crc &&& 1 = 1 then (crc >>> 1) ^^^ 0xEDB88320 else crc >>> 1)
    (crc ^^^ b.toUInt32)

/-- The cyclic redundancy check of bytes. -/
def checksum (bytes : List UInt8) : UInt32 :=
  (bytes.foldl checksumStep 0xFFFFFFFF) ^^^ 0xFFFFFFFF

/-- A number as so many bytes, the lowest first. -/
def littleEndian : Nat → Nat → List UInt8
  | 0, _ => []
  | count + 1, n => UInt8.ofNat n :: littleEndian count (n / 256)

/-- The most bytes that one stored block holds. -/
def maxStored : Nat := 65535

/-- One stored block; the first byte says whether it is the last. -/
def storedBlock (last : Bool) (bytes : List UInt8) : List UInt8 :=
  (if last then 1 else 0) :: littleEndian 2 bytes.length ++
    littleEndian 2 (maxStored - bytes.length) ++ bytes

/-- Bytes in stored blocks. -/
def storedBlocks (bytes : List UInt8) : List UInt8 :=
  if bytes.length ≤ maxStored then storedBlock true bytes
  else storedBlock false (bytes.take maxStored) ++ storedBlocks (bytes.drop maxStored)
termination_by bytes.length
decreasing_by simp only [List.length_drop, maxStored] at *; omega

/-- The header of the streams that are written: no flags, no time, no name of a system. -/
def header : List UInt8 := [0x1F, 0x8B, 8, 0, 0, 0, 0, 0, 0, 255]

/-- The compressor that the program runs with. It keeps bytes as they are, in stored blocks. -/
def encode : Compressor := fun bytes =>
  header ++ storedBlocks bytes ++ littleEndian 4 (checksum bytes).toNat ++
    littleEndian 4 bytes.length

/-- The bytes after a text that ends with a zero byte. -/
def afterZero? : List UInt8 → Option (List UInt8)
  | [] => none
  | 0 :: rest => some rest
  | _ :: rest => afterZero? rest

/-- The bytes after the extra field, whose size comes first. -/
def afterExtra? : List UInt8 → Option (List UInt8)
  | low :: high :: rest =>
    let size := low.toNat + 256 * high.toNat
    if size ≤ rest.length then some (rest.drop size) else none
  | _ => none

/-- The bytes after the header. Flags say which optional fields it has. -/
def afterHeader? (stream : List UInt8) : Option (List UInt8) :=
  match stream with
  | 0x1F :: 0x8B :: 8 :: flags :: _ :: _ :: _ :: _ :: _ :: _ :: rest => do
    if flags.toNat ≥ 32 then none
    else
      let has (bit : Nat) := flags.toNat.testBit bit
      let rest ← if has 2 then afterExtra? rest else some rest
      let rest ← if has 3 then afterZero? rest else some rest
      let rest ← if has 4 then afterZero? rest else some rest
      if has 1 then
        let head := stream.take (stream.length - rest.length)
        match rest with
        | low :: high :: rest =>
          if low.toNat + 256 * high.toNat = (checksum head).toNat % 65536 then some rest else none
        | _ => none
      else return rest
  | _ => none

/-- The bytes that a stream stands for; nothing when it is not a complete stream. -/
def decode? (stream : List UInt8) : Option (List UInt8) := do
  let data ← afterHeader? stream
  let (bytes, rest) ← Inflate.inflate? data
  let (crc, rest) ← Inflate.readBits 32 rest
  let (size, _) ← Inflate.readBits 32 rest
  if crc = (checksum bytes).toNat && size = bytes.length % UInt32.size then return bytes else none

end MachineProvider.Gzip
