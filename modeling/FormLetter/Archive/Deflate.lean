/-!
# Compressed contents

Compressed bytes are a row of blocks. A block holds bytes as they are, or symbols that are written
in codes of differing lengths: a symbol is a byte, the end of the block, or the length of a run that
stands further back and is repeated. The codes of a block are either fixed or described in it. What
is written here are blocks that hold bytes as they are, so whoever reads such contents reads these.
-/

namespace FormLetter.Archive.Deflate

/-! ## Bits -/

/-- Bytes that are read bit by bit, each from its least significant bit on. -/
structure Source where
  bytes : ByteArray
  /-- The number of bits that were read. -/
  position : Nat

/-- Reading from a source, which may fail. -/
abbrev Reading := StateT Source Option

/-- Reads one bit. -/
def bit : Reading Nat := fun source => do
  let byte ← source.bytes[source.position / 8]?
  return ((byte.toNat >>> (source.position % 8)) % 2,
    { source with position := source.position + 1 })

/-- Reads a number that has some bits, the least significant one first. -/
def number : Nat → Reading Nat
  | 0 => return 0
  | width + 1 => do
    let low ← bit
    return low + 2 * (← number width)

/-- Passes over the bits that are left of a byte. -/
def toNextByte : Reading Unit :=
  modify fun source => { source with position := (source.position + 7) / 8 * 8 }

/-! ## Codes -/

/-- The greatest length of a codeword. -/
def longest : Nat := 15

/-- A code in which the codewords of one length follow each other, after those that are shorter. -/
structure Code where
  /-- The number of codewords of each length, from 1 on. -/
  counts : List Nat
  /-- The symbols in the order of their codewords. -/
  symbols : Array Nat

/-- The code in which each symbol has a codeword of the given length; none if it is zero. -/
def Code.ofLengths (lengths : List Nat) : Code :=
  let widths := (List.range longest).map (· + 1)
  { counts := widths.map lengths.count
    symbols := (widths.flatMap fun width => lengths.zipIdx.filterMap fun (length, symbol) =>
      if length == width then some symbol else none).toArray }

/-- Reads a codeword bit by bit. `first` is the first codeword of the length that is tried next,
and `index` is where its symbol stands. -/
def symbolFrom (symbols : Array Nat) (word first index : Nat) : List Nat → Reading Nat
  | [] => failure
  | count :: counts => do
    let word := 2 * word + (← bit)
    if word < first + count then symbols[index + (word - first)]?
    else symbolFrom symbols word (2 * (first + count)) (index + count) counts

/-- Reads a symbol. -/
def Code.symbol (code : Code) : Reading Nat := symbolFrom code.symbols 0 0 0 code.counts

/-- The codes of a block: that of its bytes and lengths, and that of its distances. -/
structure Codes where
  main : Code
  distances : Code

/-- The codes of a block that describes none. -/
def fixedCodes : Codes :=
  { main := .ofLengths <| List.replicate 144 8 ++ List.replicate 112 9 ++ List.replicate 24 7
      ++ List.replicate 8 8
    distances := .ofLengths (List.replicate 30 5) }

/-- The order in which the lengths of the codewords for lengths are written. -/
def lengthOrder : List Nat := [16, 17, 18, 0, 8, 7, 9, 6, 10, 5, 11, 4, 12, 3, 13, 2, 14, 1, 15]

/-- Reads the lengths of codewords until there are enough of them, in reverse. A symbol over 15
repeats a length. -/
def lengthsFrom (code : Code) (enough : Nat) : Nat → List Nat → Reading (List Nat)
  | 0, _ => failure
  | fuel + 1, lengths => do
    if enough ≤ lengths.length then return lengths
    match ← code.symbol with
    | 16 =>
      let last ← lengths.head?
      lengthsFrom code enough fuel (List.replicate (3 + (← number 2)) last ++ lengths)
    | 17 => lengthsFrom code enough fuel (List.replicate (3 + (← number 3)) 0 ++ lengths)
    | 18 => lengthsFrom code enough fuel (List.replicate (11 + (← number 7)) 0 ++ lengths)
    | length => lengthsFrom code enough fuel (length :: lengths)

/-- Reads the codes that a block describes. -/
def codes : Reading Codes := do
  let mainCount := 257 + (← number 5)
  let distanceCount := 1 + (← number 5)
  let written ← (lengthOrder.take (4 + (← number 4))).mapM fun symbol =>
    return (symbol, ← number 3)
  let code := Code.ofLengths ((List.range 19).map fun symbol => (written.lookup symbol).getD 0)
  let enough := mainCount + distanceCount
  let lengths ← lengthsFrom code enough (enough + 1) []
  if enough < lengths.length then failure
  let lengths := lengths.reverse
  return ⟨.ofLengths (lengths.take mainCount), .ofLengths (lengths.drop mainCount)⟩

/-! ## Blocks -/

/-- The least length that each symbol for a length stands for, and the number of bits that say how
much more it is. -/
def lengthRanges : Array (Nat × Nat) := #[
  (3, 0), (4, 0), (5, 0), (6, 0), (7, 0), (8, 0), (9, 0), (10, 0), (11, 1), (13, 1), (15, 1),
  (17, 1), (19, 2), (23, 2), (27, 2), (31, 2), (35, 3), (43, 3), (51, 3), (59, 3), (67, 4),
  (83, 4), (99, 4), (115, 4), (131, 5), (163, 5), (195, 5), (227, 5), (258, 0)]

/-- The same for distances. -/
def distanceRanges : Array (Nat × Nat) := #[
  (1, 0), (2, 0), (3, 0), (4, 0), (5, 1), (7, 1), (9, 2), (13, 2), (17, 3), (25, 3), (33, 4),
  (49, 4), (65, 5), (97, 5), (129, 6), (193, 6), (257, 7), (385, 7), (513, 8), (769, 8),
  (1025, 9), (1537, 9), (2049, 10), (3073, 10), (4097, 11), (6145, 11), (8193, 12),
  (12289, 12), (16385, 13), (24577, 13)]

/-- Reads the rest of a number that begins with a symbol. -/
def ranged (ranges : Array (Nat × Nat)) (symbol : Nat) : Reading Nat := do
  let (least, width) ← ranges[symbol]?
  return least + (← number width)

/-- Repeats a run that begins some bytes back. A run longer than that repeats itself. -/
def repeated (distance : Nat) : Nat → ByteArray → Option ByteArray
  | 0, content => some content
  | length + 1, content =>
    if distance ≤ content.size then
      match content[content.size - distance]? with
      | some byte => repeated distance length (content.push byte)
      | none => none
    else none

/-- Reads the symbols of a block and adds what they stand for to a content. -/
def symbols (codes : Codes) : Nat → ByteArray → Reading ByteArray
  | 0, _ => failure
  | fuel + 1, content => do
    let symbol ← codes.main.symbol
    if symbol < 256 then symbols codes fuel (content.push symbol.toUInt8)
    else if symbol == 256 then return content
    else
      let length ← ranged lengthRanges (symbol - 257)
      let distance ← ranged distanceRanges (← codes.distances.symbol)
      symbols codes fuel (← repeated distance length content)

/-- Reads a block that holds bytes as they are: their number, its complement, and them. -/
def plain (content : ByteArray) : Reading ByteArray := do
  toNextByte
  let size ← number 16
  let complement ← number 16
  let source ← get
  let start := source.position / 8
  if size + complement != 0xFFFF || source.bytes.size < start + size then failure
  set { source with position := source.position + 8 * size }
  return content ++ source.bytes.extract start (start + size)

/-- Reads blocks up to the one that says to be the last. Every symbol takes a bit at least, so the
number of all bits is fuel enough. -/
def blocks : Nat → ByteArray → Reading ByteArray
  | 0, _ => failure
  | fuel + 1, content => do
    let isLast := (← bit) == 1
    let bits := 8 * (← get).bytes.size
    let content ← match ← number 2 with
      | 0 => plain content
      | 1 => symbols fixedCodes bits content
      | 2 => do symbols (← codes) bits content
      | _ => failure
    if isLast then return content else blocks fuel content

/-- The content that some bytes stand for, if they are a row of blocks. -/
def unpack? (bytes : ByteArray) : Option ByteArray :=
  ((blocks (8 * bytes.size) .empty).run ⟨bytes, 0⟩).map (·.1)

/-! ## Writing -/

/-- The greatest number of bytes in a block that holds them as they are. -/
def plainSize : Nat := 0xFFFF

/-- A block that holds bytes as they are. -/
def plainBlock (isLast : Bool) (bytes : ByteArray) : ByteArray :=
  let size := bytes.size
  let complement := plainSize - size
  ⟨#[if isLast then 1 else 0, size.toUInt8, (size / 256).toUInt8, complement.toUInt8,
    (complement / 256).toUInt8]⟩ ++ bytes

/-- Bytes that stand for a content: all of it in blocks that hold it as it is. -/
def pack (content : ByteArray) : ByteArray :=
  let count := (content.size - 1) / plainSize
  (List.range (count + 1)).foldl (fun packed index =>
    packed ++ plainBlock (index == count)
      (content.extract (index * plainSize) ((index + 1) * plainSize))) .empty

end FormLetter.Archive.Deflate
