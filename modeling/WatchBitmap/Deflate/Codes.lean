import WatchBitmap.Deflate.Huffman

/-!
# The codes of a block

Symbols of two Huffman codes stand for bytes: one code for literal bytes and the lengths of
copies, one for the distances that copies reach back.  The codes are fixed ones, or a block brings
its own, run-length coded and Huffman coded in turn.

* `Codes` — the two codes of a block.
* `Codes.fixed`, `Codes.read` — the fixed ones, and those that a block brings.
* `lengthTable`, `distanceTable`, `readExtended` — what the symbols of copies stand for.
-/

namespace WatchBitmap.Deflate

/-- The two codes of a block. -/
structure Codes where
  /-- Literal bytes, the end of the block, and the lengths of copies. -/
  literal : Huffman.Code
  /-- How far copies reach back. -/
  distance : Huffman.Code

/-! ## Lengths and distances -/

/-- The symbol that ends a block. -/
def endOfBlock : Nat := 256

/-- The copies of the length symbols from 257 on: the shortest, and how many bits are added. -/
def lengthTable : List (Nat × Nat) := [
  (3, 0), (4, 0), (5, 0), (6, 0), (7, 0), (8, 0), (9, 0), (10, 0), (11, 1), (13, 1), (15, 1),
  (17, 1), (19, 2), (23, 2), (27, 2), (31, 2), (35, 3), (43, 3), (51, 3), (59, 3), (67, 4),
  (83, 4), (99, 4), (115, 4), (131, 5), (163, 5), (195, 5), (227, 5), (258, 0)]

/-- The distances of the distance symbols: the shortest, and how many bits are added. -/
def distanceTable : List (Nat × Nat) := [
  (1, 0), (2, 0), (3, 0), (4, 0), (5, 1), (7, 1), (9, 2), (13, 2), (17, 3), (25, 3), (33, 4),
  (49, 4), (65, 5), (97, 5), (129, 6), (193, 6), (257, 7), (385, 7), (513, 8), (769, 8),
  (1025, 9), (1537, 9), (2049, 10), (3073, 10), (4097, 11), (6145, 11), (8193, 12), (12289, 12),
  (16385, 13), (24577, 13)]

/-- The number that a symbol and the bits behind it stand for. -/
def readExtended (table : List (Nat × Nat)) (symbol : Nat) (bits : Bits) :
    Except Fault (Nat × Bits) :=
  match table[symbol]? with
  | none => .error .malformed
  | some (base, extra) => (bits.read extra).map fun (n, bits) => (base + n, bits)

/-! ## Codes -/

/-- The fixed codes. -/
def Codes.fixed : Codes where
  literal := Huffman.ofLengths (List.replicate 144 8 ++ List.replicate 112 9
    ++ List.replicate 24 7 ++ List.replicate 8 8)
  distance := Huffman.ofLengths (List.replicate 32 5)

/-- The order in which the lengths of the code for lengths are stored. -/
def lengthOrder : List Nat :=
  [16, 17, 18, 0, 8, 7, 9, 6, 10, 5, 11, 4, 12, 3, 13, 2, 14, 1, 15]

/-- The lengths of the code for lengths, in the order of their symbols. -/
def readOrdered (count : Nat) (bits : Bits) : Except Fault (List Nat × Bits) := do
  let (stored, bits) ← readStored count bits
  let pairs := lengthOrder.zip stored
  return ((List.range lengthOrder.length).map fun symbol => (pairs.lookup symbol).getD 0, bits)
where
  /-- Lengths of three bits each. -/
  readStored : Nat → Bits → Except Fault (List Nat × Bits)
    | 0, bits => .ok ([], bits)
    | count + 1, bits => do
        let (n, bits) ← bits.read 3
        let (ns, bits) ← readStored count bits
        return (n :: ns, bits)

/-- How often a length is repeated, and which.  The length before it is given, if there is one;
that it is missing matters only once the number of repetitions is there. -/
def readRepeat (last : Option Nat) (symbol : Nat) (bits : Bits) :
    Except Fault ((Nat × Nat) × Bits) :=
  if symbol < 16 then
    .ok ((1, symbol), bits)
  else if symbol = 16 then do
    let (n, bits) ← bits.read 2
    match last with
    | some length => .ok ((3 + n, length), bits)
    | none => .error .malformed
  else if symbol = 17 then
    (bits.read 3).map fun (n, bits) => ((3 + n, 0), bits)
  else
    (bits.read 7).map fun (n, bits) => ((11 + n, 0), bits)

/-- The longest codeword of the code for lengths. -/
def longestLengthWord : Nat := 7

/-- `need` lengths, in at most `fuel` repetitions.  The last must not pass the end, and in front of
each there have to be as many bits as its codeword may have. -/
def readLengths (code : Huffman.Code) :
    (fuel need : Nat) → (last : Option Nat) → Bits → Except Fault (List Nat × Bits)
  | _, 0, _, bits => .ok ([], bits)
  | 0, _ + 1, _, _ => .error .malformed
  | fuel + 1, need + 1, last, bits => do
      if !bits.has longestLengthWord then throw .exhausted
      let (word, bits) ← code.read bits
      let ((count, length), bits) ← readRepeat last word.symbol bits
      if need + 1 < count then
        throw .malformed
      else
        let (rest, bits) ← readLengths code fuel (need + 1 - count) (some length) bits
        return (List.replicate count length ++ rest, bits)

/-- A code for distances may have no codeword at all, or a single one of one bit. -/
def isDistanceCode (lengths : List Nat) : Bool :=
  Huffman.isComplete lengths || lengths.all (· == 0)
    || lengths.filter (· != 0) == [1]

/-- The codes of given lengths.  Of the literal code the end of the block is a symbol. -/
def Codes.ofLengths (literals distances : List Nat) : Except Fault Codes :=
  if literals[endOfBlock]? ≠ some 0 ∧ Huffman.isComplete literals ∧ isDistanceCode distances then
    .ok ⟨Huffman.ofLengths literals, Huffman.ofLengths distances⟩
  else
    .error .malformed

/-- **The codes that a block brings.** -/
def Codes.read (bits : Bits) : Except Fault (Codes × Bits) := do
  let (literals, bits) ← bits.read 5
  let (distances, bits) ← bits.read 5
  let (ordered, bits) ← bits.read 4
  if 286 < literals + 257 ∨ 30 < distances + 1 then throw .malformed
  let (codeLengths, bits) ← readOrdered (ordered + 4) bits
  if !Huffman.isComplete codeLengths then throw .malformed
  let total := literals + 257 + (distances + 1)
  let (lengths, bits) ← readLengths (Huffman.ofLengths codeLengths) total total none bits
  let codes ← Codes.ofLengths (lengths.take (literals + 257)) (lengths.drop (literals + 257))
  return (codes, bits)

end WatchBitmap.Deflate
