import WatchBitmap.Deflate.Bits

/-!
# Canonical Huffman codes

A code is given by the length of each symbol's codeword.  Codewords of one length are consecutive
numbers in the order of their symbols, and each length starts where the one before it stopped, so
a codeword is found by counting.

* `Huffman.Code` — how many codewords there are of each length, and their symbols in order.
* `Huffman.ofLengths` — the code of given lengths.
* `Huffman.Word` — a codeword that has been read.
* `Huffman.Code.read` — the codeword at the front of some bits.
* `Huffman.Code.peek` — the same where zeros stand for bits that are missing.
* `Huffman.isComplete` — no codeword could be added.
-/

namespace WatchBitmap.Deflate.Huffman

/-- The longest codeword. -/
def maxLength : Nat := 15

/-- A code. -/
structure Code where
  /-- How many codewords there are of each length, from one bit up. -/
  counts : List Nat
  /-- The symbols, by length and then by number. -/
  symbols : Array Nat
deriving Repr

/-- The symbols whose codewords have a given length. -/
def symbolsOfLength (lengths : List Nat) (length : Nat) : List Nat :=
  (lengths.zipIdx.filter fun (l, _) => l == length).map Prod.snd

/-- The code of some lengths.  A length of zero means that the symbol does not occur. -/
def ofLengths (lengths : List Nat) : Code :=
  let byLength := (List.range maxLength).map fun i => symbolsOfLength lengths (i + 1)
  ⟨byLength.map List.length, byLength.flatten.toArray⟩

/-- How many codewords of the greatest length the codewords stand for, each with all of its
continuations. -/
def measure (lengths : List Nat) : Nat :=
  lengths.foldr (fun l words => (if l = 0 then 0 else 1 <<< (maxLength - l)) + words) 0

/-- Every sequence of bits begins with exactly one codeword. -/
def isComplete (lengths : List Nat) : Bool :=
  measure lengths == 1 <<< maxLength

/-- A codeword that has been read. -/
structure Word where
  /-- What it stands for. -/
  symbol : Nat
  /-- How many bits it has. -/
  length : Nat
deriving DecidableEq, Repr

/-- **Finding a codeword.**  Of the codewords of the length that is looked at, `first` is the first
and `index` the place of its symbol; `word` holds the bits so far, of which there are `length`. -/
def readFrom (symbols : Array Nat) :
    (counts : List Nat) → (word first index length : Nat) → Bits → Except Fault (Word × Bits)
  | [], _, _, _, _, _ => .error .malformed
  | count :: counts, word, first, index, length, bits =>
      match bits.next? with
      | none => .error .exhausted
      | some (b, bits) =>
          let word := 2 * word + Bits.weight b
          let first := 2 * first
          if word < first + count then
            match symbols[index + (word - first)]? with
            | some symbol => .ok (⟨symbol, length + 1⟩, bits)
            | none => .error .malformed
          else
            readFrom symbols counts word (first + count) (index + count) (length + 1) bits

/-- The codeword at the front of some bits. -/
def Code.read (code : Code) (bits : Bits) : Except Fault (Word × Bits) :=
  readFrom code.symbols code.counts 0 0 0 0 bits

/-- The codeword at the front of some bits.  If they end inside of it, zeros stand for the bits that
are still to come; two bytes of them are enough. -/
def Code.peek (code : Code) (bits : Bits) : Except Fault (Word × Bits) :=
  match code.read bits with
  | .error .exhausted => code.read ⟨bits.pending, bits.bytes ++ [0, 0]⟩
  | result => result

end WatchBitmap.Deflate.Huffman
