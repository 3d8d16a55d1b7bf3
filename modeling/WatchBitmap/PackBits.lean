import WatchBitmap.PackBits.Token

/-!
# Run-length coding of packed rows

Rows are coded one by one, so any of them can be expanded by whoever knows how long it is.

* `tokens` — how a row is divided: repeats of three or more bytes become runs, what lies between
  them becomes literals, and neither passes 128 bytes.
* `encodeRow` — the bytes of those tokens.
* `expandRow` — the other direction: tokens are read until they make up a row.
* `expandRows` — so many rows, one after the other.

An expansion keeps what it had produced when it failed, for that is what a caller with a growing
output has been handed.
-/

namespace WatchBitmap.PackBits

/-! ## Coding -/

/-- The most bytes that one token stands for. -/
def maxCount : Nat := 128

/-- The shortest repeat worth a token of its own. -/
def minRun : Nat := 3

/-- How many of the first `limit` elements are copies of `value`, counted up to the first that is
not. -/
def countCopies (value : UInt8) : (limit : Nat) → List UInt8 → Nat
  | 0, _ => 0
  | _ + 1, [] => 0
  | limit + 1, b :: bs => if b = value then countCopies value limit bs + 1 else 0

/-- The length of the repeat at the front of a row, as far as one token reaches. -/
def runLength : List UInt8 → Nat
  | [] => 0
  | value :: rest => countCopies value (maxCount - 1) rest + 1

/-- How many of the first `limit` bytes come before the next repeat worth a token. -/
def literalLength : (limit : Nat) → List UInt8 → Nat
  | 0, _ => 0
  | _ + 1, [] => 0
  | limit + 1, b :: bs =>
      if minRun ≤ runLength (b :: bs) then 0 else literalLength limit bs + 1

/-- **The tokens of a row.**  A repeat that is long enough becomes a run; otherwise the bytes up
to the next such repeat, or as many as a token takes, become a literal. -/
def tokens : List UInt8 → List Token
  | [] => []
  | b :: bs =>
      if minRun ≤ runLength (b :: bs) then
        .run (runLength (b :: bs)) b :: tokens (bs.drop (runLength (b :: bs) - 1))
      else
        .literal (b :: bs.take (literalLength (maxCount - 1) bs))
          :: tokens (bs.drop (literalLength (maxCount - 1) bs))
termination_by row => row.length
decreasing_by all_goals simp only [List.length_drop, List.length_cons]; omega

/-- The coding of a row. -/
def encodeRow (row : List UInt8) : List UInt8 :=
  (tokens row).flatMap Token.toBytes

/-- Writes a coded row behind what is there. -/
def writeRow (out row : List UInt8) : List UInt8 :=
  out ++ encodeRow row

/-! ## Expanding -/

/-- What is wrong with a coded row. -/
inductive RowError where
  /-- The bytes end before the row is complete. -/
  | truncated
  /-- A token reaches past the end of the row. -/
  | overrun (stride : Nat)
deriving DecidableEq, Repr

/-- The wording of an error. -/
def RowError.message : RowError → String
  | truncated => "Run-length stream ended before row was complete"
  | overrun stride => "Run-length row expands past " ++ toString stride ++ " bytes"

/-- What became of the bytes at the front of some input. -/
structure Expansion where
  /-- The bytes that the tokens stand for. -/
  bytes : List UInt8
  /-- How many bytes these tokens are written with. -/
  used : Nat
  /-- Why there are no more of them, if there should have been. -/
  error? : Option RowError
deriving DecidableEq, Repr

/-- Another expansion, with a token before it. -/
def Expansion.after (t : Token) (e : Expansion) : Expansion :=
  ⟨t.expand ++ e.bytes, t.toBytes.length + e.used, e.error?⟩

/-- **Expanding a row** of `stride` bytes of which `need` are still to come.  A token that is
not complete is missed before its size is looked at. -/
def expandFrom (stride need : Nat) (input : List UInt8) : Expansion :=
  if need = 0 then
    ⟨[], 0, none⟩
  else
    match _h : Token.read? input with
    | none => ⟨[], 0, some .truncated⟩
    | some (t, rest) =>
        if need < t.size then
          ⟨[], 0, some (.overrun stride)⟩
        else
          (expandFrom stride (need - t.size) rest).after t
termination_by input.length
decreasing_by exact Token.length_lt_of_read? (by assumption)

/-- Expands one row of `stride` bytes from the front of the input. -/
def expandRow (stride : Nat) (input : List UInt8) : Expansion :=
  expandFrom stride stride input

/-- Expands one row behind what is there: what is there afterwards, and how much input the row
took or what is wrong with it. -/
def readRow (out : List UInt8) (stride : Nat) (input : List UInt8) :
    List UInt8 × Except RowError Nat :=
  let e := expandRow stride input
  (out ++ e.bytes, match e.error? with | none => .ok e.used | some error => .error error)

/-- The outcome of expanding several rows. -/
structure RowsExpansion extends Expansion where
  /-- How many rows were complete. -/
  rows : Nat
deriving DecidableEq, Repr

/-- Expands `height` rows of `stride` bytes, up to the first that is not in order. -/
def expandRows (stride : Nat) : (height : Nat) → List UInt8 → RowsExpansion
  | 0, _ => ⟨⟨[], 0, none⟩, 0⟩
  | height + 1, input =>
      let row := expandRow stride input
      match row.error? with
      | some error => ⟨⟨row.bytes, row.used, some error⟩, 0⟩
      | none =>
          let rest := expandRows stride height (input.drop row.used)
          ⟨⟨row.bytes ++ rest.bytes, row.used + rest.used, rest.error?⟩, rest.rows + 1⟩

end WatchBitmap.PackBits
