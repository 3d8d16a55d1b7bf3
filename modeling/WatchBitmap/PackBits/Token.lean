/-!
# The tokens of run-length coded rows

A coded row is a sequence of tokens.  A control byte `n` starts each of them:

| `n` | token |
|---|---|
| `0` to `127` | the next `n + 1` bytes stand for themselves |
| `128` | nothing |
| `129` to `255` | the next byte stands for `257 - n` copies of itself |

* `Token.expand` — the bytes that a token stands for.
* `Token.toBytes` — the bytes by which it is written.
* `Token.read?` — the token at the front of some bytes, if all of it is there.
* `Token.read?_toBytes_append`, `Token.eq_of_read?` — reading accepts exactly what writing
  produces.
-/

namespace WatchBitmap.PackBits

/-- A piece of a coded row. -/
inductive Token where
  /-- Bytes that stand for themselves. -/
  | literal (bytes : List UInt8)
  /-- Copies of one byte. -/
  | run (count : Nat) (value : UInt8)
  /-- The control byte that stands for nothing. -/
  | noOp
deriving DecidableEq, Repr

namespace Token

/-- How many bytes a token stands for. -/
def size : Token → Nat
  | literal bytes => bytes.length
  | run count _ => count
  | noOp => 0

/-- The bytes that a token stands for. -/
def expand : Token → List UInt8
  | literal bytes => bytes
  | run count value => List.replicate count value
  | noOp => []

/-- The bytes by which a token is written. -/
def toBytes : Token → List UInt8
  | literal bytes => UInt8.ofNat (bytes.length - 1) :: bytes
  | run count value => [UInt8.ofNat (257 - count), value]
  | noOp => [128]

/-- The tokens that have a control byte. -/
def WellFormed : Token → Prop
  | literal bytes => 1 ≤ bytes.length ∧ bytes.length ≤ 128
  | run count _ => 2 ≤ count ∧ count ≤ 128
  | noOp => True

instance (t : Token) : Decidable t.WellFormed := by
  cases t <;> unfold WellFormed <;> infer_instance

/-- **Reading one token.**  `none` if the bytes end before the token does. -/
def read? : List UInt8 → Option (Token × List UInt8)
  | [] => none
  | control :: rest =>
      if control < 128 then
        let bytes := rest.take (control.toNat + 1)
        if bytes.length = control.toNat + 1 then
          some (literal bytes, rest.drop (control.toNat + 1))
        else
          none
      else if control = 128 then
        some (noOp, rest)
      else
        match rest with
        | [] => none
        | value :: rest => some (run (257 - control.toNat) value, rest)

@[simp] theorem length_expand (t : Token) : t.expand.length = t.size := by
  cases t <;> simp [expand, size]

/-- What is read is a token that has a control byte, and its bytes stood at the front. -/
theorem eq_of_read? {input rest : List UInt8} {t : Token} (h : read? input = some (t, rest)) :
    t.WellFormed ∧ input = t.toBytes ++ rest := by
  cases input with
  | nil => simp [read?] at h
  | cons control tail =>
      have hlt : control.toNat < 256 := control.toNat_lt
      simp only [read?] at h
      split at h
      · next hc =>
          have hc : control.toNat < 128 := by simpa [UInt8.lt_iff_toNat_lt] using hc
          split at h
          · next hlen =>
              obtain ⟨rfl, rfl⟩ := by simpa using h
              refine ⟨⟨by omega, by omega⟩, ?_⟩
              simp [toBytes, hlen]
          · simp at h
      · next hc =>
          have hc : ¬ control.toNat < 128 := by simpa [UInt8.lt_iff_toNat_lt] using hc
          split at h
          · next heq =>
              obtain ⟨rfl, rfl⟩ := by simpa using h
              exact ⟨trivial, by simp [toBytes, heq]⟩
          · next hne =>
              have hne : control.toNat ≠ 128 := fun he => hne (UInt8.toNat_inj.1 (by simpa using he))
              split at h
              · simp at h
              · next value tail =>
                  obtain ⟨rfl, rfl⟩ := by simpa using h
                  refine ⟨⟨by omega, by omega⟩, ?_⟩
                  simp only [toBytes, List.cons_append, List.nil_append]
                  rw [show 257 - (257 - control.toNat) = control.toNat by omega]
                  simp

/-- A token that has a control byte is read from its own bytes, whatever follows them. -/
theorem read?_toBytes_append {t : Token} (h : t.WellFormed) (rest : List UInt8) :
    read? (t.toBytes ++ rest) = some (t, rest) := by
  cases t with
  | noOp => rfl
  | literal bytes =>
      obtain ⟨hpos, hle⟩ := h
      have hn : (UInt8.ofNat (bytes.length - 1)).toNat = bytes.length - 1 := by
        simp only [UInt8.toNat_ofNat']
        omega
      have hlt : UInt8.ofNat (bytes.length - 1) < 128 := by
        rw [UInt8.lt_iff_toNat_lt, hn]
        show _ < 128
        omega
      have hsucc : bytes.length - 1 + 1 = bytes.length := by omega
      simp [toBytes, read?, hlt, hn, hsucc]
  | run count value =>
      obtain ⟨hpos, hle⟩ := h
      have hn : (UInt8.ofNat (257 - count)).toNat = 257 - count := by
        simp only [UInt8.toNat_ofNat']
        omega
      have hlt : ¬ UInt8.ofNat (257 - count) < 128 := by
        rw [UInt8.lt_iff_toNat_lt, hn]
        show ¬ _ < 128
        omega
      have hne : ¬ UInt8.ofNat (257 - count) = 128 := by
        intro he
        have := congrArg UInt8.toNat he
        rw [hn] at this
        replace this : 257 - count = 128 := this
        omega
      have hcount : 257 - (257 - count) = count := by omega
      simp only [toBytes, List.cons_append, List.nil_append, read?, hlt, hne, if_false, hn, hcount]

/-- A token takes at least one byte. -/
theorem length_lt_of_read? {input rest : List UInt8} {t : Token}
    (h : read? input = some (t, rest)) : rest.length < input.length := by
  rw [(eq_of_read? h).2, List.length_append]
  cases t <;> simp [toBytes]

end Token

end WatchBitmap.PackBits
