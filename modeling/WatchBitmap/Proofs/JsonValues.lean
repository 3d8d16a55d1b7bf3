import Mathlib.Tactic.Common
import WatchBitmap.Json.Record
import WatchBitmap.Json.Variant
import WatchBitmap.Proofs.JsonText

/-!
# Values in JSON text are read as they were written

`Represents read text x` says that a reader takes `text` off the front of any text and makes `x` of
it.  There is one law for each way of putting written values together, and a value of any depth is
read back by applying them from the inside to the outside.

* `represents_string`, `represents_bool`, `Represents.optional` — scalars.
* `represents_array`, `represents_entries` — equal elements, equal entries.
* `Record.Fills` — how the entries of an object fill in a record, one field after the other;
  `Record.represents` reads the record.
* `represents_plain`, `represents_carrying` — variants without data, and with it.
* `Represents.ofWhole` — **a text that is one value is read as that value.**
-/

namespace WatchBitmap.Json

variable {α β : Type} {read : Reader α} {x : α} {text : List Char}

/-- A written value starts with a character that is neither space nor the end of an array. -/
def Opens (text : List Char) : Prop :=
  ∃ c rest, text = c :: rest ∧ isSpace c = false ∧ c ≠ ']'

/-- **A text represents a value**: a reader takes it off the front of any text and makes the value
of it. -/
structure Represents (read : Reader α) (text : List Char) (x : α) : Prop where
  opens : Opens text
  read_append : ∀ rest, read (text ++ rest) = .ok (x, rest)

lemma skipSpace_cons {c : Char} (h : isSpace c = false) (rest : List Char) :
    skipSpace (c :: rest) = c :: rest := by
  simp [skipSpace, h]

lemma Opens.skipSpace_append (h : Opens text) (rest : List Char) :
    skipSpace (text ++ rest) = text ++ rest := by
  obtain ⟨c, tail, rfl, hspace, -⟩ := h
  exact skipSpace_cons hspace (tail ++ rest)

lemma Opens.ne_nil (h : Opens text) : text ≠ [] := by
  obtain ⟨c, tail, rfl, -, -⟩ := h
  exact List.cons_ne_nil c tail

/-- What is made of a value that is read is represented by the same text. -/
lemma Represents.map (h : Represents read text x) (f : α → β) :
    Represents (fun text => (read text).map fun (v, rest) => (f v, rest)) text (f x) where
  opens := h.opens
  read_append rest := by rw [h.read_append, Except.map]

/-! ## Scalars -/

lemma opens_write (s : String) : Opens (Text.write s) :=
  ⟨'\"', _, rfl, rfl, by decide⟩

/-- Behind its opening quote a string is read, wherever it stands. -/
lemma text_read_append (s : String) (rest : List Char) :
    Text.read ((s.toList.flatMap Text.writeChar ++ ['\"']) ++ rest) = .ok (s, rest) := by
  rw [List.append_assoc]
  exact Text.read_append s rest

theorem represents_string (s : String) : Represents string (Text.write s) s where
  opens := opens_write s
  read_append rest := by
    rw [Text.write, List.cons_append, string, skipSpace_cons (by decide)]
    exact text_read_append s rest

theorem represents_bool (b : Bool) : Represents bool (writeBool b) b where
  opens := by cases b <;> exact ⟨_, _, rfl, rfl, by decide⟩
  read_append rest := by cases b <;> rfl

/-- A value that does not start like a null is told apart from it. -/
theorem Represents.optional (h : Represents read text x) (hnull : text.head? ≠ some 'n') :
    Represents (Json.optional read) text (some x) where
  opens := h.opens
  read_append rest := by
    have hread := h.read_append rest
    obtain ⟨c, tail, rfl, hspace, -⟩ := h.opens
    rw [Json.optional, List.cons_append, skipSpace_cons hspace]
    rw [List.cons_append] at hread
    split
    · next heq =>
        rw [List.cons.injEq] at heq
        exact absurd (congrArg some heq.1) hnull
    · rw [hread, Except.map]

lemma represents_null : Represents (optional read) ['n', 'u', 'l', 'l'] none where
  opens := ⟨_, _, rfl, rfl, by decide⟩
  read_append _ := rfl

lemma represents_writeOptional_string (s? : Option String) :
    Represents (optional string) (writeOptional Text.write s?) s? := by
  cases s? with
  | none => exact represents_null
  | some s =>
      refine (represents_string s).optional ?_
      rw [Text.write, List.head?_cons]
      decide

/-! ## Parts and commas -/

/-- What stands in front of a part: nothing if it is the first, otherwise a comma. -/
def lead (first : Bool) : List Char :=
  if first then [] else [',']

/-- Parts with what stands in front of them. -/
def separated : (first : Bool) → List (List Char) → List Char
  | _, [] => []
  | first, part :: parts => lead first ++ (part ++ separated false parts)

lemma separated_true (parts : List (List Char)) : separated true parts = writeParts parts := by
  have hfalse : ∀ part parts,
      separated false (part :: parts) = ',' :: writeParts (part :: parts) := by
    intro part parts
    induction parts generalizing part with
    | nil => simp [separated, writeParts, lead]
    | cons next parts ih =>
        rw [separated, ih next]
        rfl
  cases parts with
  | nil => rfl
  | cons part parts =>
      cases parts with
      | nil => simp [separated, writeParts, lead]
      | cons next parts =>
          rw [separated, hfalse]
          rfl

/-- There are no more parts than characters, so that a reader which counts down from the characters
that are left reaches every part. -/
lemma length_le_length_separated {parts : List (List Char)} (h : ∀ part ∈ parts, part ≠ [])
    (first : Bool) (tail : List Char) : parts.length ≤ (separated first parts ++ tail).length := by
  induction parts generalizing first with
  | nil => exact Nat.zero_le _
  | cons part parts ih =>
      have hpart := List.length_pos_iff.2 (h part List.mem_cons_self)
      have hparts := ih (fun q hq => h q (List.mem_cons_of_mem part hq)) false
      simp only [separated, List.length_append, List.length_cons] at hparts ⊢
      omega

/-! ## Arrays -/

lemma nextElement_lead (first : Bool) (h : Opens text) (rest : List Char) :
    nextElement first (lead first ++ (text ++ rest)) = .ok (true, text ++ rest) := by
  have hskip := h.skipSpace_append rest
  obtain ⟨c, tail, rfl, hspace, hc⟩ := h
  rw [List.cons_append] at hskip ⊢
  cases first with
  | true => simp [nextElement, lead, hskip]
  | false => simp [nextElement, lead, hskip, hc, skipSpace_cons (show isSpace ',' = false from rfl)]

/-- **Elements are read one after the other.**  The induction is on the elements; only the first
has no comma in front of it. -/
lemma elementsFrom_separated {write : α → List Char} {xs : List α} {fuel : ℕ}
    (h : ∀ x ∈ xs, Represents read (write x) x) (hfuel : xs.length ≤ fuel) (first : Bool)
    (rest : List Char) :
    elementsFrom read (fuel + 1) first (separated first (xs.map write) ++ ']' :: rest)
      = .ok (xs, ']' :: rest) := by
  induction xs generalizing fuel first with
  | nil => rfl
  | cons x xs ih =>
      obtain ⟨fuel, rfl⟩ := Nat.exists_eq_add_one.2 (Nat.lt_of_lt_of_le (Nat.succ_pos _) hfuel)
      have hx := h x List.mem_cons_self
      have hxs := ih (fun y hy => h y (List.mem_cons_of_mem x hy)) (Nat.le_of_succ_le_succ hfuel)
        false
      rw [List.map_cons, separated, List.append_assoc, List.append_assoc, elementsFrom,
        nextElement_lead first hx.opens]
      simp only [bind, Except.bind, if_true, hx.read_append, hxs]
      rfl

/-- **An array is read back**, if each of its elements is. -/
theorem represents_array {write : α → List Char} {xs : List α}
    (h : ∀ x ∈ xs, Represents read (write x) x) :
    Represents (array read) (writeArray (xs.map write)) xs where
  opens := ⟨'[', _, rfl, rfl, by decide⟩
  read_append rest := by
    have hne : ∀ part ∈ xs.map write, part ≠ [] :=
      List.forall_mem_map.2 fun x hx => (h x hx).opens.ne_nil
    have hfuel := length_le_length_separated hne true (']' :: rest)
    rw [List.length_map] at hfuel
    rw [writeArray, ← separated_true, List.cons_append, List.append_assoc, List.singleton_append,
      array, skipSpace_cons (by decide)]
    simp only [bind, Except.bind, elementsFrom_separated h hfuel]
    rfl

/-! ## Objects -/

lemma nextKey_lead (first : Bool) (name : String) (rest : List Char) :
    nextKey first (lead first ++ (Text.write name ++ rest)) = .ok (some name, rest) := by
  have hkey : nextKey.key (Text.write name ++ rest) = .ok (some name, rest) := by
    rw [Text.write, List.cons_append, nextKey.key, text_read_append, Except.map]
  have hskip := (opens_write name).skipSpace_append rest
  obtain ⟨tail, htail⟩ : ∃ tail, Text.write name ++ rest = '\"' :: tail := ⟨_, rfl⟩
  rw [htail] at hkey hskip ⊢
  cases first with
  | true => simp [nextKey, lead, hskip, hkey]
  | false => simp [nextKey, lead, hskip, hkey, skipSpace_cons (show isSpace ',' = false from rfl)]

@[simp] lemma nextKey_brace (first : Bool) (rest : List Char) :
    nextKey first ('}' :: rest) = .ok (none, '}' :: rest) :=
  rfl

@[simp] lemma colon_cons (rest : List Char) : colon (':' :: rest) = .ok rest :=
  rfl

@[simp] lemma endObject_cons (rest : List Char) : endObject ('}' :: rest) = .ok rest :=
  rfl

/-- What a reader of entries is given behind the opening brace. -/
lemma writeObject_append (entries : List (String × List Char)) (rest : List Char) :
    writeObject entries ++ rest
      = '{' :: (separated true (entries.map writeEntry) ++ '}' :: rest) := by
  rw [writeObject, ← separated_true, List.cons_append, List.append_assoc, List.singleton_append]

lemma length_le_length_entries (entries : List (String × List Char)) (rest : List Char) :
    entries.length ≤ (separated true (entries.map writeEntry) ++ '}' :: rest).length := by
  have hne : ∀ part ∈ entries.map writeEntry, part ≠ [] :=
    List.forall_mem_map.2 fun _ _ => List.cons_ne_nil _ _
  have hlen := length_le_length_separated hne true ('}' :: rest)
  rwa [List.length_map] at hlen

/-- **Entries are read one after the other**, as elements are. -/
lemma entriesFrom_separated {write : α → List Char} {xs : List (String × α)} {fuel : ℕ}
    (h : ∀ entry ∈ xs, Represents read (write entry.2) entry.2) (hfuel : xs.length ≤ fuel)
    (first : Bool) (rest : List Char) :
    entriesFrom read (fuel + 1) first
        (separated first ((xs.map fun entry => (entry.1, write entry.2)).map writeEntry)
          ++ '}' :: rest)
      = .ok (xs, '}' :: rest) := by
  induction xs generalizing fuel first with
  | nil => rfl
  | cons entry xs ih =>
      obtain ⟨fuel, rfl⟩ := Nat.exists_eq_add_one.2 (Nat.lt_of_lt_of_le (Nat.succ_pos _) hfuel)
      have hvalue := (h entry List.mem_cons_self).read_append
      have hxs := ih (fun other hother => h other (List.mem_cons_of_mem entry hother))
        (Nat.le_of_succ_le_succ hfuel) false
      simp only [List.map_cons, separated, writeEntry, List.append_assoc, List.cons_append]
      rw [entriesFrom, nextKey_lead]
      simp only [bind, Except.bind, colon_cons, hvalue, hxs]
      rfl

/-- **An object of equal entries is read back**, if the value of each entry is. -/
theorem represents_entries {write : α → List Char} {xs : List (String × α)}
    (h : ∀ entry ∈ xs, Represents read (write entry.2) entry.2) :
    Represents (entries read) (writeObject (xs.map fun entry => (entry.1, write entry.2))) xs where
  opens := ⟨'{', _, rfl, rfl, by decide⟩
  read_append rest := by
    have hfuel := length_le_length_entries (xs.map fun entry => (entry.1, write entry.2)) rest
    rw [List.length_map] at hfuel
    rw [writeObject_append, entries, skipSpace_cons (by decide)]
    simp only [bind, Except.bind, entriesFrom_separated h hfuel, endObject_cons]
    rfl

/-! ## Records -/

namespace Record

variable {r : Record α β} {parts parts' : β}

/-- Reading an entry of an object adds it to what has been read of the record. -/
def Takes (r : Record α β) (parts : β) (entry : String × List Char) (parts' : β) : Prop :=
  ∀ rest, r.readEntry parts entry.1 (':' :: (entry.2 ++ rest)) = .ok (parts', rest)

/-- **Filling in a record**, entry by entry. -/
inductive Fills (r : Record α β) : β → List (String × List Char) → β → Prop
  | nil (parts : β) : Fills r parts [] parts
  | cons {parts next parts' : β} {entry : String × List Char} {entries : List (String × List Char)}
      (head : r.Takes parts entry next) (tail : Fills r next entries parts') :
      Fills r parts (entry :: entries) parts'

/-- A field that is not there yet takes the entry of its name, if its value is read back.  `put`
adds the value to the parts. -/
lemma Takes.ofField {γ : Type} {readValue : Reader γ} {value : γ} {name : String} {field : Field β}
    (put : β → γ → β) (hfind : (r.fields.find? fun field => field.name == name) = some field)
    (habsent : field.present parts = false)
    (hfield : ∀ parts text, field.read parts text
      = (readValue text).map fun (v, rest) => (put parts v, rest))
    (hvalue : Represents readValue text value) :
    r.Takes parts (name, text) (put parts value) := by
  intro rest
  have hread := (hvalue.map (put parts)).read_append rest
  simp [readEntry, hfind, habsent, hfield, hread, bind, Except.bind]

/-- The entries of an object are read into the record that they fill in. -/
lemma Fills.readEntries_separated {entries : List (String × List Char)} {fuel : ℕ}
    (h : r.Fills parts entries parts') (hfuel : entries.length ≤ fuel) (first : Bool)
    (rest : List Char) :
    r.readEntries (fuel + 1) first parts (separated first (entries.map writeEntry) ++ '}' :: rest)
      = .ok (parts', '}' :: rest) := by
  induction h generalizing fuel first with
  | nil parts => rfl
  | cons head tail ih =>
      obtain ⟨fuel, rfl⟩ := Nat.exists_eq_add_one.2 (Nat.lt_of_lt_of_le (Nat.succ_pos _) hfuel)
      have htail := ih (Nat.le_of_succ_le_succ hfuel) false
      simp only [List.map_cons, separated, writeEntry, List.append_assoc, List.cons_append]
      rw [readEntries, nextKey_lead]
      simp only [bind, Except.bind, head _, htail]

/-- **A record is read back** from entries that fill it in. -/
theorem represents {entries : List (String × List Char)} (h : r.Fills r.blank entries parts)
    (hfinish : r.finish parts = some x) : Represents r.read (writeObject entries) x where
  opens := ⟨'{', _, rfl, rfl, by decide⟩
  read_append rest := by
    have hfuel := length_le_length_entries entries rest
    rw [writeObject_append, Record.read, skipSpace_cons (by decide)]
    simp only [bind, Except.bind, h.readEntries_separated hfuel, complete, hfinish, endObject_cons]
    rfl

end Record

/-! ## Variants -/

section Variants

variable {variants : List (Variant α)} {name : String}

lemma Variant.find_eq_ok {v : Variant α} (h : (variants.find? fun v => v.name == name) = some v) :
    Variant.find variants name = .ok v := by
  rw [Variant.find, h]

/-- **A variant without data** is read back from its name. -/
theorem represents_plain (h : (variants.find? fun v => v.name == name) = some (.plain name x)) :
    Represents (oneOf variants) (Text.write name) x where
  opens := opens_write name
  read_append rest := by
    rw [Text.write, List.cons_append, oneOf, skipSpace_cons (by decide)]
    simp only [bind, Except.bind, text_read_append, Variant.find_eq_ok h, Variant.bare]
    rfl

/-- **A variant with data** is read back from an object of one entry, if its data are. -/
theorem represents_carrying
    (h : (variants.find? fun v => v.name == name) = some (.carrying name read))
    (hdata : Represents read text x) : Represents (oneOf variants) (writeCarrying name text) x where
  opens := ⟨'{', _, rfl, rfl, by decide⟩
  read_append rest := by
    have hname := (represents_string name).read_append
    rw [writeCarrying, writeObject, List.cons_append, oneOf, skipSpace_cons (by decide)]
    simp only [List.map_cons, List.map_nil, writeParts, writeEntry, List.append_assoc,
      List.cons_append, List.nil_append, bind, Except.bind, hname, Variant.find_eq_ok h, colon_cons,
      Variant.readData, hdata.read_append, endObject_cons]
    rfl

end Variants

/-! ## Whole texts -/

/-- **A text that is one value is read as that value.** -/
theorem Represents.ofWhole (h : Represents read text x) :
    Reader.ofWhole read (String.ofList text) = .ok x := by
  have hread := h.read_append []
  rw [List.append_nil] at hread
  simp [Reader.ofWhole, hread, bind, Except.bind, pure, Except.pure, skipSpace]

end WatchBitmap.Json
