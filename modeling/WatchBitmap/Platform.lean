/-!
# Platforms

A platform is known by its name and described by tags.

* `Platform` — the tags of one platform.
* `PlatformTable` — platforms by name, each name once and in ascending order.
* `PlatformTable.insert`, `PlatformTable.get?` — writing and looking up; `get?_insert` says how
  they go together, and `ofList_entries` that its entries are all there is to a table.
* `PlatformTable.supportsColor?` — whether a platform has the tag for a color display.
-/

namespace WatchBitmap

/-- The tag of platforms with a color display. -/
def colorTag : String := "color"

/-- What is known about one platform. -/
structure Platform where
  tags : List String := []
deriving DecidableEq, Repr

/-- A platform has a tag only if it is there letter by letter. -/
def Platform.hasTag (p : Platform) (tag : String) : Bool :=
  p.tags.contains tag

namespace PlatformTable

/-- The entries of a table before their order is looked at. -/
abbrev Entries := List (String × Platform)

/-- Every name comes after the one before it. -/
def Ascending (entries : Entries) : Prop :=
  entries.Pairwise fun a b => a.1 < b.1

instance (entries : Entries) : Decidable (Ascending entries) :=
  inferInstanceAs (Decidable (entries.Pairwise _))

/-- Writes an entry at its place, over the one that has its name. -/
def insertEntry (name : String) (platform : Platform) : Entries → Entries
  | [] => [(name, platform)]
  | entry :: rest =>
      if name < entry.1 then (name, platform) :: entry :: rest
      else if name = entry.1 then (name, platform) :: rest
      else entry :: insertEntry name platform rest

theorem mem_insertEntry {name : String} {platform : Platform} {entry : String × Platform}
    {entries : Entries} (h : entry ∈ insertEntry name platform entries) :
    entry = (name, platform) ∨ entry ∈ entries := by
  induction entries with
  | nil => exact .inl (by simpa [insertEntry] using h)
  | cons first rest ih =>
      simp only [insertEntry] at h
      split at h
      · exact List.mem_cons.1 h
      · split at h
        · exact (List.mem_cons.1 h).imp id (List.mem_cons_of_mem _)
        · rcases List.mem_cons.1 h with rfl | h
          · exact .inr List.mem_cons_self
          · exact (ih h).imp id (List.mem_cons_of_mem _)

theorem ascending_insertEntry (name : String) (platform : Platform) {entries : Entries}
    (h : Ascending entries) : Ascending (insertEntry name platform entries) := by
  induction entries with
  | nil => exact List.pairwise_singleton _ _
  | cons first rest ih =>
      obtain ⟨hfirst, hrest⟩ := List.pairwise_cons.1 h
      simp only [insertEntry]
      split
      · next hlt =>
          refine List.pairwise_cons.2 ⟨fun entry hentry => ?_, h⟩
          rcases List.mem_cons.1 hentry with rfl | hentry
          · exact hlt
          · exact String.lt_trans hlt (hfirst entry hentry)
      · next hlt =>
          split
          · next heq =>
              exact List.pairwise_cons.2 ⟨fun entry hentry => heq ▸ hfirst entry hentry, hrest⟩
          · next hne =>
              refine List.pairwise_cons.2 ⟨fun entry hentry => ?_, ih hrest⟩
              rcases mem_insertEntry hentry with rfl | hentry
              · refine Decidable.byContradiction fun hge => hne ?_
                exact String.le_antisymm (String.not_lt.1 hge) (String.not_lt.1 hlt)
              · exact hfirst entry hentry

end PlatformTable

/-- Platforms by name. -/
structure PlatformTable where
  entries : PlatformTable.Entries
  ascending : PlatformTable.Ascending entries

instance : DecidableEq PlatformTable := fun a b =>
  decidable_of_iff (a.entries = b.entries)
    ⟨fun h => by cases a; cases b; cases h; rfl, fun h => congrArg _ h⟩

namespace PlatformTable

/-- The table without platforms. -/
def empty : PlatformTable :=
  ⟨[], List.Pairwise.nil⟩

/-- How many platforms there are. -/
def size (t : PlatformTable) : Nat :=
  t.entries.length

/-- The names, in ascending order. -/
def names (t : PlatformTable) : List String :=
  t.entries.map Prod.fst

/-- Adds a platform, in place of the one that had its name. -/
def insert (t : PlatformTable) (name : String) (platform : Platform) : PlatformTable :=
  ⟨insertEntry name platform t.entries, ascending_insertEntry name platform t.ascending⟩

/-- The table of some entries.  Of those with the same name the last counts. -/
def ofList (entries : Entries) : PlatformTable :=
  entries.foldl (fun t entry => t.insert entry.1 entry.2) empty

/-- The platform of a given name. -/
def get? (t : PlatformTable) (name : String) : Option Platform :=
  t.entries.lookup name

/-- Whether a platform has a color display; `none` if there is no such platform. -/
def supportsColor? (t : PlatformTable) (name : String) : Option Bool :=
  (t.get? name).map fun p => p.hasTag colorTag

/-- The stock platforms. -/
def stock : PlatformTable where
  entries := [
    ("aplite", ⟨["bw", "rect"]⟩),
    ("basalt", ⟨["color", "rect"]⟩),
    ("chalk", ⟨["color", "round"]⟩),
    ("diorite", ⟨["bw", "rect"]⟩),
    ("emery", ⟨["color", "rect"]⟩)]
  ascending := by decide +kernel

/-- **Looking up after writing.** -/
theorem get?_insert (t : PlatformTable) (name other : String) (platform : Platform) :
    (t.insert name platform).get? other = if other = name then some platform else t.get? other := by
  simp only [get?, insert]
  generalize t.entries = entries
  have lookup_cons (key : String) (value : Platform) (rest : Entries) :
      ((key, value) :: rest).lookup other = if other = key then some value else rest.lookup other := by
    by_cases h : other = key
    · simp [h]
    · rw [List.lookup_cons, beq_eq_false_iff_ne.2 h, if_neg h]
  induction entries with
  | nil => simp [insertEntry, lookup_cons]
  | cons first rest ih =>
      obtain ⟨firstName, firstPlatform⟩ := first
      simp only [insertEntry]
      split
      · rw [lookup_cons]
      · split
        · next heq => grind
        · next hne => grind

/-- In a table whose last name comes before another, an entry of that name is written at the
end. -/
theorem insertEntry_of_forall_lt {name : String} {platform : Platform} {entries : Entries}
    (h : ∀ entry ∈ entries, entry.1 < name) :
    insertEntry name platform entries = entries ++ [(name, platform)] := by
  induction entries with
  | nil => rfl
  | cons first rest ih =>
      have hfirst : first.1 < name := h first List.mem_cons_self
      have hne : name ≠ first.1 := fun he => String.lt_irrefl _ (he ▸ hfirst)
      simp [insertEntry, String.lt_asymm hfirst, hne,
        ih fun entry hentry => h entry (List.mem_cons_of_mem _ hentry)]

theorem foldl_insert (done : PlatformTable) (todo : Entries)
    (h : Ascending (done.entries ++ todo)) :
    (todo.foldl (fun t entry => PlatformTable.insert t entry.1 entry.2) done).entries
      = done.entries ++ todo := by
  induction todo generalizing done with
  | nil => simp
  | cons entry todo ih =>
      have hlast : (done.insert entry.1 entry.2).entries = done.entries ++ [entry] :=
        insertEntry_of_forall_lt fun a ha =>
          (List.pairwise_append.1 h).2.2 a ha entry List.mem_cons_self
      rw [List.foldl_cons, ih _ (by rw [hlast]; simpa using h), hlast]
      simp

@[ext] theorem ext {t u : PlatformTable} (h : t.entries = u.entries) : t = u := by
  cases t
  cases u
  cases h
  rfl

/-- Writing the entries of a table one after the other gives the table back. -/
theorem ofList_entries (t : PlatformTable) : ofList t.entries = t :=
  ext (foldl_insert empty t.entries (by simpa [empty] using t.ascending))

end PlatformTable

end WatchBitmap
