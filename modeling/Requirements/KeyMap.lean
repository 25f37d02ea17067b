/-!
# Maps with sorted keys

A map from strings is the list of its entries in strictly ascending order of their
keys. Equal maps are therefore equal lists.
-/

namespace Requirements

/-- A map from strings, listed in ascending order of the keys. -/
structure KeyMap (α : Type) where
  entries : List (String × α)
  sorted : entries.Pairwise (fun a b => a.1 < b.1)
  deriving DecidableEq

namespace KeyMap

variable {α : Type}

/-- The map without entries. -/
def empty : KeyMap α := ⟨[], List.Pairwise.nil⟩

instance : Inhabited (KeyMap α) := ⟨empty⟩

/-- Put an entry in its place in an ascending list, over one of the same key. -/
def insertEntry (key : String) (value : α) : List (String × α) → List (String × α)
  | [] => [(key, value)]
  | (k, v) :: rest =>
    if key < k then (key, value) :: (k, v) :: rest
    else if key = k then (key, value) :: rest
    else (k, v) :: insertEntry key value rest

theorem mem_keys_insertEntry {key k : String} {value v : α} {entries : List (String × α)}
    (h : (k, v) ∈ insertEntry key value entries) : k = key ∨ (k, v) ∈ entries := by
  induction entries with
  | nil => simp_all [insertEntry]
  | cons entry rest ih =>
    obtain ⟨k', v'⟩ := entry
    simp only [insertEntry] at h
    split at h
    · simp only [List.mem_cons, Prod.mk.injEq] at h ⊢
      rcases h with ⟨rfl, _⟩ | h | h <;> simp_all
    · split at h
      · simp only [List.mem_cons, Prod.mk.injEq] at h ⊢
        rcases h with ⟨rfl, _⟩ | h <;> simp_all
      · simp only [List.mem_cons] at h ⊢
        rcases h with h | h
        · exact .inr (.inl h)
        · exact (ih h).imp id .inr

theorem sorted_insertEntry (key : String) (value : α) {entries : List (String × α)}
    (h : entries.Pairwise (fun a b => a.1 < b.1)) :
    (insertEntry key value entries).Pairwise (fun a b => a.1 < b.1) := by
  induction entries with
  | nil => simp [insertEntry]
  | cons entry rest ih =>
    obtain ⟨k, v⟩ := entry
    obtain ⟨hk, hrest⟩ := List.pairwise_cons.1 h
    simp only [insertEntry]
    split
    · rename_i hlt
      refine List.pairwise_cons.2 ⟨fun e he => ?_, h⟩
      rcases List.mem_cons.1 he with rfl | he
      · exact hlt
      · exact String.lt_trans hlt (hk e he)
    · split
      · rename_i heq
        subst heq
        exact List.pairwise_cons.2 ⟨hk, hrest⟩
      · rename_i hlt hne
        refine List.pairwise_cons.2 ⟨fun e he => ?_, ih hrest⟩
        obtain ⟨k', v'⟩ := e
        rcases mem_keys_insertEntry he with rfl | he
        · have hle : k ≤ k' := String.not_lt.1 hlt
          show k < k'
          refine Decidable.byContradiction fun hn => hne ?_
          exact String.le_antisymm (String.not_lt.1 hn) hle
        · exact hk _ he

/-- The map with a value for a key. -/
def insert (map : KeyMap α) (key : String) (value : α) : KeyMap α :=
  ⟨insertEntry key value map.entries, sorted_insertEntry key value map.sorted⟩

/-- The value of a key. -/
def find? (map : KeyMap α) (key : String) : Option α :=
  (map.entries.find? (·.1 == key)).map (·.2)

/-- Whether a key has a value. -/
def contains (map : KeyMap α) (key : String) : Bool := (map.find? key).isSome

/-- Whether there is no entry. -/
def isEmpty (map : KeyMap α) : Bool := map.entries.isEmpty

/-- The map of a list of entries; a later entry of a key counts. -/
def ofList (entries : List (String × α)) : KeyMap α :=
  entries.foldl (fun map (key, value) => map.insert key value) empty

@[simp] theorem find?_empty (key : String) : (empty : KeyMap α).find? key = none := rfl

theorem find?_insertEntry (key k : String) (value : α) (entries : List (String × α)) :
    (insertEntry key value entries).find? (·.1 == k) =
      if key = k then some (key, value) else entries.find? (·.1 == k) := by
  induction entries with
  | nil => by_cases h : key = k <;> simp [insertEntry, h]
  | cons entry rest ih =>
    obtain ⟨k', v'⟩ := entry
    simp only [insertEntry]
    split
    · by_cases h : key = k <;> simp [h]
    · split
      · rename_i _ heq
        subst heq
        by_cases h : key = k <;> simp [h]
      · rename_i _ hne
        by_cases hk : k' = k
        · subst hk
          simp [hne]
        · simp [hk, ih]

/-- What was written is read, and no other key is touched. -/
@[simp] theorem find?_insert (map : KeyMap α) (key k : String) (value : α) :
    (map.insert key value).find? k = if key = k then some value else map.find? k := by
  simp only [find?, insert, find?_insertEntry]
  by_cases h : key = k <;> simp [h]

theorem find?_eq_none_of_lt {key : String} {entries : List (String × α)}
    (h : ∀ entry ∈ entries, key < entry.1) : entries.find? (·.1 == key) = none := by
  rw [List.find?_eq_none]
  intro entry member same
  exact String.lt_irrefl key (eq_of_beq same ▸ h entry member)

/-- Sorted entries are known by what is found in them. -/
theorem entries_eq_of_find?_eq {first second : List (String × α)}
    (sorted₁ : first.Pairwise (fun a b => a.1 < b.1))
    (sorted₂ : second.Pairwise (fun a b => a.1 < b.1))
    (same : ∀ key, (first.find? (·.1 == key)).map (·.2) = (second.find? (·.1 == key)).map (·.2)) :
    first = second := by
  induction first generalizing second with
  | nil =>
    cases second with
    | nil => rfl
    | cons entry rest => simpa using same entry.1
  | cons entry rest ih =>
    obtain ⟨k, v⟩ := entry
    cases second with
    | nil => simpa using same k
    | cons entry' rest' =>
      obtain ⟨k', v'⟩ := entry'
      obtain ⟨above, sorted⟩ := List.pairwise_cons.1 sorted₁
      obtain ⟨above', sorted'⟩ := List.pairwise_cons.1 sorted₂
      -- The smaller of two different first keys would be found in one list only.
      have order : ¬ k < k' := fun lt => by
        have missing : ((k', v') :: rest').find? (·.1 == k) = none :=
          find?_eq_none_of_lt fun entry member => by
            rcases List.mem_cons.1 member with rfl | later
            · exact lt
            · exact String.lt_trans lt (above' entry later)
        simpa [missing] using same k
      have order' : ¬ k' < k := fun lt => by
        have missing : ((k, v) :: rest).find? (·.1 == k') = none :=
          find?_eq_none_of_lt fun entry member => by
            rcases List.mem_cons.1 member with rfl | later
            · exact lt
            · exact String.lt_trans lt (above entry later)
        simpa [missing] using same k'
      obtain rfl : k = k' := String.le_antisymm (String.not_lt.1 order') (String.not_lt.1 order)
      obtain rfl : v = v' := by simpa using same k
      have rests (key : String) : (rest.find? (·.1 == key)).map (·.2) =
          (rest'.find? (·.1 == key)).map (·.2) := by
        by_cases h : k = key
        · subst h
          rw [find?_eq_none_of_lt above, find?_eq_none_of_lt above']
        · simpa [h] using same key
      rw [ih sorted sorted' rests]

/-- Maps in which the same is found under each key are equal. -/
theorem ext_find? {first second : KeyMap α} (same : ∀ key, first.find? key = second.find? key) :
    first = second := by
  obtain ⟨entries, sorted⟩ := first
  obtain ⟨entries', sorted'⟩ := second
  congr 1
  exact entries_eq_of_find?_eq sorted sorted' same

end KeyMap

end Requirements
