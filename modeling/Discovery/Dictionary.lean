namespace Discovery

/-- Entries in strictly increasing order of their keys. Texts compare by code point, which is also the
    order of their UTF-8 bytes. -/
def SortedEntries {α : Type} (entries : List (String × α)) : Prop :=
  entries.Pairwise fun a b => a.1 < b.1

/-- Puts an entry in its place, instead of an entry with the same key if there is one. -/
def insertEntry {α : Type} (key : String) (value : α) : List (String × α) → List (String × α)
  | [] => [(key, value)]
  | (k, v) :: rest =>
    if key < k then (key, value) :: (k, v) :: rest
    else if key = k then (key, value) :: rest
    else (k, v) :: insertEntry key value rest

/-- The value of the first entry with the given key. -/
def findEntry? {α : Type} (key : String) : List (String × α) → Option α
  | [] => none
  | (k, v) :: rest => if key = k then some v else findEntry? key rest

/-- Every entry after an insertion is the new one or was there before. -/
theorem mem_of_mem_insertEntry {α : Type} {key : String} {value : α} {e : String × α}
    {entries : List (String × α)} (h : e ∈ insertEntry key value entries) :
    e = (key, value) ∨ e ∈ entries := by
  induction entries with
  | nil => simpa [insertEntry] using h
  | cons head rest ih =>
    obtain ⟨k, v⟩ := head
    simp only [insertEntry] at h
    split at h
    · simpa using h
    · split at h
      · simp only [List.mem_cons] at h ⊢
        exact h.imp id Or.inr
      · simp only [List.mem_cons] at h ⊢
        obtain h | h := h
        · exact Or.inr (Or.inl h)
        · exact (ih h).imp id Or.inr

/-- Insertion keeps the order of the keys. -/
theorem SortedEntries.insertEntry {α : Type} {entries : List (String × α)}
    (h : SortedEntries entries) (key : String) (value : α) :
    SortedEntries (insertEntry key value entries) := by
  induction entries with
  | nil => simp [Discovery.insertEntry, SortedEntries]
  | cons head rest ih =>
    obtain ⟨k, v⟩ := head
    obtain ⟨hhead, hrest⟩ := List.pairwise_cons.mp h
    simp only [Discovery.insertEntry]
    split
    · rename_i hlt
      refine List.pairwise_cons.mpr ⟨fun e he => ?_, h⟩
      obtain rfl | he := List.mem_cons.mp he
      · exact hlt
      · exact String.lt_trans hlt (hhead e he)
    · split
      · rename_i heq
        subst heq
        exact List.pairwise_cons.mpr ⟨hhead, hrest⟩
      · rename_i hnlt hne
        refine List.pairwise_cons.mpr ⟨fun e he => ?_, ih hrest⟩
        obtain rfl | he := mem_of_mem_insertEntry he
        · have hle := String.not_lt.mp hnlt
          exact String.not_le.mp fun hge => hne (String.le_antisymm hle hge).symm
        · exact hhead e he

/-- A finite map from texts. Two of them are the same exactly when they hold the same entries, whatever
    the order in which these were put in. -/
structure Dictionary (α : Type) where
  entries : List (String × α)
  sorted : SortedEntries entries

namespace Dictionary

variable {α : Type}

/-- The dictionary without entries. -/
def empty : Dictionary α :=
  ⟨[], List.Pairwise.nil⟩

/-- The dictionary with one more entry; an earlier value of the same key is lost. -/
def insert (d : Dictionary α) (key : String) (value : α) : Dictionary α :=
  ⟨insertEntry key value d.entries, d.sorted.insertEntry key value⟩

/-- The value of a key. -/
def find? (d : Dictionary α) (key : String) : Option α :=
  findEntry? key d.entries

/-- The number of keys. -/
def size (d : Dictionary α) : Nat :=
  d.entries.length

/-- Whether there is no key at all. -/
def isEmpty (d : Dictionary α) : Bool :=
  d.entries.isEmpty

/-- The dictionary of a list of pairs, of which later ones win. -/
def ofPairs (pairs : List (String × α)) : Dictionary α :=
  pairs.foldl (fun d p => d.insert p.1 p.2) empty

/-- Dictionaries are equal when their entries are. -/
@[ext] theorem ext {a b : Dictionary α} (h : a.entries = b.entries) : a = b := by
  cases a
  cases b
  simp_all

instance [DecidableEq α] : DecidableEq (Dictionary α) := fun a b =>
  decidable_of_iff (a.entries = b.entries) ⟨ext, fun h => h ▸ rfl⟩

end Dictionary

end Discovery
