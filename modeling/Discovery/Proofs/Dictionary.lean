import Mathlib.Data.List.Induction
import Mathlib.Data.List.Dedup
import Mathlib.Data.List.Nodup
import Discovery.Dictionary

namespace Discovery

variable {α : Type}

theorem insertEntry_nil (key : String) (value : α) : insertEntry key value [] = [(key, value)] :=
  rfl

theorem insertEntry_of_lt {key k : String} (h : key < k) (value v : α)
    (rest : List (String × α)) :
    insertEntry key value ((k, v) :: rest) = (key, value) :: (k, v) :: rest :=
  if_pos h

theorem insertEntry_of_gt {key k : String} (h : k < key) (value v : α)
    (rest : List (String × α)) :
    insertEntry key value ((k, v) :: rest) = (k, v) :: insertEntry key value rest := by
  have hne : key ≠ k := by
    rintro rfl
    exact String.lt_irrefl _ h
  rw [insertEntry, if_neg (String.lt_asymm h), if_neg hne]

@[simp] theorem findEntry?_nil (key : String) : findEntry? key ([] : List (String × α)) = none := rfl

@[simp] theorem findEntry?_cons (key k : String) (v : α) (rest : List (String × α)) :
    findEntry? key ((k, v) :: rest) = if key = k then some v else findEntry? key rest := rfl

theorem findEntry?_insertEntry (key other : String) (value : α) (entries : List (String × α)) :
    findEntry? other (insertEntry key value entries) =
      if other = key then some value else findEntry? other entries := by
  induction entries with
  | nil => rfl
  | cons head rest ih =>
    obtain ⟨k, v⟩ := head
    rw [insertEntry]
    by_cases hlt : key < k
    · rw [if_pos hlt]
      rfl
    · rw [if_neg hlt]
      by_cases hkey : key = k
      · subst hkey
        by_cases hother : other = key <;> simp [hother]
      · rw [if_neg hkey, findEntry?_cons, ih, findEntry?_cons]
        by_cases hother : other = k
        · subst hother
          simp [Ne.symm hkey]
        · simp [hother]

theorem findEntry?_eq_lookup (key : String) (entries : List (String × α)) :
    findEntry? key entries = entries.lookup key := by
  induction entries with
  | nil => rfl
  | cons head rest ih =>
    obtain ⟨k, v⟩ := head
    rw [findEntry?_cons, ih, List.lookup_cons]
    by_cases hkey : key = k
    · simp [hkey]
    · rw [if_neg hkey, beq_eq_false_iff_ne.mpr hkey]

theorem findEntry?_eq_none_iff {entries : List (String × α)} {key : String} :
    findEntry? key entries = none ↔ key ∉ entries.map Prod.fst := by
  induction entries with
  | nil => simp
  | cons head rest ih =>
    obtain ⟨k, v⟩ := head
    rw [findEntry?_cons, List.map_cons, List.mem_cons]
    by_cases hkey : key = k
    · simp [hkey]
    · simp [hkey, ih]

theorem findEntry?_append_of_notMem {front : List (String × α)} {key : String}
    (h : key ∉ front.map Prod.fst) (back : List (String × α)) :
    findEntry? key (front ++ back) = findEntry? key back := by
  have hnone := findEntry?_eq_none_iff.mpr h
  simp only [findEntry?_eq_lookup] at hnone ⊢
  rw [List.lookup_append, hnone, Option.none_or]

theorem findEntry?_eq_some_iff {entries : List (String × α)}
    (hkeys : (entries.map Prod.fst).Nodup) {key : String} {value : α} :
    findEntry? key entries = some value ↔ (key, value) ∈ entries := by
  induction entries with
  | nil => simp
  | cons head rest ih =>
    obtain ⟨k, v⟩ := head
    obtain ⟨hfresh, hrest⟩ := List.nodup_cons.mp hkeys
    rw [List.mem_cons, findEntry?_cons]
    by_cases hkey : key = k
    · subst hkey
      rw [if_pos rfl]
      constructor
      · rintro ⟨⟩
        exact Or.inl rfl
      · rintro (heq | hmem)
        · rw [(Prod.mk.inj heq).2]
        · exact absurd (List.mem_map_of_mem hmem) hfresh
    · rw [if_neg hkey, ih hrest]
      simp [hkey]

theorem SortedEntries.keys_nodup {entries : List (String × α)} (h : SortedEntries entries) :
    (entries.map Prod.fst).Nodup := by
  rw [List.Nodup, List.pairwise_map]
  exact h.imp fun hlt => by
    rintro heq
    exact String.lt_irrefl _ (heq ▸ hlt)

/-- Sorted lists of entries that give the same value for each key are the same list. -/
theorem SortedEntries.ext {a b : List (String × α)} (ha : SortedEntries a) (hb : SortedEntries b)
    (h : ∀ key, findEntry? key a = findEntry? key b) : a = b := by
  have hmem : ∀ entry, entry ∈ a ↔ entry ∈ b := by
    rintro ⟨key, value⟩
    rw [← findEntry?_eq_some_iff ha.keys_nodup, ← findEntry?_eq_some_iff hb.keys_nodup, h]
  have hperm : a.Perm b := (List.perm_ext_iff_of_nodup
    ha.keys_nodup.of_map hb.keys_nodup.of_map).mpr hmem
  refine hperm.eq_of_pairwise (fun x y _ _ hxy hyx => ?_) ha hb
  exact absurd (String.lt_trans hxy hyx) (String.lt_irrefl _)

namespace Dictionary

theorem find?_insert (d : Dictionary α) (key other : String) (value : α) :
    (d.insert key value).find? other = if other = key then some value else d.find? other :=
  findEntry?_insertEntry key other value d.entries

theorem find?_eq_some_iff {d : Dictionary α} {key : String} {value : α} :
    d.find? key = some value ↔ (key, value) ∈ d.entries :=
  findEntry?_eq_some_iff d.sorted.keys_nodup

/-- Dictionaries are equal when they give the same value for each key. -/
theorem ext_find? {a b : Dictionary α} (h : ∀ key, a.find? key = b.find? key) : a = b :=
  ext (a.sorted.ext b.sorted h)

theorem entries_ofPairs (pairs : List (String × α)) :
    (ofPairs pairs).entries = pairs.foldl (fun entries p => insertEntry p.1 p.2 entries) [] :=
  (List.foldl_hom entries fun _ _ => rfl).symm

theorem ofPairs_concat (pairs : List (String × α)) (key : String) (value : α) :
    ofPairs (pairs ++ [(key, value)]) = (ofPairs pairs).insert key value := by
  simp [ofPairs]

/-- A dictionary of pairs gives for each key the value of the last pair with that key. -/
theorem find?_ofPairs (pairs : List (String × α)) (key : String) :
    (ofPairs pairs).find? key = findEntry? key pairs.reverse := by
  induction pairs using List.reverseRecOn with
  | nil => rfl
  | append_singleton pairs pair ih =>
    obtain ⟨k, v⟩ := pair
    rw [ofPairs_concat, find?_insert, ih, List.reverse_concat, findEntry?_cons]

/-- A dictionary of pairs has the keys of the pairs. -/
theorem mem_keys_ofPairs_iff {pairs : List (String × α)} {key : String} :
    key ∈ (ofPairs pairs).entries.map Prod.fst ↔ key ∈ pairs.map Prod.fst := by
  have hnone : (ofPairs pairs).find? key = none ↔ findEntry? key pairs.reverse = none := by
    rw [find?_ofPairs]
  rw [find?, findEntry?_eq_none_iff, findEntry?_eq_none_iff, List.map_reverse,
    List.mem_reverse] at hnone
  exact not_iff_not.mp hnone

/-- Its value for a key is that of the last pair with the key. -/
theorem find?_ofPairs_of_last (front : List (String × α)) {back : List (String × α)} {key : String}
    (value : α) (h : key ∉ back.map Prod.fst) :
    (ofPairs (front ++ (key, value) :: back)).find? key = some value := by
  have hback : key ∉ back.reverse.map Prod.fst := by
    rwa [List.map_reverse, List.mem_reverse]
  rw [find?_ofPairs, List.reverse_append, List.reverse_cons, List.append_assoc,
    findEntry?_append_of_notMem hback, List.cons_append, List.nil_append, findEntry?_cons,
    if_pos rfl]

/-- The value for a key comes from the last pair with the key, and nowhere else. -/
theorem find?_ofPairs_eq_some_iff {pairs : List (String × α)} {key : String} {value : α} :
    (ofPairs pairs).find? key = some value ↔
      ∃ front back, pairs = front ++ (key, value) :: back ∧ key ∉ back.map Prod.fst := by
  constructor
  · intro h
    rw [find?_ofPairs, findEntry?_eq_lookup] at h
    obtain ⟨back, front, hpairs, hfresh⟩ := List.lookup_eq_some_iff.mp h
    refine ⟨front.reverse, back.reverse, ?_, ?_⟩
    · rw [← List.reverse_inj, hpairs]
      simp
    · rw [List.map_reverse, List.mem_reverse]
      rintro hkey
      obtain ⟨pair, hpair, rfl⟩ := List.mem_map.mp hkey
      simpa using hfresh pair hpair
  · rintro ⟨front, back, rfl, hback⟩
    exact find?_ofPairs_of_last front value hback

/-- Where the pairs are what some items stand for, the value comes from the last item that stands
    for a pair with the key. -/
theorem find?_ofPairs_filterMap_eq_some_iff {β : Type} {f : β → Option (String × α)}
    {items : List β} {key : String} {value : α} :
    (ofPairs (items.filterMap f)).find? key = some value ↔
      ∃ front item back, items = front ++ item :: back ∧ f item = some (key, value) ∧
        ∀ later ∈ back, ∀ other, f later ≠ some (key, other) := by
  have hlater {back : List β} : key ∉ (back.filterMap f).map Prod.fst ↔
      ∀ later ∈ back, ∀ other, f later ≠ some (key, other) := by
    constructor
    · intro h later hmem other heq
      exact h (List.mem_map_of_mem (List.mem_filterMap.mpr ⟨later, hmem, heq⟩))
    · intro h hkey
      obtain ⟨⟨_, other⟩, hpair, rfl⟩ := List.mem_map.mp hkey
      obtain ⟨later, hmem, heq⟩ := List.mem_filterMap.mp hpair
      exact h later hmem other heq
  rw [find?_ofPairs_eq_some_iff]
  constructor
  · rintro ⟨frontPairs, backPairs, hpairs, hfresh⟩
    obtain ⟨front, rest, rfl, rfl, hrest⟩ := List.filterMap_eq_append_iff.mp hpairs
    obtain ⟨between, item, back, rfl, hnone, hitem, rfl⟩ := List.filterMap_eq_cons_iff.mp hrest
    exact ⟨front ++ between, item, back, by simp, hitem, hlater.mp hfresh⟩
  · rintro ⟨front, item, back, rfl, hitem, hback⟩
    refine ⟨front.filterMap f, back.filterMap f, ?_, hlater.mpr hback⟩
    rw [List.filterMap_append, List.filterMap_cons_some hitem]

/-- Pairs behind others override them. -/
theorem find?_ofPairs_append (front back : List (String × α)) (key : String) :
    (ofPairs (front ++ back)).find? key =
      ((ofPairs back).find? key).or ((ofPairs front).find? key) := by
  simp only [find?_ofPairs, findEntry?_eq_lookup, List.reverse_append, List.lookup_append]

/-- Neighbours with different keys may change places. -/
theorem ofPairs_swap {p q : String × α} (h : p.1 ≠ q.1) (front back : List (String × α)) :
    ofPairs (front ++ p :: q :: back) = ofPairs (front ++ q :: p :: back) := by
  obtain ⟨k, v⟩ := p
  obtain ⟨l, w⟩ := q
  have hpair : ofPairs [(k, v), (l, w)] = ofPairs [(l, w), (k, v)] := by
    apply ext_find?
    intro key
    simp only [find?_ofPairs, List.reverse_cons, List.reverse_nil, List.nil_append,
      List.cons_append, findEntry?_cons, findEntry?_nil]
    by_cases hkey : key = k
    · subst hkey
      simp [h]
    · simp [hkey]
  have hsplit (x y : String × α) : front ++ x :: y :: back = front ++ ([x, y] ++ back) := rfl
  apply ext_find?
  intro key
  rw [hsplit, hsplit, find?_ofPairs_append, find?_ofPairs_append front,
    find?_ofPairs_append [(k, v), (l, w)], find?_ofPairs_append [(l, w), (k, v)], hpair]

theorem isEmpty_ofPairs_iff {pairs : List (String × α)} :
    (ofPairs pairs).isEmpty = true ↔ pairs = [] := by
  rw [isEmpty, List.isEmpty_iff, ← List.map_eq_nil_iff (f := Prod.fst),
    ← List.map_eq_nil_iff (f := Prod.fst) (l := pairs)]
  simp only [List.eq_nil_iff_forall_not_mem, mem_keys_ofPairs_iff]

/-- There is one entry for each key of the pairs. -/
theorem size_ofPairs (pairs : List (String × α)) :
    (ofPairs pairs).size = (pairs.map Prod.fst).dedup.length := by
  have hperm : ((ofPairs pairs).entries.map Prod.fst).Perm (pairs.map Prod.fst).dedup := by
    refine (List.perm_ext_iff_of_nodup (ofPairs pairs).sorted.keys_nodup (List.nodup_dedup _)).mpr
      fun key => ?_
    rw [mem_keys_ofPairs_iff, List.mem_dedup]
  rw [size, ← hperm.length_eq, List.length_map]

theorem mem_of_mem_ofPairs {pairs : List (String × α)} {entry : String × α}
    (h : entry ∈ (ofPairs pairs).entries) : entry ∈ pairs := by
  induction pairs using List.reverseRecOn with
  | nil => exact h
  | append_singleton pairs pair ih =>
    rw [ofPairs_concat] at h
    obtain rfl | hmem := mem_of_mem_insertEntry h
    · simp
    · exact List.mem_append_left _ (ih hmem)

/-- The entries of a dictionary, put in any order, make the dictionary again. -/
theorem ofPairs_of_perm {d : Dictionary α} {pairs : List (String × α)}
    (h : pairs.Perm d.entries) : ofPairs pairs = d := by
  apply ext_find?
  intro key
  have hkeys : (pairs.reverse.map Prod.fst).Nodup :=
    (((pairs.reverse_perm.trans h).map Prod.fst).nodup_iff).mpr d.sorted.keys_nodup
  apply Option.ext
  intro value
  rw [find?_ofPairs, findEntry?_eq_some_iff hkeys, find?_eq_some_iff, List.mem_reverse, h.mem_iff]

end Dictionary

end Discovery
