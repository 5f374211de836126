import Mathlib
import Discovery.Proofs.Json.Unambiguous

namespace Discovery

/-- The value of the last entry with a given key. -/
def lastValue? {α : Type} (key : String) (entries : List (String × α)) : Option α :=
  findEntry? key entries.reverse

section

variable {α β : Type} {key : String} {entries : List (String × α)}

theorem lastValue?_cons (key k : String) (v : α) (entries : List (String × α)) :
    lastValue? key ((k, v) :: entries) =
      (lastValue? key entries).or (if key = k then some v else none) := by
  simp only [lastValue?, findEntry?_eq_lookup, List.reverse_cons, List.lookup_append]
  rw [← findEntry?_eq_lookup key [(k, v)]]
  rfl

theorem lastValue?_eq_none_iff : lastValue? key entries = none ↔ key ∉ entries.map Prod.fst := by
  rw [lastValue?, findEntry?_eq_none_iff, List.map_reverse, List.mem_reverse]

theorem lastValue?_map (f : α → β) (key : String) (entries : List (String × α)) :
    lastValue? key (entries.map fun (k, v) => (k, f v)) = (lastValue? key entries).map f := by
  induction entries with
  | nil => rfl
  | cons entry entries ih =>
    rw [List.map_cons, lastValue?_cons, lastValue?_cons, ih, Option.map_or]
    split <;> rfl

/-- Where no key is there twice, the last entry with a key is the first one. -/
theorem lastValue?_of_nodup (h : (entries.map Prod.fst).Nodup) (key : String) :
    lastValue? key entries = findEntry? key entries := by
  have hreverse : (entries.reverse.map Prod.fst).Nodup := by
    rwa [List.map_reverse, List.nodup_reverse]
  apply Option.ext
  intro value
  rw [lastValue?, findEntry?_eq_some_iff hreverse, findEntry?_eq_some_iff h, List.mem_reverse]

end

namespace Json

/-- One step into a document. -/
inductive Selector where
  /-- to an item of an array, the first one having the index 0 -/
  | index (i : Nat)
  /-- to the value of a member of an object -/
  | name (key : String)

namespace Draft

/-- What a draft has at a place. Of several members with one key only the last one counts. -/
def find? : List Selector → Draft → Option Draft
  | [], d => some d
  | .index i :: place, .array items => items[i]?.bind (find? place)
  | .name key :: place, .object members => (lastValue? key members).bind (find? place)
  | _, _ => none

theorem draftItems_eq_map (items : List Json) : draftItems items = items.map draft := by
  induction items with
  | nil => rfl
  | cons item items ih => rw [draftItems, ih, List.map_cons]

theorem draftMembers_eq_map (members : List (String × Json)) :
    draftMembers members = members.map fun (key, value) => (key, draft value) := by
  induction members with
  | nil => rfl
  | cons member members ih => rw [draftMembers, ih, List.map_cons]

theorem exists_reads_of_getElem? {items : List Draft} {values : List Json}
    (h : Reads (.items items) (.items values)) {i : Nat} {d : Draft} (hd : items[i]? = some d) :
    ∃ v, values[i]? = some v ∧ Reads (.value d) (.value v) := by
  induction items generalizing values i with
  | nil => cases hd
  | cons item items ih =>
    cases h with
    | @items _ _ value values hitem hitems =>
      cases i with
      | zero =>
        obtain rfl := Option.some.inj hd
        exact ⟨value, rfl, hitem⟩
      | succ i => exact ih hitems hd

theorem keys_of_reads {members : List (String × Draft)} {values : List (String × Json)}
    (h : Reads (.members members) (.members values)) :
    members.map Prod.fst = values.map Prod.fst := by
  induction members generalizing values with
  | nil =>
    cases h
    rfl
  | cons member members ih =>
    cases h with
    | members _ hmembers => rw [List.map_cons, List.map_cons, ih hmembers]

theorem exists_reads_of_lastValue? {members : List (String × Draft)} {values : List (String × Json)}
    (h : Reads (.members members) (.members values)) {key : String} {d : Draft}
    (hd : lastValue? key members = some d) :
    ∃ v, lastValue? key values = some v ∧ Reads (.value d) (.value v) := by
  induction members generalizing values with
  | nil => cases hd
  | cons member members ih =>
    cases h with
    | @members k item value _ values hmember hmembers =>
      cases hmember with
      | member _ hitem =>
        rw [lastValue?_cons] at hd ⊢
        cases hlater : lastValue? key members with
        | some later =>
          rw [hlater, Option.some_or] at hd
          obtain rfl := Option.some.inj hd
          obtain ⟨v, hv, hread⟩ := ih hmembers hlater
          exact ⟨v, by rw [hv, Option.some_or], hread⟩
        | none =>
          have hnone : lastValue? key values = none := by
            rw [lastValue?_eq_none_iff, ← keys_of_reads hmembers, ← lastValue?_eq_none_iff, hlater]
          rw [hlater, Option.none_or] at hd
          rw [hnone, Option.none_or]
          split at hd
          next hkey =>
            obtain rfl := Option.some.inj hd
            exact ⟨value, if_pos hkey, hitem⟩
          next => cases hd

/-- Sorting keeps for each key the value of its last member. -/
theorem lastValue?_canonicalMembers (members : List (String × Json)) (key : String) :
    lastValue? key (Dictionary.ofPairs (canonicalMembers members)).entries =
      (lastValue? key members).map canonical := by
  have hsorted := (Dictionary.ofPairs (canonicalMembers members)).sorted.keys_nodup
  rw [lastValue?_of_nodup hsorted, ← Dictionary.find?, Dictionary.find?_ofPairs, ← lastValue?,
    canonicalMembers_eq_map, lastValue?_map]

/-- A literal is printed as the number that it was read as, at the place where it was. -/
theorem find?_draft_canonical {place : List Selector} {d : Draft} {v : Json} {literal : List Char}
    (hread : Reads (.value d) (.value v)) (h : d.find? place = some (.number literal)) :
    ∃ x : Number, x.IsWritten literal ∧
      v.canonical.draft.find? place = some (.number x.digits) := by
  induction place generalizing d v with
  | nil =>
    obtain rfl := Option.some.inj h
    cases hread with
    | @number _ x hwritten => exact ⟨x, hwritten, rfl⟩
  | cons selector place ih =>
    cases hread with
    | @array items values hitems =>
      cases selector with
      | name => cases h
      | index i =>
        obtain ⟨item, hitem, hrest⟩ := Option.bind_eq_some_iff.mp h
        obtain ⟨value, hvalue, hread⟩ := exists_reads_of_getElem? hitems hitem
        obtain ⟨x, hwritten, hfind⟩ := ih hread hrest
        refine ⟨x, hwritten, ?_⟩
        rw [canonical, draft, find?, canonicalItems_eq_map, draftItems_eq_map, List.getElem?_map,
          List.getElem?_map, hvalue]
        exact hfind
    | @object members values hmembers =>
      cases selector with
      | index => cases h
      | name key =>
        obtain ⟨item, hitem, hrest⟩ := Option.bind_eq_some_iff.mp h
        obtain ⟨value, hvalue, hread⟩ := exists_reads_of_lastValue? hmembers hitem
        obtain ⟨x, hwritten, hfind⟩ := ih hread hrest
        refine ⟨x, hwritten, ?_⟩
        rw [canonical, draft, find?, draftMembers_eq_map, lastValue?_map,
          lastValue?_canonicalMembers, hvalue]
        exact hfind
    | _ => cases selector <;> cases h

end Draft

/-- Whether what a document is printed as has a literal at a place, in either layout. -/
def PrintsAt (d : Json) (place : List Selector) (literal : List Char) : Prop :=
  ∀ layout : Layout, (∃ printed : Draft, printed.WrittenIn (d.print layout).toList) ∧
    ∀ printed : Draft, printed.WrittenIn (d.print layout).toList →
      printed.find? place = some (.number literal)

theorem printsAt_iff {d : Json} {place : List Selector} {literal : List Char} :
    d.PrintsAt place literal ↔ d.draft.find? place = some (.number literal) := by
  constructor
  · exact fun h => (h .compact).2 d.draft (Draft.writtenIn_print d .compact)
  · intro h layout
    have hprinted := Draft.writtenIn_print d layout
    exact ⟨⟨d.draft, hprinted⟩, fun printed hother => hother.unique hprinted ▸ h⟩

/-- Integers that 64 bits hold are printed where they were read, as literals that denote them. What
    is printed for any other integer is its double. -/
theorem printsAt_of_isInteger {text : List Char} {document : Json}
    (hread : read text = .ok document) {d : Draft} (hd : d.WrittenIn text)
    {place : List Selector} {literal : List Char} {i : Int}
    (h : d.find? place = some (.number literal)) (hi : IsInteger literal i) :
    ∃ printed, document.draft.find? place = some (.number printed) ∧
      (-9223372036854775808 ≤ i → i ≤ 18446744073709551615 → Denotes printed i) ∧
      (i < -9223372036854775808 ∨ 18446744073709551615 < i →
        ∃ x, IsRead i x ∧ printed = x.digits ∧
          (Denotes printed i ↔ (Decimal.shortest x).value = |i|) ∧
          (Denotes printed i → ∃ m k : Nat, m < 10 ^ 17 ∧ i.natAbs = m * 10 ^ k)) := by
  obtain ⟨other, v, hother, hv, rfl⟩ := Draft.exists_reads_of_read hread
  obtain rfl := hd.unique hother
  obtain ⟨x, hwritten, hfind⟩ := Draft.find?_draft_canonical hv h
  obtain ⟨n, hafter, hvalue⟩ := Number.isWritten_iff.mp hwritten
  refine ⟨x.digits, hfind, Numeral.denotes_of_isInteger hi hafter hvalue, fun hout => ?_⟩
  obtain ⟨y, rfl, hy⟩ := Numeral.isRead_of_isInteger hi hafter hvalue hout
  exact ⟨y, hy, rfl, hy.denotes_digits_iff, hy.exists_natAbs_eq⟩

end Json

end Discovery
