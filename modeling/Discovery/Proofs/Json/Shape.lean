import Discovery.Json.Basic
import Discovery.Proofs.Dictionary

namespace Discovery.Json

/-- A document whose numbers are all integers that 64 bits hold, with a sign or without. -/
inductive Integral : Json → Prop where
  | null : Integral .null
  | bool (value : Bool) : Integral (.bool value)
  | string (value : String) : Integral (.string value)
  | integer {i : Int} : -9223372036854775808 ≤ i → i ≤ 18446744073709551615 →
    Integral (.number (.integer i))
  | array {items : List Json} : (∀ item ∈ items, Integral item) → Integral (.array items)
  | object {members : List (String × Json)} : (∀ member ∈ members, Integral member.2) →
    Integral (.object members)

/-- A document whose objects all have their members in strictly increasing order of the keys. -/
inductive Ordered : Json → Prop where
  | null : Ordered .null
  | bool (value : Bool) : Ordered (.bool value)
  | number (value : Number) : Ordered (.number value)
  | string (value : String) : Ordered (.string value)
  | array {items : List Json} : (∀ item ∈ items, Ordered item) → Ordered (.array items)
  | object {members : List (String × Json)} : SortedEntries members →
    (∀ member ∈ members, Ordered member.2) → Ordered (.object members)

/-- The value of the first member with a given key. -/
def member? (key : String) : Json → Option Json
  | .object members => findEntry? key members
  | _ => none

mutual

/-- The number of arrays and objects around the innermost part of a document. -/
def depth : Json → Nat
  | .array items => depthOfItems items + 1
  | .object members => depthOfMembers members + 1
  | _ => 0

/-- The depth of the deepest item. -/
def depthOfItems : List Json → Nat
  | [] => 0
  | item :: items => max (depth item) (depthOfItems items)

/-- The depth of the deepest value of a member. -/
def depthOfMembers : List (String × Json) → Nat
  | [] => 0
  | (_, value) :: members => max (depth value) (depthOfMembers members)

end

theorem depthOfItems_le_iff {items : List Json} {n : Nat} :
    depthOfItems items ≤ n ↔ ∀ item ∈ items, item.depth ≤ n := by
  induction items with
  | nil => simp [depthOfItems]
  | cons item items ih => rw [depthOfItems, Nat.max_le, ih, List.forall_mem_cons]

theorem depthOfMembers_le_iff {members : List (String × Json)} {n : Nat} :
    depthOfMembers members ≤ n ↔ ∀ member ∈ members, member.2.depth ≤ n := by
  induction members with
  | nil => simp [depthOfMembers]
  | cons member members ih =>
    obtain ⟨key, value⟩ := member
    rw [depthOfMembers, Nat.max_le, ih, List.forall_mem_cons]

theorem depth_array_le_iff {items : List Json} {n : Nat} :
    (array items).depth ≤ n + 1 ↔ ∀ item ∈ items, item.depth ≤ n := by
  rw [depth, Nat.add_le_add_iff_right, depthOfItems_le_iff]

theorem depth_object_le_iff {members : List (String × Json)} {n : Nat} :
    (object members).depth ≤ n + 1 ↔ ∀ member ∈ members, member.2.depth ≤ n := by
  rw [depth, Nat.add_le_add_iff_right, depthOfMembers_le_iff]

mutual

/-- The document that a reader makes of a printed one: members are sorted, and of two members with
    one key the later stays. -/
def canonical : Json → Json
  | .array items => .array (canonicalItems items)
  | .object members => .object (Dictionary.ofPairs (canonicalMembers members)).entries
  | .null => .null
  | .bool value => .bool value
  | .number value => .number value
  | .string value => .string value

/-- The canonical items of an array. -/
def canonicalItems : List Json → List Json
  | [] => []
  | item :: items => canonical item :: canonicalItems items

/-- The members of an object with canonical values, not yet sorted. -/
def canonicalMembers : List (String × Json) → List (String × Json)
  | [] => []
  | (key, value) :: members => (key, canonical value) :: canonicalMembers members

end

theorem canonicalItems_eq_map (items : List Json) : canonicalItems items = items.map canonical := by
  induction items with
  | nil => rfl
  | cons item items ih => rw [canonicalItems, ih, List.map_cons]

theorem canonicalMembers_eq_map (members : List (String × Json)) :
    canonicalMembers members = members.map fun (key, value) => (key, canonical value) := by
  induction members with
  | nil => rfl
  | cons member members ih => rw [canonicalMembers, ih, List.map_cons]

/-- Sorting brings no other numbers in. -/
theorem Integral.canonical {d : Json} (h : d.Integral) : d.canonical.Integral := by
  induction h with
  | null => exact .null
  | bool value => exact .bool value
  | string value => exact .string value
  | integer hlow hhigh => exact .integer hlow hhigh
  | array _ ih =>
    rw [Json.canonical, canonicalItems_eq_map]
    exact .array (List.forall_mem_map.mpr ih)
  | @object members _ ih =>
    rw [Json.canonical, canonicalMembers_eq_map]
    refine .object fun member hmem => ?_
    obtain ⟨written, hwritten, rfl⟩ := List.mem_map.mp (Dictionary.mem_of_mem_ofPairs hmem)
    exact ih written hwritten

/-- What is in order already stays as it is. -/
theorem Ordered.canonical_eq {d : Json} (h : d.Ordered) : d.canonical = d := by
  induction h with
  | null => rfl
  | bool value => rfl
  | number value => rfl
  | string value => rfl
  | array _ ih =>
    rw [canonical, canonicalItems_eq_map, List.map_congr_left ih, List.map_id']
  | @object members hsorted _ ih =>
    have hmembers : canonicalMembers members = members := by
      rw [canonicalMembers_eq_map]
      calc members.map (fun (key, value) => (key, canonical value))
          = members.map id :=
            List.map_congr_left fun member hmem => Prod.ext rfl (ih member hmem)
        _ = members := List.map_id members
    have hentries : Dictionary.ofPairs members = ⟨members, hsorted⟩ :=
      Dictionary.ofPairs_of_perm (List.Perm.refl _)
    rw [canonical, hmembers, hentries]

theorem integral_ofString? (text? : Option String) : (ofString? text?).Integral := by
  cases text? with
  | none => exact .null
  | some text => exact .string text

theorem canonical_ofString? (text? : Option String) : (ofString? text?).canonical = ofString? text? := by
  cases text? <;> rfl

theorem depth_ofString? (text? : Option String) : (ofString? text?).depth = 0 := by
  cases text? <;> rfl

theorem integral_ofStrings (texts : List String) : (ofStrings texts).Integral := by
  refine .array fun item hmem => ?_
  obtain ⟨text, _, rfl⟩ := List.mem_map.mp hmem
  exact .string text

theorem canonical_ofStrings (texts : List String) : (ofStrings texts).canonical = ofStrings texts := by
  refine Ordered.canonical_eq (.array fun item hmem => ?_)
  obtain ⟨text, _, rfl⟩ := List.mem_map.mp hmem
  exact .string text

theorem depth_ofStrings_le (texts : List String) : (ofStrings texts).depth ≤ 1 := by
  refine depth_array_le_iff.mpr fun item hmem => ?_
  obtain ⟨text, _, rfl⟩ := List.mem_map.mp hmem
  exact Nat.le_refl 0

end Discovery.Json
