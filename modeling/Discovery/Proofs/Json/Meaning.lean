import Discovery.Proofs.Json.Shape
import Discovery.Proofs.Text.Utf8

namespace Discovery.Json

/-- What a document as it is written stands for. -/
inductive StandsFor : Json → Json → Prop where
  | null : StandsFor .null .null
  | bool (value : Bool) : StandsFor (.bool value) (.bool value)
  | number (value : Number) : StandsFor (.number value) (.number value)
  | string (value : String) : StandsFor (.string value) (.string value)
  | array {items values : List Json} : items.length = values.length →
    (∀ (i : Nat) (hitem : i < items.length) (hvalue : i < values.length),
      StandsFor items[i] values[i]) →
    StandsFor (.array items) (.array values)
  /-- every key once, with the value of its last occurrence -/
  | object {members values : List (String × Json)} : (values.map Prod.fst).Nodup →
    (∀ key, key ∈ values.map Prod.fst ↔ key ∈ members.map Prod.fst) →
    (∀ key value before written after, (key, value) ∈ values →
      members = before ++ (key, written) :: after → key ∉ after.map Prod.fst →
      StandsFor written value) →
    StandsFor (.object members) (.object values)

/-- A document whose objects all have their members in strictly increasing order of the UTF-8 bytes
    of the keys. -/
inductive KeysIncrease : Json → Prop where
  | null : KeysIncrease .null
  | bool (value : Bool) : KeysIncrease (.bool value)
  | number (value : Number) : KeysIncrease (.number value)
  | string (value : String) : KeysIncrease (.string value)
  | array {items : List Json} : (∀ item ∈ items, KeysIncrease item) → KeysIncrease (.array items)
  | object {members : List (String × Json)} :
    (members.Pairwise fun a b => Text.utf8 a.1 < Text.utf8 b.1) →
    (∀ member ∈ members, KeysIncrease member.2) → KeysIncrease (.object members)

theorem Ordered.keysIncrease {d : Json} (h : d.Ordered) : d.KeysIncrease := by
  induction h with
  | null => exact .null
  | bool value => exact .bool value
  | number value => exact .number value
  | string value => exact .string value
  | array _ ih => exact .array ih
  | object hsorted _ ih => exact .object (hsorted.imp Text.utf8_lt_utf8_iff.mpr) ih

/-- What holds of a document when it holds of its items and of the values of its members holds of
    every document. -/
theorem induct {ν : Type} {P : Json ν → Prop} (null : P .null) (bool : ∀ value, P (.bool value))
    (number : ∀ value, P (.number value)) (string : ∀ value, P (.string value))
    (array : ∀ items, (∀ item ∈ items, P item) → P (.array items))
    (object : ∀ members, (∀ member ∈ members, P member.2) → P (.object members))
    (d : Json ν) : P d :=
  @Json.rec ν P (fun items => ∀ item ∈ items, P item) (fun members => ∀ member ∈ members, P member.2)
    (fun member => P member.2) null bool number string array object
    (fun _ hmem => absurd hmem List.not_mem_nil)
    (fun _ _ hitem hitems => List.forall_mem_cons.mpr ⟨hitem, hitems⟩)
    (fun _ hmem => absurd hmem List.not_mem_nil)
    (fun _ _ hmember hmembers => List.forall_mem_cons.mpr ⟨hmember, hmembers⟩)
    (fun _ _ hvalue => hvalue) d

theorem keys_canonicalMembers (members : List (String × Json)) :
    (canonicalMembers members).map Prod.fst = members.map Prod.fst := by
  rw [canonicalMembers_eq_map, List.map_map]
  rfl

theorem canonicalMembers_append (before : List (String × Json)) (key : String) (written : Json)
    (after : List (String × Json)) :
    canonicalMembers (before ++ (key, written) :: after) =
      canonicalMembers before ++ (key, written.canonical) :: canonicalMembers after := by
  simp only [canonicalMembers_eq_map, List.map_append, List.map_cons]

theorem standsFor_object {members : List (String × Json)}
    (h : ∀ member ∈ members, StandsFor member.2 member.2.canonical) :
    StandsFor (.object members) (canonical (.object members)) := by
  refine .object (Dictionary.sorted _).keys_nodup (fun key => ?_) ?_
  · rw [Dictionary.mem_keys_ofPairs_iff, keys_canonicalMembers]
  · rintro key value before written after hvalue rfl hlast
    have hkey : key ∉ (canonicalMembers after).map Prod.fst := by
      rwa [keys_canonicalMembers]
    have hfind :=
      Dictionary.find?_ofPairs_of_last (canonicalMembers before) written.canonical hkey
    rw [canonicalMembers_append, ← Dictionary.find?_eq_some_iff, hfind] at hvalue
    obtain rfl := Option.some.inj hvalue
    exact h (key, written) (List.mem_append_right _ List.mem_cons_self)

/-- A document as it is written stands for its canonical form. -/
theorem standsFor_canonical (d : Json) : StandsFor d d.canonical := by
  induction d using induct with
  | null => exact .null
  | bool value => exact .bool value
  | number value => exact .number value
  | string value => exact .string value
  | array items ih =>
    rw [canonical, canonicalItems_eq_map]
    refine .array (List.length_map _).symm fun i hitem _ => ?_
    rw [List.getElem_map]
    exact ih _ (List.getElem_mem hitem)
  | object members ih => exact standsFor_object ih

end Discovery.Json
