import Discovery.Proofs.Except
import Discovery.Proofs.Json.Shape
import Discovery.Service.Announcement

namespace Discovery.Announcement

open Json

/-- The properties of an announcement as a document, null when there are none. -/
def propertiesValue (a : Announcement) : Json :=
  match a.properties? with
  | none => .null
  | some properties => propertiesJson properties

/-- The members of an announcement in the order of their keys. -/
def sortedMembers (a : Announcement) : List (String × Json) :=
  [("environment", .string a.environment),
    ("location", .ofString? a.location?),
    ("pool", .string a.pool),
    ("properties", a.propertiesValue),
    ("type", .string a.serviceType)]

theorem members_eq (a : Announcement) :
    a.members = [("environment", .string a.environment), ("type", .string a.serviceType),
      ("pool", .string a.pool), ("location", .ofString? a.location?),
      ("properties", a.propertiesValue)] :=
  rfl

theorem integral_propertiesJson (properties : Properties) :
    (propertiesJson properties).Integral := by
  refine .object fun member hmem => ?_
  obtain ⟨entry, _, rfl⟩ := List.mem_map.mp hmem
  exact .string entry.2

theorem canonical_propertiesJson (properties : Properties) :
    (propertiesJson properties).canonical = propertiesJson properties := by
  refine Ordered.canonical_eq (.object ?_ fun member hmem => ?_)
  · exact List.pairwise_map.mpr properties.sorted
  · obtain ⟨entry, _, rfl⟩ := List.mem_map.mp hmem
    exact .string entry.2

theorem depth_propertiesJson_le (properties : Properties) :
    (propertiesJson properties).depth ≤ 1 := by
  refine depth_object_le_iff.mpr fun member hmem => ?_
  obtain ⟨entry, _, rfl⟩ := List.mem_map.mp hmem
  exact Nat.le_refl 0

/-- Only an option that is missing keeps fields from making an announcement. -/
theorem exists_missing_of_ofFields {fields : Fields} {usage : String} {failure : Failure}
    (h : ofFields fields usage = .error failure) :
    ∃ option, failure = .missingOption option usage := by
  have hrequire {option : String} {value? : Option String}
      (h : require usage option value? = .error failure) :
      ∃ option, failure = .missingOption option usage := by
    cases value? with
    | none => exact ⟨option, (Except.error.inj h).symm⟩
    | some value => cases h
  obtain h | ⟨environment, _, h⟩ := bind_eq_error_iff.mp h
  · exact hrequire h
  obtain h | ⟨serviceType, _, h⟩ := bind_eq_error_iff.mp h
  · exact hrequire h
  obtain h | ⟨pool, _, h⟩ := bind_eq_error_iff.mp h
  · exact hrequire h
  · cases h

/-- The properties of an announcement made of fields, which are never an empty dictionary. -/
theorem properties?_of_ofFields {fields : Fields} {usage : String} {a : Announcement}
    (h : ofFields fields usage = .ok a) :
    a.properties? = if fields.properties.isEmpty then none else some fields.properties := by
  unfold ofFields at h
  obtain ⟨environment, _, h⟩ := bind_eq_ok_iff.mp h
  obtain ⟨serviceType, _, h⟩ := bind_eq_ok_iff.mp h
  obtain ⟨pool, _, h⟩ := bind_eq_ok_iff.mp h
  cases h
  rfl

variable (a : Announcement)

/-- The properties stand under the same name in a plan and in what a server receives. -/
theorem member?_properties :
    a.toJson.member? "properties" = some a.propertiesValue ∧
      a.document.member? "properties" = some a.propertiesValue := by
  constructor
  · rw [toJson, members_eq, member?]
    simp
  · have hfind : (Dictionary.ofPairs a.members).find? "properties" = some a.propertiesValue := by
      rw [Dictionary.find?_ofPairs, members_eq]
      simp
    exact hfind

theorem propertiesValue_eq_null_iff : a.propertiesValue = .null ↔ a.properties? = none := by
  unfold propertiesValue
  cases a.properties? with
  | none => simp
  | some properties => simp [propertiesJson]

theorem propertiesValue_ne_empty {fields : Fields} {usage : String}
    (h : ofFields fields usage = .ok a) : a.propertiesValue ≠ .object [] := by
  have hproperties := properties?_of_ofFields h
  unfold propertiesValue
  cases hempty : fields.properties.isEmpty with
  | true => simp [hproperties, hempty]
  | false =>
    have hentries : fields.properties.entries ≠ [] := by
      simpa [Dictionary.isEmpty] using hempty
    simp [hproperties, hempty, propertiesJson, hentries]

theorem integral_propertiesValue : a.propertiesValue.Integral := by
  unfold propertiesValue
  split
  next => exact .null
  next properties _ => exact integral_propertiesJson properties

theorem canonical_propertiesValue : a.propertiesValue.canonical = a.propertiesValue := by
  unfold propertiesValue
  split
  next => rfl
  next properties _ => exact canonical_propertiesJson properties

theorem depth_propertiesValue_le : a.propertiesValue.depth ≤ 1 := by
  unfold propertiesValue
  split
  next => exact Nat.zero_le 1
  next properties _ => exact depth_propertiesJson_le properties

theorem integral_toJson : a.toJson.Integral := by
  apply Integral.object
  rw [members_eq]
  simp only [List.forall_mem_cons]
  exact ⟨.string _, .string _, .string _, integral_ofString? _, a.integral_propertiesValue,
    fun _ hmem => absurd hmem List.not_mem_nil⟩

theorem depth_toJson_le : a.toJson.depth ≤ 2 := by
  apply depth_object_le_iff.mpr
  rw [members_eq]
  simp only [List.forall_mem_cons]
  refine ⟨?_, ?_, ?_, ?_, a.depth_propertiesValue_le, fun _ hmem => absurd hmem List.not_mem_nil⟩
  all_goals simp [Json.depth, depth_ofString?]

theorem canonical_toJson : a.toJson.canonical = .object a.sortedMembers := by
  rw [toJson, members_eq]
  simp only [canonical, canonicalMembers, canonical_ofString?, canonical_propertiesValue,
    Dictionary.entries_ofPairs, List.foldl]
  simp (disch := decide) only [insertEntry_nil, insertEntry_of_lt, insertEntry_of_gt, sortedMembers]

end Discovery.Announcement
