import Discovery.Proofs.Dictionary
import Discovery.Proofs.Service.Announcement
import Discovery.Proofs.Text.Cut

namespace Discovery.Properties

/-- The text of a property. -/
def text (property : String × String) : String :=
  property.1 ++ "=" ++ property.2

/-- Whether a key can be written in front of an equals sign. -/
def IsKey (key : String) : Prop :=
  key ≠ "" ∧ '=' ∉ key.toList

instance (key : String) : Decidable (IsKey key) :=
  inferInstanceAs (Decidable (_ ∧ _))

/-- A text holds a property exactly when it is the text of one whose key can be written. -/
theorem ofText?_eq_some_iff {written : String} {property : String × String} :
    ofText? written = some property ↔ written = text property ∧ IsKey property.1 := by
  obtain ⟨key, value⟩ := property
  unfold ofText?
  constructor
  · intro h
    split at h
    next k v hcut =>
      obtain ⟨hchars, hfree⟩ := Text.cut_eq_some_iff.mp hcut
      split at h
      next => cases h
      next hempty =>
        cases h
        refine ⟨?_, ?_, ?_⟩
        · simp [text, ← String.toList_inj, hchars]
        · simpa using hempty
        · simpa using hfree
    next => cases h
  · rintro ⟨rfl, hne, hfree⟩
    have hchars : (text (key, value)).toList = key.toList ++ '=' :: value.toList := by simp [text]
    rw [hchars, Text.cut_append _ hfree]
    simp [hne]

/-- The texts of properties, in any order, give the properties back. -/
theorem ofTexts_of_perm {properties : Properties} {texts : List String}
    (hkeys : ∀ entry ∈ properties.entries, IsKey entry.1)
    (h : texts.Perm (properties.entries.map text)) : ofTexts texts = properties := by
  have hread : (properties.entries.map text).filterMap ofText? = properties.entries := by
    rw [List.filterMap_map]
    calc properties.entries.filterMap (ofText? ∘ text)
        = properties.entries.filterMap some :=
          List.filterMap_congr fun entry hmem => ofText?_eq_some_iff.mpr ⟨rfl, hkeys entry hmem⟩
      _ = properties.entries := List.filterMap_some
  exact Dictionary.ofPairs_of_perm (hread ▸ h.filterMap ofText?)

theorem isKey_of_mem_ofTexts {texts : List String} {entry : String × String}
    (h : entry ∈ (ofTexts texts).entries) : IsKey entry.1 := by
  obtain ⟨written, _, hread⟩ := List.mem_filterMap.mp (Dictionary.mem_of_mem_ofPairs h)
  exact (ofText?_eq_some_iff.mp hread).2

/-- The first equals sign of a text that holds a property is there, and not at its start. -/
theorem exists_ofText?_iff {written : String} :
    (∃ property, ofText? written = some property) ↔
      '=' ∈ written.toList ∧ written.toList.head? ≠ some '=' := by
  constructor
  · rintro ⟨⟨key, value⟩, h⟩
    obtain ⟨rfl, hne, hfree⟩ := ofText?_eq_some_iff.mp h
    refine ⟨by simp [text], fun hhead => ?_⟩
    cases hkey : key.toList with
    | nil => exact hne (by simpa using hkey)
    | cons c rest =>
      have hc : c = '=' := by simpa [text, hkey] using hhead
      exact hfree (by simp [hkey, hc])
  · rintro ⟨hsign, hhead⟩
    cases hcut : Text.cut '=' written.toList with
    | none => exact absurd hsign (Text.cut_eq_none_iff.mp hcut)
    | some parts =>
      obtain ⟨key, value⟩ := parts
      have hkey : key ≠ [] := by
        rintro rfl
        simp [(Text.cut_eq_some_iff.mp hcut).1] at hhead
      exact ⟨(String.ofList key, String.ofList value), by simp [ofText?, hcut, hkey]⟩

theorem ofTexts_append (texts more : List String) (key : String) :
    (ofTexts (texts ++ more)).find? key =
      ((ofTexts more).find? key).or ((ofTexts texts).find? key) := by
  rw [ofTexts, List.filterMap_append, Dictionary.find?_ofPairs_append]
  rfl

/-- Only the texts that hold a property make a difference. -/
theorem ofTexts_filter_isSome (texts : List String) :
    ofTexts (texts.filter fun written => (ofText? written).isSome) = ofTexts texts := by
  rw [ofTexts, List.filterMap_filter]
  refine congrArg Dictionary.ofPairs (List.filterMap_congr fun written _ => ?_)
  cases ofText? written <;> rfl

/-- Neighbouring texts may change places, unless they hold properties with the same key. -/
theorem ofTexts_swap {a b : String}
    (h : ∀ p q, ofText? a = some p → ofText? b = some q → p.1 ≠ q.1)
    (front back : List String) :
    ofTexts (front ++ a :: b :: back) = ofTexts (front ++ b :: a :: back) := by
  simp only [ofTexts, List.filterMap_append, List.filterMap_cons]
  cases ha : ofText? a with
  | none => rfl
  | some p =>
    cases hb : ofText? b with
    | none => rfl
    | some q => exact Dictionary.ofPairs_swap (h p q ha hb) _ _

theorem isEmpty_ofTexts_iff {texts : List String} :
    (ofTexts texts).isEmpty = true ↔ ∀ written ∈ texts, ofText? written = none := by
  rw [ofTexts, Dictionary.isEmpty_ofPairs_iff, List.filterMap_eq_nil_iff]

theorem exists_find?_ofTexts_iff {texts : List String} {key : String} :
    (∃ value, (ofTexts texts).find? key = some value) ↔
      ∃ written ∈ texts, ∃ value, ofText? written = some (key, value) := by
  have hkeys : (∃ value, (ofTexts texts).find? key = some value) ↔
      key ∈ (texts.filterMap ofText?).map Prod.fst := by
    rw [← Dictionary.mem_keys_ofPairs_iff]
    simp [Dictionary.find?_eq_some_iff, ofTexts]
  rw [hkeys]
  constructor
  · intro h
    obtain ⟨⟨_, value⟩, hpair, rfl⟩ := List.mem_map.mp h
    obtain ⟨written, hmem, hread⟩ := List.mem_filterMap.mp hpair
    exact ⟨written, hmem, value, hread⟩
  · rintro ⟨written, hmem, value, hread⟩
    exact List.mem_map_of_mem (List.mem_filterMap.mpr ⟨written, hmem, hread⟩)

/-- A text holds a property when its first equals sign is not at its start; key and value are what
    stands around that sign, so they make the text again. Of several texts a key has the value of
    the last one that holds it. Therefore texts that hold nothing make no difference, neighbours
    with different keys may change places, and texts behind others override them. An announcement
    without any property shows null, and none shows an empty object. -/
theorem properties_of_texts :
    (∀ written, (∃ property, ofText? written = some property) ↔
      '=' ∈ written.toList ∧ written.toList.head? ≠ some '=') ∧
    (∀ written key value, ofText? written = some (key, value) ↔
      written = key ++ "=" ++ value ∧ key ≠ "" ∧ '=' ∉ key.toList) ∧
    (∀ texts key, (∃ value, (ofTexts texts).find? key = some value) ↔
      ∃ written ∈ texts, ∃ value, ofText? written = some (key, value)) ∧
    (∀ texts key value, (ofTexts texts).find? key = some value ↔
      ∃ front written back, texts = front ++ written :: back ∧
        ofText? written = some (key, value) ∧
          ∀ later ∈ back, ∀ other, ofText? later ≠ some (key, other)) ∧
    (∀ texts others : List String,
      texts.filter (fun written => (ofText? written).isSome) =
        others.filter (fun written => (ofText? written).isSome) → ofTexts texts = ofTexts others) ∧
    (∀ front a b back, (∀ p q, ofText? a = some p → ofText? b = some q → p.1 ≠ q.1) →
      ofTexts (front ++ a :: b :: back) = ofTexts (front ++ b :: a :: back)) ∧
    (∀ texts more key, (ofTexts (texts ++ more)).find? key =
      ((ofTexts more).find? key).or ((ofTexts texts).find? key)) ∧
    ∀ (texts : List String) (fields : Announcement.Fields) (usage : String) (a : Announcement),
      fields.properties = ofTexts texts → Announcement.ofFields fields usage = .ok a →
        ∃ value, a.toJson.member? "properties" = some value ∧
          a.document.member? "properties" = some value ∧
          (value = .null ↔ ∀ written ∈ texts, ofText? written = none) ∧ value ≠ .object [] := by
  refine ⟨fun written => exists_ofText?_iff, fun written key value => ofText?_eq_some_iff,
    fun texts key => exists_find?_ofTexts_iff,
    fun texts key value => Dictionary.find?_ofPairs_filterMap_eq_some_iff,
    fun texts others h => ?_, fun front a b back h => ofTexts_swap h front back, ofTexts_append, ?_⟩
  · rw [← ofTexts_filter_isSome, h, ofTexts_filter_isSome]
  · intro texts fields usage a htexts hfields
    have hnull : a.properties? = none ↔ (ofTexts texts).isEmpty = true := by
      rw [Announcement.properties?_of_ofFields hfields, htexts]
      simp
    refine ⟨a.propertiesValue, a.member?_properties.1, a.member?_properties.2, ?_,
      a.propertiesValue_ne_empty hfields⟩
    rw [Announcement.propertiesValue_eq_null_iff, hnull, isEmpty_ofTexts_iff]

/-- Several texts for one key, with further equals signs and a line feed in a value, and texts that
    hold nothing between them. -/
theorem properties_of_mixed_texts :
    let texts := ["a=1", "=x=y", "b==\n", "junk", "a=2"]
    let fewer := ["a=1", "b==\n", "a=2"]
    let fields (texts : List String) : Announcement.Fields :=
      ⟨some "", some "t", some "p", none, ofTexts texts⟩
    (ofTexts texts).find? "a" = some "2" ∧ ofTexts texts = ofTexts fewer ∧
      ofTexts ["a=1", "b==\n"] = ofTexts ["b==\n", "a=1"] ∧
      (∃ a, Announcement.ofFields (fields texts) "" = .ok a ∧
        a.toJson.member? "properties" ≠ some .null) ∧
      ∃ a, Announcement.ofFields (fields ["=x=y"]) "" = .ok a ∧
        a.toJson.member? "properties" = some .null := by
  intro texts fewer fields
  obtain ⟨_, _, _, hlast, hfilter, hswap, _, hshown⟩ := properties_of_texts
  refine ⟨?_, hfilter texts fewer (by decide), ?_, ?_, ?_⟩
  · exact (hlast texts "a" "2").mpr
      ⟨["a=1", "=x=y", "b==\n", "junk"], "a=2", [], rfl, by decide, nofun⟩
  · refine hswap [] "a=1" "b==\n" [] fun p q hp hq => ?_
    obtain rfl : ("a", "1") = p := Option.some.inj hp
    obtain rfl : ("b", "=\n") = q := Option.some.inj hq
    decide
  · obtain ⟨value, hvalue, _, hnull, _⟩ := hshown texts (fields texts) "" _ rfl rfl
    refine ⟨_, rfl, fun hshows => ?_⟩
    obtain rfl := Option.some.inj (hvalue.symm.trans hshows)
    exact absurd (hnull.mp rfl "a=1" (by decide)) (by decide)
  · obtain ⟨value, hvalue, _, hnull, _⟩ := hshown ["=x=y"] (fields ["=x=y"]) "" _ rfl rfl
    refine ⟨_, rfl, hvalue.trans (congrArg some (hnull.mpr ?_))⟩
    decide

/-- An equals sign behind another one at the start of a text does not make it hold a property. -/
theorem no_property_behind_leading_sign :
    let written := "=a=b"
    written.toList[2]? = some '=' ∧ ofText? written = none ∧
      (ofTexts [written]).find? "" = none ∧
      ¬ ∀ written, (∃ i, 0 < i ∧ written.toList[i]? = some '=') →
        ∃ property, ofText? written = some property := by
  intro written
  have hnone : ofText? written = none := by decide
  refine ⟨by decide, hnone, by decide, fun hall => ?_⟩
  obtain ⟨property, hproperty⟩ := hall written ⟨2, by decide, by decide⟩
  exact Option.some_ne_none property (hproperty.symm.trans hnone)

end Discovery.Properties
