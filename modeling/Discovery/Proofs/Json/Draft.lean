import Mathlib
import Discovery.Proofs.Json.LiteralReading
import Discovery.Proofs.Json.Meaning
import Discovery.Proofs.Json.Written

namespace Discovery.Json

/-- A document as it is written: its numbers are literals, which nobody has read yet. -/
abbrev Draft := Json (List Char)

namespace Draft

/-- A part of a draft that is written on its own. -/
abbrev Part := Json.Part (List Char)

/-- A literal is written as it is, if it denotes a number. -/
inductive IsLiteral : List Char → List Char → Prop
  | intro {literal : List Char} {q : ℚ} : Denotes literal q → IsLiteral literal literal

/-- A draft that makes up a text. -/
def WrittenIn (d : Draft) (text : List Char) : Prop :=
  WrittenWith IsLiteral d text

/-- A part of a document is what a draft of it is read as. -/
inductive Reads : Part → Json.Part → Prop
  | null : Reads (.value .null) (.value .null)
  | bool (value : Bool) : Reads (.value (.bool value)) (.value (.bool value))
  | number {literal : List Char} {x : Number} : x.IsWritten literal →
    Reads (.value (.number literal)) (.value (.number x))
  | string (s : String) : Reads (.value (.string s)) (.value (.string s))
  | array {items : List Draft} {values : List Json} : Reads (.items items) (.items values) →
    Reads (.value (.array items)) (.value (.array values))
  | noItems : Reads (.items []) (.items [])
  | items {item : Draft} {items : List Draft} {value : Json} {values : List Json} :
    Reads (.value item) (.value value) → Reads (.items items) (.items values) →
    Reads (.items (item :: items)) (.items (value :: values))
  | object {members : List (String × Draft)} {values : List (String × Json)} :
    Reads (.members members) (.members values) →
    Reads (.value (.object members)) (.value (.object values))
  | member (key : String) {item : Draft} {value : Json} : Reads (.value item) (.value value) →
    Reads (.member key item) (.member key value)
  | noMembers : Reads (.members []) (.members [])
  | members {key : String} {item : Draft} {value : Json} {members : List (String × Draft)}
    {values : List (String × Json)} : Reads (.member key item) (.member key value) →
    Reads (.members members) (.members values) →
    Reads (.members ((key, item) :: members)) (.members ((key, value) :: values))

/-- What is written as a draft is written as what the draft is read as. -/
theorem writes_of_reads {part : Part} {text : List Char} (h : Writes IsLiteral part text)
    {read : Json.Part} (hread : Reads part read) : Writes Number.IsWritten read text := by
  induction h generalizing read with
  | null => cases hread; exact .null
  | true => cases hread; exact .true
  | false => cases hread; exact .false
  | number hliteral =>
    cases hliteral
    cases hread with
    | number hwritten => exact .number hwritten
  | string hchars => cases hread; exact .string hchars
  | emptyArray hgap =>
    cases hread with
    | array hitems => cases hitems; exact .emptyArray hgap
  | array hbefore _ _ hafter ihItem ihItems =>
    cases hread with
    | array hitems =>
      cases hitems with
      | items hitem hitems => exact .array hbefore (ihItem hitem) (ihItems hitems) hafter
  | noItems => cases hread; exact .noItems
  | items hbefore hafter _ _ ihItem ihItems =>
    cases hread with
    | items hitem hitems => exact .items hbefore hafter (ihItem hitem) (ihItems hitems)
  | emptyObject hgap =>
    cases hread with
    | object hmembers => cases hmembers; exact .emptyObject hgap
  | object hbefore _ _ hafter ihMember ihMembers =>
    cases hread with
    | object hmembers =>
      cases hmembers with
      | members hmember hmembers =>
        exact .object hbefore (ihMember hmember) (ihMembers hmembers) hafter
  | member hkey hbefore hafter _ ihValue =>
    cases hread with
    | member _ hvalue => exact .member hkey hbefore hafter (ihValue hvalue)
  | noMembers => cases hread; exact .noMembers
  | members hbefore hafter _ _ ihMember ihMembers =>
    cases hread with
    | members hmember hmembers =>
      exact .members hbefore hafter (ihMember hmember) (ihMembers hmembers)

theorem isLiteral_of_isWritten {x : Number} {literal : List Char} (h : x.IsWritten literal) :
    IsLiteral literal literal := by
  obtain ⟨n, hafter, hvalue⟩ := Number.isWritten_iff.mp h
  obtain ⟨q, hdenotes⟩ := Numeral.exists_denotes_of_after hafter hvalue
  exact .intro hdenotes

theorem Reads.exists_value {part : Part} {value : Json} (h : Reads part (.value value)) :
    ∃ d, part = .value d := by
  cases h <;> exact ⟨_, rfl⟩

theorem Reads.exists_items {part : Part} {values : List Json} (h : Reads part (.items values)) :
    ∃ items, part = .items items := by
  cases h <;> exact ⟨_, rfl⟩

theorem Reads.exists_member {part : Part} {key : String} {value : Json}
    (h : Reads part (.member key value)) : ∃ d, part = .member key d := by
  cases h
  exact ⟨_, rfl⟩

theorem Reads.exists_members {part : Part} {values : List (String × Json)}
    (h : Reads part (.members values)) : ∃ members, part = .members members := by
  cases h <;> exact ⟨_, rfl⟩

/-- What is written as a document is written as a draft that is read as it. -/
theorem exists_of_writes {part : Json.Part} {text : List Char}
    (h : Writes Number.IsWritten part text) :
    ∃ draft, Reads draft part ∧ Writes IsLiteral draft text := by
  induction h with
  | null => exact ⟨_, .null, .null⟩
  | true => exact ⟨_, .bool true, .true⟩
  | false => exact ⟨_, .bool false, .false⟩
  | number hwritten => exact ⟨_, .number hwritten, .number (isLiteral_of_isWritten hwritten)⟩
  | string hchars => exact ⟨_, .string _, .string hchars⟩
  | emptyArray hgap => exact ⟨_, .array .noItems, .emptyArray hgap⟩
  | array hbefore _ _ hafter ihItem ihItems =>
    obtain ⟨_, hitem, hfirst⟩ := ihItem
    obtain ⟨_, hitems, hrest⟩ := ihItems
    obtain ⟨_, rfl⟩ := hitem.exists_value
    obtain ⟨_, rfl⟩ := hitems.exists_items
    exact ⟨_, .array (.items hitem hitems), .array hbefore hfirst hrest hafter⟩
  | noItems => exact ⟨_, .noItems, .noItems⟩
  | items hbefore hafter _ _ ihItem ihItems =>
    obtain ⟨_, hitem, hfirst⟩ := ihItem
    obtain ⟨_, hitems, hrest⟩ := ihItems
    obtain ⟨_, rfl⟩ := hitem.exists_value
    obtain ⟨_, rfl⟩ := hitems.exists_items
    exact ⟨_, .items hitem hitems, .items hbefore hafter hfirst hrest⟩
  | emptyObject hgap => exact ⟨_, .object .noMembers, .emptyObject hgap⟩
  | object hbefore _ _ hafter ihMember ihMembers =>
    obtain ⟨_, hmember, hfirst⟩ := ihMember
    obtain ⟨_, hmembers, hrest⟩ := ihMembers
    obtain ⟨_, rfl⟩ := hmember.exists_member
    obtain ⟨_, rfl⟩ := hmembers.exists_members
    exact ⟨_, .object (.members hmember hmembers), .object hbefore hfirst hrest hafter⟩
  | member hkey hbefore hafter _ ihValue =>
    obtain ⟨_, hvalue, hwrites⟩ := ihValue
    obtain ⟨_, rfl⟩ := hvalue.exists_value
    exact ⟨_, .member _ hvalue, .member hkey hbefore hafter hwrites⟩
  | noMembers => exact ⟨_, .noMembers, .noMembers⟩
  | members hbefore hafter _ _ ihMember ihMembers =>
    obtain ⟨_, hmember, hfirst⟩ := ihMember
    obtain ⟨_, hmembers, hrest⟩ := ihMembers
    obtain ⟨_, rfl⟩ := hmember.exists_member
    obtain ⟨_, rfl⟩ := hmembers.exists_members
    exact ⟨_, .members hmember hmembers, .members hbefore hafter hfirst hrest⟩

end Draft

mutual

/-- What a document is printed as. -/
def draft : Json → Draft
  | .array items => .array (draftItems items)
  | .object members => .object (draftMembers members)
  | .null => .null
  | .bool value => .bool value
  | .number x => .number x.digits
  | .string value => .string value

/-- What the items of an array are printed as. -/
def draftItems : List Json → List Draft
  | [] => []
  | item :: items => draft item :: draftItems items

/-- What the members of an object are printed as. -/
def draftMembers : List (String × Json) → List (String × Draft)
  | [] => []
  | (key, value) :: members => (key, draft value) :: draftMembers members

end

namespace Draft

theorem exists_denotes_digits (x : Number) : ∃ q, Denotes x.digits q := by
  cases x with
  | integer i => exact ⟨_, (isInteger_integerDigits i).denotes⟩
  | double x => exact ⟨_, x.denotes_digits⟩

theorem writes_printItems {layout : Layout} {items : List Json} (depth : Nat)
    (h : ∀ item ∈ items, Writes IsLiteral (.value item.draft) (printAt layout depth item)) :
    Writes IsLiteral (.items (draftItems items)) (printItems layout depth items) := by
  induction items with
  | nil => exact .noItems
  | cons item items ih =>
    obtain ⟨hitem, hitems⟩ := List.forall_mem_cons.mp h
    exact .items isGap_nil (isGap_layout layout depth) hitem (ih hitems)

theorem writes_printMember {layout : Layout} {value : Json} {text : List Char} (key : String)
    (h : Writes IsLiteral (.value value.draft) text) :
    Writes IsLiteral (.member key value.draft) (printString key ++ layout.colon ++ text) := by
  have hkey := spells_flatMap_escape key.toList
  have hafter : ∃ after, IsGap after ∧ layout.colon = ':' :: after := by
    cases layout with
    | compact => exact ⟨[], isGap_nil, rfl⟩
    | pretty => exact ⟨[' '], by simp [IsGap, isSpace], rfl⟩
  obtain ⟨after, hgap, hcolon⟩ := hafter
  have hmember := Writes.member hkey isGap_nil hgap h
  rw [hcolon, printString]
  simpa using hmember

theorem writes_printMembers {layout : Layout} {members : List (String × Json)} (depth : Nat)
    (h : ∀ member ∈ members, Writes IsLiteral (.value member.2.draft) (printAt layout depth member.2)) :
    Writes IsLiteral (.members (draftMembers members)) (printMembers layout depth members) := by
  induction members with
  | nil => exact .noMembers
  | cons member members ih =>
    obtain ⟨key, value⟩ := member
    obtain ⟨hvalue, hmembers⟩ := List.forall_mem_cons.mp h
    have hmember : Writes IsLiteral (.member key value.draft)
        (printString key ++ layout.colon ++ printAt layout depth value) :=
      writes_printMember key hvalue
    have hwritten := Writes.members isGap_nil (isGap_layout layout depth) hmember (ih hmembers)
    rw [draftMembers, printMembers]
    simpa using hwritten

/-- A printed document is written as the grammar says, whatever its numbers. -/
theorem writes_printAt (d : Json) (layout : Layout) (depth : Nat) :
    Writes IsLiteral (.value d.draft) (printAt layout depth d) := by
  induction d using Json.induct generalizing depth with
  | null => exact .null
  | bool value =>
    cases value with
    | true => exact .true
    | false => exact .false
  | string value => exact .string (spells_flatMap_escape value.toList)
  | number x =>
    obtain ⟨q, hdenotes⟩ := exists_denotes_digits x
    exact .number (.intro hdenotes)
  | array items ih =>
    cases items with
    | nil => exact .emptyArray isGap_nil
    | cons item items =>
      obtain ⟨hitem, hitems⟩ := List.forall_mem_cons.mp ih
      have hrest := writes_printItems (depth + 1) fun item hmem => hitems item hmem (depth + 1)
      exact .array (isGap_layout layout _) (hitem (depth + 1)) hrest (isGap_layout layout _)
  | object members ih =>
    cases members with
    | nil => exact .emptyObject isGap_nil
    | cons member members =>
      obtain ⟨key, value⟩ := member
      obtain ⟨hvalue, hmembers⟩ := List.forall_mem_cons.mp ih
      have hmember : Writes IsLiteral (.member key value.draft)
          (printString key ++ layout.colon ++ printAt layout (depth + 1) value) :=
        writes_printMember key (hvalue (depth + 1))
      have hrest := writes_printMembers (depth + 1)
        fun member hmem => hmembers member hmem (depth + 1)
      have hwritten :=
        Writes.object (isGap_layout layout (depth + 1)) hmember hrest (isGap_layout layout depth)
      rw [draft, draftMembers, printAt]
      simpa using hwritten

theorem writtenIn_print (d : Json) (layout : Layout) :
    d.draft.WrittenIn (d.print layout).toList := by
  refine ⟨[], printAt layout 0 d, [], ?_, isGap_nil, writes_printAt d layout 0, isGap_nil⟩
  rw [print, String.toList_ofList, List.nil_append, List.append_nil]

theorem WrittenIn.read {d : Draft} {value : Json} {text : List Char} (h : d.WrittenIn text)
    (hread : Reads (.value d) (.value value)) : value.WrittenIn text := by
  obtain ⟨before, inner, after, htext, hbefore, hinner, hafter⟩ := h
  exact ⟨before, inner, after, htext, hbefore, writes_of_reads hinner hread, hafter⟩

theorem reads_draftItems {items : List Json}
    (h : ∀ item ∈ items, Reads (.value item.draft) (.value item)) :
    Reads (.items (draftItems items)) (.items items) := by
  induction items with
  | nil => exact .noItems
  | cons item items ih =>
    obtain ⟨hitem, hitems⟩ := List.forall_mem_cons.mp h
    exact .items hitem (ih hitems)

theorem reads_draftMembers {members : List (String × Json)}
    (h : ∀ member ∈ members, Reads (.value member.2.draft) (.value member.2)) :
    Reads (.members (draftMembers members)) (.members members) := by
  induction members with
  | nil => exact .noMembers
  | cons member members ih =>
    obtain ⟨hvalue, hmembers⟩ := List.forall_mem_cons.mp h
    exact .members (.member member.1 hvalue) (ih hmembers)

/-- A printed integer is read as itself. -/
theorem reads_draft {d : Json} (h : d.Integral) : Reads (.value d.draft) (.value d) := by
  induction h with
  | null => exact .null
  | bool value => exact .bool value
  | string value => exact .string value
  | integer hlow hhigh => exact .number (.integer hlow hhigh)
  | array _ ih => exact .array (reads_draftItems ih)
  | object _ ih => exact .object (reads_draftMembers ih)

end Draft

/-- A printed document whose numbers are integers is written as that document. -/
theorem writtenIn_print {d : Json} (h : d.Integral) (layout : Layout) :
    d.WrittenIn (d.print layout).toList :=
  (Draft.writtenIn_print d layout).read (Draft.reads_draft h)

end Discovery.Json
