import Discovery.Proofs.Text.Blank
import Discovery.Proofs.Text.Lines
import Discovery.Target.Hosts

namespace Discovery

/-- A host as it stands in a list: a text on its own, with no white space at its ends. -/
structure IsHost (entry : String) : Prop where
  nonempty : entry ≠ ""
  noComma : ',' ∉ entry.toList
  isTrimmed : Text.IsTrimmed entry.toList

theorem hostEntries_append (a b : String) :
    hostEntries (a ++ "," ++ b) = hostEntries a ++ hostEntries b := by
  have hpieces : Text.pieces ',' (a ++ "," ++ b).toList =
      Text.pieces ',' a.toList ++ Text.pieces ',' b.toList := by
    rw [← Text.pieces_append]
    simp
  simp only [hostEntries, hpieces, List.map_append, List.filter_append]

theorem mem_hostEntries_iff {text entry : String} :
    entry ∈ hostEntries text ↔
      entry ≠ "" ∧ ∃ part ∈ Text.pieces ',' text.toList, Text.trim part = entry.toList := by
  simp only [hostEntries, List.mem_map, List.mem_filter]
  constructor
  · rintro ⟨_, ⟨⟨part, hpart, rfl⟩, hne⟩, rfl⟩
    exact ⟨by simpa using hne, part, hpart, by simp⟩
  · rintro ⟨hne, part, hpart, htrim⟩
    exact ⟨entry.toList, ⟨⟨part, hpart, htrim⟩, by simpa using hne⟩, by simp⟩

/-- Each host is trimmed, and the commas of the text are between the hosts. -/
theorem isHost_of_mem_hostEntries {text entry : String} (h : entry ∈ hostEntries text) :
    IsHost entry := by
  obtain ⟨hne, part, hpart, htrim⟩ := mem_hostEntries_iff.mp h
  refine ⟨hne, fun hcomma => ?_, htrim ▸ Text.isTrimmed_trim part⟩
  rw [← htrim] at hcomma
  exact Text.notMem_of_mem_pieces hpart (Text.mem_of_mem_trim hcomma)

/-- A text has no hosts when there is nothing but commas and white space in it. -/
theorem hostEntries_eq_nil_iff {text : String} :
    hostEntries text = [] ↔ ∀ c ∈ text.toList, c = ',' ∨ Text.isBlank c = true := by
  have hblank : hostEntries text = [] ↔
      ∀ part ∈ Text.pieces ',' text.toList, Text.IsBlankText part := by
    simp [hostEntries, Text.trim_eq_nil_iff]
  have hchars : (∀ part ∈ Text.pieces ',' text.toList, Text.IsBlankText part) ↔
      Text.IsBlankText (Text.pieces ',' text.toList).flatten := by
    simp only [Text.IsBlankText, List.mem_flatten]
    constructor
    · rintro h c ⟨part, hpart, hc⟩
      exact h part hpart c hc
    · intro h part hpart c hc
      exact h c ⟨part, hpart, hc⟩
  rw [hblank, hchars, Text.flatten_pieces, Text.IsBlankText]
  simp [or_iff_not_imp_left]

/-- A text in a list, with the white space around it. -/
structure SpacedEntry where
  entry : String
  front : String
  back : String
  front_isBlank : Text.IsBlankText front.toList
  back_isBlank : Text.IsBlankText back.toList

namespace SpacedEntry

/-- The text of an entry with its white space. -/
def text (item : SpacedEntry) : String :=
  item.front ++ item.entry ++ item.back

/-- The text of a list of entries. -/
def listText (items : List SpacedEntry) : String :=
  ",".intercalate (items.map text)

variable {item : SpacedEntry}

theorem trim_text (h : IsHost item.entry) : Text.trim item.text.toList = item.entry.toList :=
  Text.trim_eq_iff.mpr ⟨h.isTrimmed, item.front.toList, item.back.toList, by simp [text],
    item.front_isBlank, item.back_isBlank⟩

theorem noComma_text (h : IsHost item.entry) : ',' ∉ item.text.toList := by
  have hcomma : Text.isBlank ',' = false := by decide
  simp [text, h.noComma, item.front_isBlank.notMem hcomma, item.back_isBlank.notMem hcomma]

/-- Hosts that were written with commas are read back. -/
theorem hostEntries_listText {items : List SpacedEntry} (h : ∀ item ∈ items, IsHost item.entry) :
    hostEntries (listText items) = items.map entry := by
  by_cases hnone : items = []
  · subst hnone
    rfl
  have hfree : ∀ part ∈ items.map fun item => item.text.toList, ',' ∉ part := by
    intro part hpart
    obtain ⟨item, hmem, rfl⟩ := List.mem_map.mp hpart
    exact noComma_text (h item hmem)
  have hpieces : Text.pieces ',' (listText items).toList =
      items.map fun item => item.text.toList := by
    rw [listText, String.toList_intercalate, List.map_map]
    exact Text.pieces_intercalate hfree (by simpa using hnone)
  have htrim : (items.map fun item => item.text.toList).map Text.trim =
      items.map fun item => item.entry.toList := by
    rw [List.map_map]
    exact List.map_congr_left fun item hmem => trim_text (h item hmem)
  have hkept : (items.map fun item => item.entry.toList).filter (fun host => !host.isEmpty) =
      items.map fun item => item.entry.toList := by
    refine List.filter_eq_self.mpr fun host hhost => ?_
    obtain ⟨item, hmem, rfl⟩ := List.mem_map.mp hhost
    simpa using (h item hmem).nonempty
  rw [hostEntries, hpieces, htrim, hkept, List.map_map]
  exact List.map_congr_left fun item _ => String.ofList_toList

end SpacedEntry

namespace Hosts

theorem ofText?_eq_some_iff {text : String} {hosts : Hosts} :
    ofText? text = some hosts ↔ hostEntries text = hosts.entries := by
  obtain ⟨entries, hne⟩ := hosts
  unfold ofText?
  split
  next hnone =>
    rw [hnone]
    exact ⟨nofun, fun heq => absurd heq.symm hne⟩
  next => simp

theorem ofText?_eq_none_iff {text : String} : ofText? text = none ↔ hostEntries text = [] := by
  simp [ofText?]

/-- The hosts of a text, where no hosts count as an empty list. -/
theorem elim_ofText? (text : String) : (ofText? text).elim [] entries = hostEntries text := by
  cases hosts? : ofText? text with
  | none => exact (ofText?_eq_none_iff.mp hosts?).symm
  | some hosts => exact (ofText?_eq_some_iff.mp hosts?).symm

end Hosts

end Discovery
