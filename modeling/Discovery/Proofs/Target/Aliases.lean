import Discovery.Proofs.Dictionary
import Discovery.Proofs.Text.Blank
import Discovery.Proofs.Text.Cut
import Discovery.Proofs.Text.Lines
import Discovery.Proofs.Text.Word
import Discovery.Target.Aliases

namespace Discovery.Aliases

/-- A line declares the hosts of a name. What stands in front of its first equals sign is the name,
    which is a word, and what stands behind it are the hosts, each without the white space at its
    ends. -/
structure Declares (line : List Char) (name hosts : String) : Prop where
  isWord : Text.isWord name.toList = true
  parts : ∃ before after, line = before ++ '=' :: after ∧ '=' ∉ before ∧
    Text.trim before = name.toList ∧ Text.trim after = hosts.toList

/-- A line has the form of an alias: white space, a word, white space, an equals sign, all the white
    space that follows it, and the rest of the line. -/
structure HasForm (line name rest : List Char) : Prop where
  isWord : Text.isWord name = true
  begins : ∀ c ∈ rest.head?, Text.isBlank c = false
  parts : ∃ indent gap space, line = indent ++ name ++ gap ++ '=' :: (space ++ rest) ∧
    Text.IsBlankText indent ∧ Text.IsBlankText gap ∧ Text.IsBlankText space

/-- What a line declares can be read back after it was written: the name is a word and the hosts are
    a trimmed text on one line. -/
structure IsWritable (name hosts : String) : Prop where
  isWord : Text.isWord name.toList = true
  isTrimmed : Text.IsTrimmed hosts.toList
  oneLine : '\n' ∉ hosts.toList

theorem isTrimmed_of_isWord {name : List Char} (h : Text.isWord name = true) :
    Text.IsTrimmed name := by
  obtain ⟨_, hword⟩ := Text.isWord_iff.mp h
  exact ⟨fun c hc => Text.isBlank_of_isWordChar (hword c (List.mem_of_mem_head? hc)),
    fun c hc => Text.isBlank_of_isWordChar (hword c (List.mem_of_getLast? hc))⟩

/-- What is no character of a word and no white space is not in front of the equals sign. -/
theorem notMem_of_isWord {name gap : List Char} {c : Char} (hname : Text.isWord name = true)
    (hgap : c ∉ gap) (hc : Text.isWordChar c = false) : c ∉ name ++ gap := by
  rw [List.mem_append, not_or]
  refine ⟨fun hmem => ?_, hgap⟩
  exact Bool.noConfusion (hc.symm.trans ((Text.isWord_iff.mp hname).2 c hmem))

/-- The form of a line leaves no choice: its parts are those around the first equals sign. -/
theorem declares_iff_hasForm {line : List Char} {name hosts : String} :
    Declares line name hosts ↔
      ∃ rest, HasForm line name.toList rest ∧ Text.trimEnd rest = hosts.toList := by
  constructor
  · rintro ⟨hword, before, after, rfl, _, hname, hhosts⟩
    obtain ⟨_, indent, gap, rfl, hindent, hgap⟩ := Text.trim_eq_iff.mp hname
    obtain ⟨⟨space, hafter, hspace⟩, hbegins⟩ := Text.exists_of_trimStart after
    refine ⟨Text.trimStart after, ⟨hword, hbegins, indent, gap, space, ?_, hindent, hgap, hspace⟩,
      hhosts⟩
    rw [← hafter]
  · rintro ⟨rest, ⟨hword, hbegins, indent, gap, space, rfl, hindent, hgap, hspace⟩, hhosts⟩
    refine ⟨hword, indent ++ name.toList ++ gap, space ++ rest, rfl, ?_, ?_, ?_⟩
    · -- neither a word nor white space holds an equals sign, so this one is the first
      have hsign : Text.isBlank '=' = false := by decide
      rw [List.append_assoc, List.mem_append, not_or]
      exact ⟨hindent.notMem hsign, notMem_of_isWord hword (hgap.notMem hsign) (by decide +kernel)⟩
    · exact Text.trim_eq_iff.mpr ⟨isTrimmed_of_isWord hword, indent, gap, rfl, hindent, hgap⟩
    · rw [Text.trim, Text.trimStart_append hspace, Text.trimStart_of_head? hbegins, hhosts]

theorem ofLine?_eq_some_iff {line : List Char} {name hosts : String} :
    ofLine? line = some (name, hosts) ↔ Declares line name hosts := by
  unfold ofLine?
  constructor
  · intro h
    split at h
    next => cases h
    next before after hcut =>
      obtain ⟨rfl, hfree⟩ := Text.cut_eq_some_iff.mp hcut
      split at h
      next hword =>
        cases h
        exact ⟨by simpa using hword, before, after, rfl, hfree, by simp, by simp⟩
      next => cases h
  · rintro ⟨hword, before, after, rfl, hfree, hname, hhosts⟩
    rw [Text.cut_append after hfree]
    simp [hname, hhosts, hword]

/-- A carriage return at the end of a line is white space behind the hosts. -/
theorem ofLine?_return (line : List Char) : ofLine? (line ++ ['\r']) = ofLine? line := by
  have hreturn : Text.IsBlankText ['\r'] := by decide
  cases hcut : Text.cut '=' line with
  | none =>
    have hfree : '=' ∉ line ++ ['\r'] := by simp [Text.cut_eq_none_iff.mp hcut]
    rw [ofLine?, ofLine?, hcut, Text.cut_eq_none_iff.mpr hfree]
  | some parts =>
    obtain ⟨before, after⟩ := parts
    obtain ⟨rfl, hfree⟩ := Text.cut_eq_some_iff.mp hcut
    rw [List.append_assoc, List.cons_append, ofLine?, ofLine?, Text.cut_append _ hfree,
      Text.cut_append _ hfree]
    simp only [Text.trim_append hreturn]

theorem ofText_eq_ofPairs_lines (text : String) :
    ofText text = Dictionary.ofPairs ((Text.lines text.toList).filterMap ofLine?) := by
  rw [ofText, Text.filterMap_lines ofLine?_return rfl]

theorem find?_ofText_eq_some_iff {text name hosts : String} :
    (ofText text).find? name = some hosts ↔
      ∃ front line back, Text.lines text.toList = front ++ line :: back ∧
        Declares line name hosts ∧ ∀ later ∈ back, ∀ other, ¬ Declares later name other := by
  rw [ofText_eq_ofPairs_lines, Dictionary.find?_ofPairs_filterMap_eq_some_iff]
  simp only [ofLine?_eq_some_iff, ne_eq]

theorem isWritable_of_find?_ofText {text name hosts : String}
    (h : (ofText text).find? name = some hosts) : IsWritable name hosts := by
  have hentry := Dictionary.mem_of_mem_ofPairs (Dictionary.find?_eq_some_iff.mp h)
  obtain ⟨line, hline, hdeclares⟩ := List.mem_filterMap.mp hentry
  obtain ⟨hword, before, after, rfl, _, _, hhosts⟩ := ofLine?_eq_some_iff.mp hdeclares
  refine ⟨hword, hhosts ▸ Text.isTrimmed_trim after, fun hmem => ?_⟩
  have hfeed := Text.notMem_of_mem_pieces hline
  rw [← hhosts] at hmem
  simp [Text.mem_of_mem_trim hmem] at hfeed

/-- The aliases of a text override those of a text above it. -/
theorem find?_ofText_append (above below name : String) :
    (ofText (above ++ "\n" ++ below)).find? name =
      ((ofText below).find? name).or ((ofText above).find? name) := by
  have hpieces : Text.pieces '\n' (above ++ "\n" ++ below).toList =
      Text.pieces '\n' above.toList ++ Text.pieces '\n' below.toList := by
    rw [← Text.pieces_append]
    simp
  rw [ofText, hpieces, List.filterMap_append, Dictionary.find?_ofPairs_append]
  rfl

/-- An alias to be written, with the white space around its equals sign. -/
structure Entry where
  name : String
  hosts : String
  gap : String
  space : String
  gap_isBlank : Text.IsBlankText gap.toList
  gap_oneLine : '\n' ∉ gap.toList
  space_isBlank : Text.IsBlankText space.toList
  space_oneLine : '\n' ∉ space.toList

namespace Entry

/-- The alias without the white space. -/
def pair (entry : Entry) : String × String :=
  (entry.name, entry.hosts)

/-- The line of an alias. -/
def line (entry : Entry) : String :=
  entry.name ++ entry.gap ++ "=" ++ entry.space ++ entry.hosts

/-- The text of several aliases, one a line. -/
def text (entries : List Entry) : String :=
  "\n".intercalate (entries.map line)

variable {entry : Entry}

theorem declares_line (h : IsWritable entry.name entry.hosts) :
    Declares entry.line.toList entry.name entry.hosts := by
  refine declares_iff_hasForm.mpr ⟨entry.hosts.toList, ⟨h.isWord, h.isTrimmed.1, [],
    entry.gap.toList, entry.space.toList, ?_, nofun, entry.gap_isBlank, entry.space_isBlank⟩,
    Text.trimEnd_of_getLast? h.isTrimmed.2⟩
  simp [line]

theorem oneLine_line (h : IsWritable entry.name entry.hosts) : '\n' ∉ entry.line.toList := by
  have hname : '\n' ∉ entry.name.toList ++ entry.gap.toList :=
    notMem_of_isWord h.isWord entry.gap_oneLine (by decide +kernel)
  simp only [List.mem_append, not_or] at hname
  simp [line, hname, entry.space_oneLine, h.oneLine]

/-- Aliases that were written line by line are read back in the order of their lines. -/
theorem ofText_text {entries : List Entry}
    (h : ∀ entry ∈ entries, IsWritable entry.name entry.hosts) :
    ofText (text entries) = Dictionary.ofPairs (entries.map pair) := by
  by_cases hnone : entries = []
  · subst hnone
    rfl
  have hfree : ∀ part ∈ entries.map fun entry => entry.line.toList, '\n' ∉ part := by
    intro part hpart
    obtain ⟨entry, hmem, rfl⟩ := List.mem_map.mp hpart
    exact oneLine_line (h entry hmem)
  have hpieces : Text.pieces '\n' (text entries).toList =
      entries.map fun entry => entry.line.toList := by
    rw [text, String.toList_intercalate, List.map_map]
    exact Text.pieces_intercalate hfree (by simpa using hnone)
  have hlines : ∀ entry ∈ entries,
      (ofLine? ∘ fun entry : Entry => entry.line.toList) entry = (some ∘ pair) entry :=
    fun entry hmem => ofLine?_eq_some_iff.mpr (declares_line (h entry hmem))
  rw [ofText, hpieces, List.filterMap_map, List.filterMap_congr hlines, List.filterMap_eq_map]

end Entry

/-- Pairs that were written without white space are read back. -/
theorem ofText_pairLines {pairs : List (String × String)}
    (h : ∀ pair ∈ pairs, IsWritable pair.1 pair.2) :
    ofText ("\n".intercalate (pairs.map fun pair => pair.1 ++ "=" ++ pair.2)) =
      Dictionary.ofPairs pairs := by
  have hblank : Text.IsBlankText "".toList := nofun
  let entry (pair : String × String) : Entry :=
    ⟨pair.1, pair.2, "", "", hblank, nofun, hblank, nofun⟩
  have hlines : pairs.map (fun pair => pair.1 ++ "=" ++ pair.2) =
      (pairs.map entry).map Entry.line := by
    simp [entry, Entry.line]
  have hpairs : (pairs.map entry).map Entry.pair = pairs := by
    rw [List.map_map]
    exact List.map_id pairs
  have hwritable : ∀ written ∈ pairs.map entry, IsWritable written.name written.hosts := by
    intro written hwritten
    obtain ⟨pair, hpair, rfl⟩ := List.mem_map.mp hwritten
    exact h pair hpair
  rw [hlines]
  exact (Entry.ofText_text hwritable).trans (congrArg Dictionary.ofPairs hpairs)

/-- A text of aliases has the table of its lines. A line declares what the form of an alias says, a
    name has the hosts of the last line that declares it, and a line that declares nothing makes no
    difference. What is found can be written, the text below overrides the text above, and whatever
    can be written is found again in the text of its lines, in any order. -/
theorem table_of_lines :
    (∀ line name hosts, Declares line name hosts ↔
      ∃ rest, HasForm line name.toList rest ∧ Text.trimEnd rest = hosts.toList) ∧
    (∀ text name hosts, (ofText text).find? name = some hosts ↔
      ∃ front line back, Text.lines text.toList = front ++ line :: back ∧
        Declares line name hosts ∧ ∀ later ∈ back, ∀ other, ¬ Declares later name other) ∧
    (∀ text fewer front line back, Text.lines text.toList = front ++ line :: back →
      Text.lines fewer.toList = front ++ back → (∀ name hosts, ¬ Declares line name hosts) →
        ofText fewer = ofText text) ∧
    (∀ text name hosts, (ofText text).find? name = some hosts → IsWritable name hosts) ∧
    (∀ above below name, (ofText (above ++ "\n" ++ below)).find? name =
      ((ofText below).find? name).or ((ofText above).find? name)) ∧
    ∀ (aliases : Aliases) (entries : List Entry),
      (∀ pair ∈ aliases.entries, IsWritable pair.1 pair.2) →
        (entries.map Entry.pair).Perm aliases.entries → ofText (Entry.text entries) = aliases := by
  refine ⟨fun line name hosts => declares_iff_hasForm,
    fun text name hosts => find?_ofText_eq_some_iff, ?_,
    fun text name hosts => isWritable_of_find?_ofText, find?_ofText_append, ?_⟩
  · intro text fewer front line back htext hfewer hnothing
    have hline : ofLine? line = none := by
      cases hpair : ofLine? line with
      | none => rfl
      | some pair => exact absurd (ofLine?_eq_some_iff.mp hpair) (hnothing pair.1 pair.2)
    rw [ofText_eq_ofPairs_lines, ofText_eq_ofPairs_lines, htext, hfewer, List.filterMap_append,
      List.filterMap_append, List.filterMap_cons_none hline]
  · intro aliases entries hwritable hperm
    rw [Entry.ofText_text, Dictionary.ofPairs_of_perm hperm]
    intro entry hmem
    exact hwritable entry.pair (hperm.mem_iff.mp (List.mem_map_of_mem hmem))

/-- A comment between two lines for one name, the first of which ends with a carriage return, and
    two aliases written against the order of their names. -/
theorem table_of_commented_lines :
    let text := "lab = a\r\n# lab = b\n\tlab=c=, d \r\n"
    let aliases : Aliases := Dictionary.ofPairs [("a1", ""), ("z_", "x = y")]
    let gaps : List Entry :=
      [⟨"z_", "x = y", "\t", " ", by decide, by decide, by decide, by decide⟩,
        ⟨"a1", "", "", "\r", by decide, by decide, by decide, by decide⟩]
    (ofText text).find? "lab" = some "c=, d" ∧ IsWritable "lab" "c=, d" ∧
      ofText "lab = a\r\n\tlab=c=, d " = ofText text ∧ Entry.text gaps = "z_\t= x = y\na1=\r" ∧
      ofText (Entry.text gaps) = aliases := by
  intro text aliases gaps
  obtain ⟨_, hfind, hfewer, hwritable, _, hwritten⟩ := table_of_lines
  have hword : Text.isWord "lab".toList = true := by decide +kernel
  have hfound : (ofText text).find? "lab" = some "c=, d" := by
    refine (hfind text "lab" "c=, d").mpr ⟨["lab = a".toList, "# lab = b".toList],
      "\tlab=c=, d ".toList, [], by decide, ⟨hword, "\tlab".toList, "c=, d ".toList, ?_⟩, nofun⟩
    decide
  refine ⟨hfound, hwritable text "lab" "c=, d" hfound, ?_, by decide, ?_⟩
  · refine hfewer text "lab = a\r\n\tlab=c=, d " ["lab = a".toList] "# lab = b".toList
      ["\tlab=c=, d ".toList] (by decide) (by decide) fun name hosts hdeclares => ?_
    have hcomment : ofLine? "# lab = b".toList = none := by decide +kernel
    cases hcomment.symm.trans (ofLine?_eq_some_iff.mpr hdeclares)
  · refine hwritten aliases gaps (fun pair hpair => ?_) (by decide)
    have hentries : aliases.entries = [("a1", ""), ("z_", "x = y")] := by decide
    obtain rfl | rfl : pair = ("a1", "") ∨ pair = ("z_", "x = y") := by simpa [hentries] using hpair
    · exact ⟨by decide +kernel, by decide, by decide⟩
    · exact ⟨by decide +kernel, by decide, by decide⟩

end Discovery.Aliases
