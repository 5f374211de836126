import Mathlib.Data.List.Perm.Basic
import Discovery.Proofs.Request.Interpretation
import Discovery.Proofs.Service.Properties
import Discovery.Proofs.Target.Resolution

namespace Discovery

/-- A flag and its value in one argument: behind the name where there is one, else behind the
    letter. -/
def Occurrence.argument (o : Occurrence) : String :=
  match o.flag.name? with
  | some name => "--" ++ name ++ "=" ++ o.value
  | none => "-" ++ String.singleton o.flag.letter ++ o.value

namespace Announcement

/-- The arguments that write an announcement, one for each field and each property. -/
def options (a : Announcement) : List String :=
  ["--environment=" ++ a.environment, "--type=" ++ a.serviceType, "--pool=" ++ a.pool] ++
    a.location?.toList.map (fun location => "--location=" ++ location) ++
    match a.properties? with
    | none => []
    | some properties => properties.entries.map fun (key, value) => "-D" ++ key ++ "=" ++ value

/-- Properties are left out or there are some, and their keys can be written. -/
def HasWritableProperties (a : Announcement) : Prop :=
  ∀ properties, a.properties? = some properties →
    properties.entries ≠ [] ∧ ∀ entry ∈ properties.entries, Properties.IsKey entry.1

/-- The properties of an announcement as a list. -/
def entries (a : Announcement) : List (String × String) :=
  match a.properties? with
  | none => []
  | some properties => properties.entries

/-- What a scan finds in the arguments of an announcement. -/
def occurrences (a : Announcement) : List Occurrence :=
  [⟨.environment, a.environment⟩, ⟨.serviceType, a.serviceType⟩, ⟨.pool, a.pool⟩] ++
    a.location?.toList.map (Occurrence.mk .location) ++
    a.entries.map fun entry => ⟨.property, Properties.text entry⟩

theorem options_eq_map (a : Announcement) :
    a.options = a.occurrences.map Occurrence.argument := by
  obtain ⟨environment, serviceType, pool, location?, properties?⟩ := a
  cases location? <;> cases properties? <;>
    simp [options, occurrences, entries, Occurrence.argument, Flag.name?, Flag.letter, Properties.text,
      ← String.toList_inj]

theorem beginsWithHyphen_of_mem_options {a : Announcement} {option : String}
    (h : option ∈ a.options) : Token.beginsWithHyphen option = true := by
  rw [options_eq_map] at h
  obtain ⟨o, _, rfl⟩ := List.mem_map.mp h
  unfold Occurrence.argument Token.beginsWithHyphen
  split <;> simp

theorem mem_flags_of_mem_occurrences {a : Announcement} {o : Occurrence}
    (h : o ∈ a.occurrences) : o.flag ∈ Subcommand.add.flags ∧ o.flag ≠ .output := by
  unfold occurrences at h
  simp only [List.mem_append, List.mem_cons, List.mem_map, List.not_mem_nil, or_false] at h
  obtain ((rfl | rfl | rfl) | ⟨_, _, rfl⟩) | ⟨_, _, rfl⟩ := h <;> simp [Subcommand.flags]

/-- An option spells its flag. The text of a property does not begin with an equals sign, so none is
    dropped from it. -/
theorem spelled_of_mem_occurrences {a : Announcement} (hwritable : a.HasWritableProperties)
    {o : Occurrence} (h : o ∈ a.occurrences) : o.flag.Spelled (some o.value) o.argument := by
  unfold occurrences at h
  simp only [List.mem_append, List.mem_cons, List.mem_map, List.not_mem_nil, or_false] at h
  obtain ((rfl | rfl | rfl) | ⟨_, _, rfl⟩) | ⟨entry, hentry, rfl⟩ := h
  · exact .nameValue _ rfl
  · exact .nameValue _ rfl
  · exact .nameValue _ rfl
  · exact .nameValue _ rfl
  · obtain ⟨hne, hfree⟩ : Properties.IsKey entry.1 := by
      unfold entries at hentry
      split at hentry
      next => cases hentry
      next properties hproperties => exact (hwritable properties hproperties).2 entry hentry
    have htext : Properties.text entry ≠ "" := by
      intro hempty
      have hchars := congrArg String.toList hempty
      simp [Properties.text] at hchars
    have hvalue : Flag.withoutEquals (Properties.text entry) = Properties.text entry := by
      apply if_neg
      have hchars : entry.1.toList ≠ [] := by simpa using hne
      rw [Properties.text, String.toList_append, String.toList_append, List.append_assoc]
      cases hlist : entry.1.toList with
      | nil => exact absurd hlist hchars
      | cons c rest =>
        rw [hlist, List.mem_cons] at hfree
        simpa using fun hc => hfree (Or.inl hc.symm)
    have hspelled : Flag.property.Spelled _ _ := .letterValue htext
    rwa [hvalue] at hspelled

/-- The arguments of an announcement in any order are scanned as what they were made of. -/
theorem scan_of_perm_options {a : Announcement} (hwritable : a.HasWritableProperties)
    {options : List String} (h : options.Perm a.options) :
    ∃ found : List Occurrence, found.Perm a.occurrences ∧
      Scan.ofArguments Subcommand.add.flags options = .ok ⟨found, []⟩ := by
  rw [options_eq_map] at h
  have hcomp := congrFun (congrFun (List.eq_map_comp_perm Occurrence.argument) options) a.occurrences
  obtain ⟨found, rfl, hperm⟩ := hcomp.mpr h
  let line : Line := ⟨found.map fun o => .joined o.argument o.flag o.value, none⟩
  have hwritten : line.Written Subcommand.add.flags := by
    intro item hitem
    obtain ⟨o, hfound, rfl⟩ := List.mem_map.mp hitem
    have ho : o ∈ a.occurrences := hperm.mem_iff.mp hfound
    obtain ⟨hmem, hnotOutput⟩ := mem_flags_of_mem_occurrences ho
    exact ⟨hmem, spelled_of_mem_occurrences hwritable ho, fun hout => absurd hout hnotOutput⟩
  have harguments : line.arguments = found.map Occurrence.argument := by
    simp only [line, Line.arguments, List.flatMap_map, Item.arguments, List.append_nil,
      ← List.map_eq_flatMap]
  have hscan : line.scan = ⟨found, []⟩ := by
    simp [line, Line.scan, Line.occurrences, Line.operands, List.filterMap_map, Item.occurrence?,
      Item.operand?, Function.comp_def]
  refine ⟨found, hperm, ?_⟩
  rw [← harguments, Scan.ofArguments_line hwritten, hscan]

/-- The values that an announcement gives a flag. -/
def valuesOf (a : Announcement) : Flag → List String
  | .environment => [a.environment]
  | .serviceType => [a.serviceType]
  | .pool => [a.pool]
  | .location => a.location?.toList
  | .property => a.entries.map Properties.text
  | _ => []

theorem all_occurrences (a : Announcement) (flag : Flag) :
    Scan.all ⟨a.occurrences, []⟩ flag = a.valuesOf flag := by
  obtain ⟨environment, serviceType, pool, location?, properties?⟩ := a
  cases flag <;> cases location? <;>
    simp [Scan.all, occurrences, valuesOf, List.filter_map, Function.comp_def]

theorem all_perm {a : Announcement} {found : List Occurrence} (h : found.Perm a.occurrences)
    (flag : Flag) : (Scan.all ⟨found, []⟩ flag).Perm (a.valuesOf flag) := by
  rw [← all_occurrences]
  exact (h.filter _).map _

/-- The order of the arguments does not matter to a flag that is given at most once. -/
theorem last?_of_perm {a : Announcement} {found : List Occurrence} (h : found.Perm a.occurrences)
    {flag : Flag} (hflag : flag ≠ .property) :
    Scan.last? ⟨found, []⟩ flag = (a.valuesOf flag).getLast? := by
  have hperm := all_perm h flag
  have hlength : (a.valuesOf flag).length ≤ 1 := by
    obtain ⟨environment, serviceType, pool, location?, properties?⟩ := a
    cases flag <;> cases location? <;> simp [valuesOf] at hflag ⊢
  rw [Scan.last?]
  generalize a.valuesOf flag = values at hperm hlength
  match values with
  | [] => rw [List.perm_nil.mp hperm]
  | [value] => rw [List.perm_singleton.mp hperm]
  | _ :: _ :: _ => simp at hlength

/-- The properties that a scan holds are those of the announcement. -/
theorem ofTexts_of_perm {a : Announcement} (hwritable : a.HasWritableProperties)
    {found : List Occurrence} (h : found.Perm a.occurrences) :
    Properties.ofTexts (Scan.all ⟨found, []⟩ .property) =
      a.properties?.getD Dictionary.empty := by
  have htexts : (Scan.all ⟨found, []⟩ .property).Perm (a.entries.map Properties.text) :=
    all_perm h .property
  cases hcase : a.properties? with
  | none =>
    rw [entries, hcase] at htexts
    rw [List.perm_nil.mp htexts]
    rfl
  | some properties =>
    rw [entries, hcase] at htexts
    exact Properties.ofTexts_of_perm (hwritable properties hcase).2 htexts

/-- The flags that a scan holds say of a service what the announcement says. -/
theorem ofFields_of_perm {a : Announcement} (hwritable : a.HasWritableProperties)
    {found : List Occurrence} (h : found.Perm a.occurrences) (usage : String) :
    ofFields (Scan.fields ⟨found, []⟩) usage = .ok a := by
  have hfields : Scan.fields ⟨found, []⟩ =
      ⟨some a.environment, some a.serviceType, some a.pool, a.location?,
        a.properties?.getD Dictionary.empty⟩ := by
    have hlocation : a.location?.toList.getLast? = a.location? := by cases a.location? <;> rfl
    rw [Scan.fields, ofTexts_of_perm hwritable h]
    simp [last?_of_perm h, valuesOf, hlocation]
  have hproperties : (if (a.properties?.getD Dictionary.empty).isEmpty then none
      else some (a.properties?.getD Dictionary.empty)) = a.properties? := by
    cases hcase : a.properties? with
    | none => rfl
    | some properties =>
      rw [Option.getD_some, if_neg]
      simpa [Dictionary.isEmpty] using (hwritable properties hcase).1
  rw [hfields]
  exact congrArg (fun p => Except.ok { a with properties? := p }) hproperties

/-- Properties that a scan holds can be written. -/
theorem hasWritableProperties_of_ofFields {scan : Scan} {usage : String} {a : Announcement}
    (h : ofFields scan.fields usage = .ok a) : a.HasWritableProperties := by
  intro properties hproperties
  rw [properties?_of_ofFields h] at hproperties
  split at hproperties
  next => cases hproperties
  next hempty =>
    cases hproperties
    refine ⟨?_, fun entry hentry => Properties.isKey_of_mem_ofTexts hentry⟩
    simpa [Dictionary.isEmpty] using hempty

end Announcement

/-- A word that selects `add`, a target and the arguments of an announcement in any order. -/
theorem outcome_of_perm_options {setting : Setting} {world : World} {word : String}
    {target? : Option String} {options : List String} {hosts : Hosts} {a : Announcement}
    (hword : Subcommand.ofWord? (Subcommand.selector [word]) = some .add)
    (htarget : ∀ target ∈ target?, Token.beginsWithHyphen target = false)
    (hhosts : (setting.aliases.aliasesIn world).resolve (target?.getD defaultTarget) = .ok hosts)
    (hwritable : a.HasWritableProperties) (hoptions : options.Perm a.options) :
    ((Request.ofArguments setting (word :: (target?.toList ++ options))).run world).outcome =
      .ok (.add hosts .json (.announcement a)) := by
  have hselected : Subcommand.ofWord?
      (Subcommand.selector (word :: (target?.toList ++ options))) = some .add := hword
  have htake : takeTarget (target?.toList ++ options) =
      (target?.getD defaultTarget, options) := by
    refine takeTarget_toList_append htarget fun option hfirst => ?_
    have hmem : option ∈ a.options := hoptions.mem_iff.mp (List.mem_of_mem_head? hfirst)
    exact Announcement.beginsWithHyphen_of_mem_options hmem
  obtain ⟨found, hfound, hscan⟩ := Announcement.scan_of_perm_options hwritable hoptions
  have hmissing {flag : Flag} (hflag : flag ≠ .property) (hvalues : a.valuesOf flag = []) :
      Scan.last? ⟨found, []⟩ flag = none := by
    rw [Announcement.last?_of_perm hfound hflag, hvalues]
    rfl
  have hsource : Scan.source? ⟨found, []⟩ setting.home? = none := by
    rw [Scan.source?, hmissing (by decide) rfl, hmissing (by decide) rfl]
    rfl
  have hmode : Scan.outputMode ⟨found, []⟩ = .json := by
    rw [Scan.outputMode, hmissing (by decide) rfl]
    rfl
  have hdefinition : ((Scan.definition ⟨found, []⟩ setting.home?).run world).outcome =
      .ok (.announcement a) := by
    rw [Scan.definition, hsource]
    change (Dialogue.run world (Scan.fieldDefinition _)).outcome = _
    rw [Scan.outcome_fieldDefinition, Announcement.ofFields_of_perm hwritable hfound]
    rfl
  have hresolve : setting.resolve world (target?.toList ++ options) = .ok hosts := by
    rw [Setting.resolve, htake]
    exact hhosts
  have hscanned : Scan.ofArguments Subcommand.add.flags (takeTarget (target?.toList ++ options)).2 =
      .ok ⟨found, []⟩ := by
    rw [htake]
    exact hscan
  rw [Request.outcome_ofArguments, hselected, ← hmode]
  exact Request.outcome_ofAddArguments_of_scan hresolve hscanned rfl hdefinition

/-- Every announcement whose properties can be written comes back from the arguments that write it,
    whatever their order, the target and the texts of the announcement are. And no command line
    gives an announcement that could not be written in this way. -/
theorem Request.announcement_of_arguments (setting : Setting) (world : World) :
    (∀ (word : String) (target? : Option String) (options : List String) (hosts : Hosts)
      (a : Announcement),
      Subcommand.ofWord? (Subcommand.selector [word]) = some .add →
      (∀ target ∈ target?, Token.beginsWithHyphen target = false) →
      (setting.aliases.aliasesIn world).resolve (target?.getD defaultTarget) = .ok hosts →
      a.HasWritableProperties → options.Perm a.options →
      ((Request.ofArguments setting (word :: (target?.toList ++ options))).run world).outcome =
        .ok (.add hosts .json (.announcement a))) ∧
    (∀ (arguments : List String) (hosts : Hosts) (output : OutputMode) (a : Announcement),
      ((Request.ofArguments setting arguments).run world).outcome =
        .ok (.add hosts output (.announcement a)) →
      a.HasWritableProperties) := by
  constructor
  · intro word target? options hosts a hword htarget hhosts hwritable hoptions
    exact outcome_of_perm_options hword htarget hhosts hwritable hoptions
  · intro arguments hosts output a h
    obtain ⟨scan, hdefinition⟩ := exists_scan_of_outcome_add h
    obtain ⟨_, _, _, _, heq⟩ | ⟨_, hfields, heq⟩ := scan.outcome_definition_eq_ok world hdefinition
    · cases heq
    · cases heq
      exact Announcement.hasWritableProperties_of_ofFields hfields

/-- A target that is an alias, two properties and fields that look like flags, last argument
    first. -/
theorem Request.announcement_of_reversed_arguments :
    let setting : Setting := ⟨"home", .table (Dictionary.ofPairs [("lab", "a, b,")])⟩
    let world : World := ⟨fun _ => .error .notFound, .error .closed⟩
    let properties : Properties := Dictionary.ofPairs [("-", "=x"), ("k", "")]
    let a : Announcement := ⟨"", "-t", "=\n", some "--", some properties⟩
    let hosts : Hosts := ⟨["a", "b"], by decide⟩
    let arguments := ["-Dk=", "-D-==x", "--location=--", "--pool==\n", "--type=-t", "--environment="]
    ((Request.ofArguments setting ("Add" :: "lab" :: arguments)).run world).outcome =
        .ok (.add hosts .json (.announcement a)) ∧ a.HasWritableProperties := by
  intro setting world properties a hosts arguments
  have hwritable : a.HasWritableProperties := by
    intro p hp
    cases hp
    decide
  have h := (Request.announcement_of_arguments setting world).1 "Add" (some "lab") arguments hosts a
    (by decide) (by decide) (by decide) hwritable (by decide)
  exact ⟨h, (Request.announcement_of_arguments setting world).2 _ hosts .json a h⟩

end Discovery
