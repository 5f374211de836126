import Discovery.Proofs.Request.Deletion
import Discovery.Proofs.Target.Hosts
import Discovery.Proofs.Target.Resolution

namespace Discovery

variable {world : World} {setting : Setting} {arguments : List String} {request : Request}

theorem Setting.exists_text_of_resolve {hosts : Hosts}
    (h : setting.resolve world arguments = .ok hosts) : ∃ text, Hosts.ofText? text = some hosts :=
  ⟨_, Aliases.resolve_eq_ok_iff.mp h⟩

namespace Request

/-- A command line that is no request for help leads to hosts that were found in a text. -/
theorem exists_text_of_outcome
    (h : ((ofArguments setting arguments).run world).outcome = .ok request) :
    (∃ topic? text, request = .help topic? text) ∨
      ∃ text hosts, request.hosts? = some hosts ∧ Hosts.ofText? text = some hosts := by
  rw [outcome_ofArguments] at h
  split at h
  next =>
    obtain rfl | ⟨hosts, _, _, hhosts, _, _, _, rfl⟩ := outcome_ofAddArguments_eq_ok h
    · exact Or.inl ⟨_, _, rfl⟩
    · obtain ⟨text, htext⟩ := Setting.exists_text_of_resolve hhosts
      exact Or.inr ⟨text, hosts, rfl, htext⟩
  next =>
    obtain rfl | ⟨hosts, _, hhosts, _, _, rfl⟩ := outcome_ofShowArguments_eq_ok h
    · exact Or.inl ⟨_, _, rfl⟩
    · obtain ⟨text, htext⟩ := Setting.exists_text_of_resolve hhosts
      exact Or.inr ⟨text, hosts, rfl, htext⟩
  next =>
    obtain rfl | ⟨_, hosts, _, _, hhosts, _, _, rfl⟩ := outcome_ofDeleteArguments_eq_ok h
    · exact Or.inl ⟨_, _, rfl⟩
    · obtain ⟨text, htext⟩ := Setting.exists_text_of_resolve hhosts
      exact Or.inr ⟨text, hosts, rfl, htext⟩
  next =>
    cases h
    exact Or.inl ⟨_, _, rfl⟩

/-- A text of hosts has the hosts between its commas. It has none exactly when there is nothing but
    commas and white space in it; otherwise its hosts stand for themselves, and written with commas
    and any white space around them they are read back, as all such hosts are. Texts put together
    with a comma have the hosts of both in order. So every request for something other than help
    goes to at least one host, and to nothing that is none. -/
theorem hosts_of_text :
    (∀ text, Hosts.ofText? text = none ↔
      ∀ c ∈ text.toList, c = ',' ∨ Text.isBlank c = true) ∧
    (∀ text hosts, Hosts.ofText? text = some hosts →
      (∀ entry ∈ hosts.entries, IsHost entry) ∧
      ∀ items : List SpacedEntry, items.map SpacedEntry.entry = hosts.entries →
        Hosts.ofText? (SpacedEntry.listText items) = some hosts) ∧
    (∀ items : List SpacedEntry, (∀ item ∈ items, IsHost item.entry) →
      (Hosts.ofText? (SpacedEntry.listText items)).elim [] Hosts.entries =
        items.map SpacedEntry.entry) ∧
    (∀ a b, (Hosts.ofText? (a ++ "," ++ b)).elim [] Hosts.entries =
      (Hosts.ofText? a).elim [] Hosts.entries ++ (Hosts.ofText? b).elim [] Hosts.entries) ∧
    ∀ (setting : Setting) (world : World) (arguments : List String) (request : Request),
      ((ofArguments setting arguments).run world).outcome = .ok request →
        (∃ topic? text, request = .help topic? text) ∨
          ∃ hosts, request.hosts? = some hosts ∧ hosts.entries ≠ [] ∧
            ∀ entry ∈ hosts.entries, IsHost entry := by
  have hentries {text : String} {hosts : Hosts} (h : Hosts.ofText? text = some hosts) :
      ∀ entry ∈ hosts.entries, IsHost entry := by
    intro entry hmem
    rw [← Hosts.ofText?_eq_some_iff.mp h] at hmem
    exact isHost_of_mem_hostEntries hmem
  refine ⟨fun text => Hosts.ofText?_eq_none_iff.trans hostEntries_eq_nil_iff,
    fun text hosts h => ⟨hentries h, fun items hitems => ?_⟩, fun items hitems => ?_,
    fun a b => ?_, fun setting world arguments request h => ?_⟩
  · refine Hosts.ofText?_eq_some_iff.mpr ?_
    rw [SpacedEntry.hostEntries_listText, hitems]
    intro item hmem
    exact hentries h item.entry (hitems ▸ List.mem_map_of_mem hmem)
  · rw [Hosts.elim_ofText?, SpacedEntry.hostEntries_listText hitems]
  · simp only [Hosts.elim_ofText?, hostEntries_append]
  · obtain hhelp | ⟨text, hosts, hhosts, htext⟩ := exists_text_of_outcome h
    · exact Or.inl hhelp
    · exact Or.inr ⟨hosts, hhosts, hosts.nonempty, hentries htext⟩

/-- Two hosts between blank pieces, one of which has a space in it, and an alias for such a text as
    the target of `delete`. -/
theorem hosts_of_blank_pieces :
    let text := ",\u2003a b ,, http://c:1\t,"
    let hosts : Hosts := ⟨["a b", "http://c:1"], by decide⟩
    let items : List SpacedEntry :=
      [⟨"a b", "\n", "", by decide, by decide⟩, ⟨"http://c:1", " ", "\u0085", by decide, by decide⟩]
    let setting : Setting := ⟨"home", .table (Dictionary.ofPairs [("lab", text)])⟩
    let world : World := ⟨fun _ => .error .notFound, .error .closed⟩
    Hosts.ofText? text = some hosts ∧ (∀ entry ∈ hosts.entries, IsHost entry) ∧
      Hosts.ofText? (SpacedEntry.listText items) = some hosts ∧
      (Hosts.ofText? (SpacedEntry.listText items)).elim [] Hosts.entries = ["a b", "http://c:1"] ∧
      ((ofArguments setting ["delete", "lab", "-x"]).run world).outcome =
        .ok (.delete hosts "-x") ∧
      ∃ found, (Request.delete hosts "-x").hosts? = some found ∧ found.entries ≠ [] ∧
        ∀ entry ∈ found.entries, IsHost entry := by
  intro text hosts items setting world
  have htext : Hosts.ofText? text = some hosts := by decide
  have hword : Subcommand.ofWord? (Subcommand.selector ["delete"]) = some .delete := by decide
  have houtcome : ((ofArguments setting ["delete", "lab", "-x"]).run world).outcome =
      .ok (.delete hosts "-x") := by
    rw [outcome_ofArguments_of_word world setting hword, ofSubcommandArguments,
      outcome_ofDeleteArguments]
    exact deletion_eq_ok_iff.mpr ⟨some "lab", [], rfl, by decide, Or.inl rfl, by decide, by decide⟩
  obtain ⟨_, hread, hwritten, _, hrequest⟩ := hosts_of_text
  obtain ⟨hentries, hagain⟩ := hread text hosts htext
  refine ⟨htext, hentries, hagain items rfl, hwritten items ?_, houtcome, ?_⟩
  · intro item hmem
    have hentry : item.entry ∈ hosts.entries := List.mem_map_of_mem (f := SpacedEntry.entry) hmem
    exact hentries item.entry hentry
  · exact (hrequest setting world _ _ houtcome).resolve_left nofun

end Request

end Discovery
