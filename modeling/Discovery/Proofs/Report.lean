import Discovery.Proofs.Request.Warnings
import Discovery.Report

namespace Discovery

variable {world : World} {setting : Setting} {arguments : List String}

namespace Filter

theorem admits_ofLevel (level : Verbosity) (event : Event) :
    (ofLevel level).admits event = level.admits event.severity :=
  rfl

theorem ofSetting_off : ofSetting (some "off") = ofLevel .off := by
  decide +kernel

end Filter

namespace Request

theorem outcome_answer :
    ((answer setting arguments).run world).outcome =
      ((ofArguments setting arguments).run world).outcome.map printed := by
  rw [answer, Dialogue.outcome_bind]
  cases ((ofArguments setting arguments).run world).outcome with
  | error failure => rfl
  | ok request => simp [Dialogue.outcome_bind, ok_bind, Except.map]

/-- That a request is ready is worth no warning. -/
theorem warnings_answer :
    ((answer setting arguments).run world).warnings =
      ((ofArguments setting arguments).run world).warnings := by
  rw [answer, Dialogue.warnings_bind]
  cases ((ofArguments setting arguments).run world).outcome with
  | error failure => exact List.append_nil _
  | ok request =>
    have hready : request.readyEvents.filter (fun event => event.severity = .warning) = [] := by
      unfold readyEvents
      split <;> rfl
    simp only [Dialogue.warnings_bind, Dialogue.warnings_notes, hready, Dialogue.outcome_notes]
    exact List.append_nil _

theorem printed_of_helpText?_eq_none {request : Request} (h : request.helpText? = none) :
    request.printed = request.plan.print .pretty ++ "\n" := by
  rw [printed, h]

end Request

namespace Report

/-- The report of a trace when some of its events are written to the log, whatever decides about
    that. -/
def ofSelection (time : String) (selects : Event → Bool) (display : Display)
    (trace : Trace Failure String) : Report :=
  let last := ofOutcome display.stack? trace.outcome
  { last with
    errors := String.join ((trace.events.filter selects).map (Event.line display.coloured time)) ++
      last.errors }

/-- The log stands in front of the message of a failure and nowhere else. -/
theorem ofSelection_ends (time : String) (selects : Event → Bool) (display : Display)
    (trace : Trace Failure String) :
    let last := ofOutcome display.stack? trace.outcome
    let report := ofSelection time selects display trace
    report.code = last.code ∧ report.output = last.output ∧
      ∃ log, report.errors = log ++ last.errors :=
  ⟨rfl, rfl, _, rfl⟩

variable {environment : Environment}

/-- A filter is one way to decide which events are written. -/
theorem ofEnvironment_eq_ofSelection (time stack : String) (log? : Option String) :
    ofEnvironment time stack { environment with log? } world arguments =
      ofSelection time (Filter.ofSetting log?).admits (environment.display stack)
        ((Request.answer environment.setting arguments).run world) :=
  rfl

theorem ofEnvironment_off (time stack : String) :
    ofEnvironment time stack { environment with log? := some "off" } world arguments =
      ofOutcome (environment.display stack).stack?
        ((Request.answer environment.setting arguments).run world).outcome := by
  have hnone (events : List Event) : events.filter (Filter.ofSetting (some "off")).admits = [] := by
    refine List.filter_eq_nil_iff.mpr fun event _ => ?_
    rw [Filter.ofSetting_off, Filter.admits_ofLevel]
    exact Bool.false_ne_true
  rw [ofEnvironment_eq_ofSelection, ofSelection, hnone]
  simp

theorem errors_ofEnvironment_default (time stack : String) :
    (ofEnvironment time stack { environment with log? := none } world arguments).errors =
      String.join (((Request.ofArguments environment.setting arguments).run world).warnings.map
        (Event.line environment.coloured time)) ++
          (ofOutcome (environment.display stack).stack?
            ((Request.answer environment.setting arguments).run world).outcome).errors := by
  rw [← Request.warnings_answer]
  rfl

/-- A run ends with what its command line was interpreted as, whatever is written to the log. -/
theorem ofEnvironment_ends (environment : Environment) (world : World) (arguments : List String)
    (log? : Option String) (time stack : String) :
    let last := ofOutcome (environment.display stack).stack?
      (((Request.ofArguments environment.setting arguments).run world).outcome.map Request.printed)
    let report := ofEnvironment time stack { environment with log? } world arguments
    report.code = last.code ∧ report.output = last.output ∧
      ∃ log, report.errors = log ++ last.errors := by
  rw [← Request.outcome_answer, ofEnvironment_eq_ofSelection]
  exact ofSelection_ends _ _ _ _

/-- By default a request is accompanied by its warnings alone. -/
theorem errors_of_request {request : Request}
    (h : ((Request.ofArguments environment.setting arguments).run world).outcome = .ok request)
    (time stack : String) :
    (ofEnvironment time stack { environment with log? := none } world arguments).errors =
      String.join (((Request.ofArguments environment.setting arguments).run world).warnings.map
        (Event.line environment.coloured time)) := by
  rw [errors_ofEnvironment_default, Request.outcome_answer, h]
  exact String.append_empty

/-- A message of a failure is followed by its cause, if it has one, and by the calls that led to it,
    if they are shown, each in a paragraph of its own. -/
theorem report_failure (failure : Failure) (stack : String) :
    failure.report (environment.display stack).stack? = "Error: " ++ failure.message ++
      (match failure.cause? with
        | some cause => "\n\nCaused by:\n    " ++ cause
        | none => "") ++
      (if environment.showsStack then
        "\n\nStack backtrace:\n" ++ String.ofList (Text.trimEnd stack.toList) else "") ++ "\n" := by
  unfold Failure.report Environment.display
  cases environment.showsStack <;> rfl

/-- A run reports what its command line was interpreted as. Help is shown without white space at its
    end, any other request as its plan, each with exit code 0; a failure is shown behind the log,
    with exit code 1 and no output. How much is written to the log, and which of the events, makes
    no difference to anything but the log, which comes first. Unless the user asks for more or less,
    it is empty for a request, but for one line where flags have no effect beside a document. -/
theorem report_of_run (environment : Environment) (world : World) (arguments : List String) :
    let outcome := ((Request.ofArguments environment.setting arguments).run world).outcome
    let report (log? : Option String) (time stack : String) : Report :=
      ofEnvironment time stack { environment with log? } world arguments
    (∀ log? time stack topic? text, outcome = .ok (.help topic? text) →
      (report log? time stack).code = 0 ∧
        (report log? time stack).output = String.ofList (Text.trimEnd text.toList) ++ "\n") ∧
    (∀ log? time stack request, outcome = .ok request → request.helpText? = none →
      (report log? time stack).code = 0 ∧
        (report log? time stack).output = request.plan.print .pretty ++ "\n") ∧
    (∀ log? time stack failure, outcome = .error failure →
      (report log? time stack).code = 1 ∧ (report log? time stack).output = "" ∧
        ∃ log, (report log? time stack).errors = log ++ ("Error: " ++ failure.message ++
          (match failure.cause? with
            | some cause => "\n\nCaused by:\n    " ++ cause
            | none => "") ++
          (if environment.showsStack then
            "\n\nStack backtrace:\n" ++ String.ofList (Text.trimEnd stack.toList) else "") ++
          "\n")) ∧
    (∀ log? time other? otherTime stack,
      (report log? time stack).code = (report other? otherTime stack).code ∧
      (report log? time stack).output = (report other? otherTime stack).output ∧
      ∃ log, (report log? time stack).errors =
        log ++ (report (some "off") otherTime stack).errors) ∧
    (∀ selects time otherTime stack,
      let selected := ofSelection time selects (environment.display stack)
        ((Request.answer environment.setting arguments).run world)
      let silent := report (some "off") otherTime stack
      selected.code = silent.code ∧ selected.output = silent.output ∧
        ∃ log, selected.errors = log ++ silent.errors) ∧
    ∀ time stack request, outcome = .ok request →
      (Request.GivesFieldsBesideDocument arguments →
        (∃ hosts output d, request = .add hosts output (.document d)) ∧
        (report none time stack).errors =
          (if environment.coloured then "\x1b[2m" ++ time ++ "\x1b[0m \x1b[33m WARN\x1b[0m "
            else time ++ "  WARN ") ++ "raw JSON service definition given, " ++
          "ignoring environment/type/pool/location flags\n") ∧
      (¬ Request.GivesFieldsBesideDocument arguments → (report none time stack).errors = "") := by
  intro outcome report
  have houtput : ((Request.answer environment.setting arguments).run world).outcome =
      outcome.map Request.printed := Request.outcome_answer
  let last (stack : String) : Report :=
    ofOutcome (environment.display stack).stack? (outcome.map Request.printed)
  have hlast (log? : Option String) (time stack : String) :
      (report log? time stack).code = (last stack).code ∧
        (report log? time stack).output = (last stack).output ∧
        ∃ log, (report log? time stack).errors = log ++ (last stack).errors :=
    ofEnvironment_ends environment world arguments log? time stack
  have hoff (time stack : String) : report (some "off") time stack = last stack := by
    simp only [last, ← houtput]
    exact ofEnvironment_off time stack
  refine ⟨fun log? time stack topic? text hhelp => ?_,
    fun log? time stack request hrequest hnoHelp => ?_, fun log? time stack failure hfailure => ?_,
    fun log? time other? otherTime stack => ?_, fun selects time otherTime stack => ?_,
    fun time stack request hrequest => ?_⟩
  · obtain ⟨hcode, hshown, _⟩ := hlast log? time stack
    simp only [hcode, hshown, last, hhelp]
    exact ⟨rfl, rfl⟩
  · obtain ⟨hcode, hshown, _⟩ := hlast log? time stack
    simp only [hcode, hshown, last, hrequest, ← Request.printed_of_helpText?_eq_none hnoHelp]
    exact ⟨rfl, rfl⟩
  · obtain ⟨hcode, hshown, log, herrors⟩ := hlast log? time stack
    rw [hcode, hshown, herrors, ← report_failure]
    simp only [last, hfailure]
    exact ⟨rfl, rfl, log, rfl⟩
  · obtain ⟨hcode, hshown, herrors⟩ := hlast log? time stack
    obtain ⟨hotherCode, hotherShown, _⟩ := hlast other? otherTime stack
    rw [hoff]
    exact ⟨hcode.trans hotherCode.symm, hshown.trans hotherShown.symm, herrors⟩
  · intro selected silent
    have hsilent : silent = last stack := hoff otherTime stack
    simp only [hsilent, last, ← houtput]
    exact ofSelection_ends time selects _ _
  · have herrors := errors_of_request hrequest time stack
    obtain ⟨hgives, hwarned, hadds⟩ | ⟨hgives, hnone⟩ := Request.warnings_of_outcome hrequest
    · refine ⟨fun _ => ⟨hadds, ?_⟩, fun hnot => absurd hgives hnot⟩
      rw [herrors, hwarned]
      cases environment.coloured <;>
        simp [Event.line, Event.styled, Event.severity, Severity.label, Severity.style,
          Event.message, Event.details, ← String.toList_inj]
    · refine ⟨fun h => absurd h hgives, fun _ => ?_⟩
      rw [herrors, hnone]
      rfl

/-- Help, a plan, a document beside an empty environment, and a document that is not there, for a
    user who objects to colours and for one who wants to see what led to a failure. -/
theorem report_of_runs :
    let plain : Environment := { plain? := some "1" }
    let curious : Environment := { stack? := some "1" }
    let world : World := ⟨fun _ => .error .notFound, .error .closed⟩
    let hosts : Hosts := ⟨["http://localhost:8080"], by decide⟩
    let report (environment : Environment) (arguments : List String) (log? : Option String) : Report :=
      ofEnvironment "12:00" "   0: main\n" { environment with log? } world arguments
    (report plain ["bogus"] (some "DEBUG")).code = 0 ∧
      (report plain ["bogus"] (some "DEBUG")).output =
        String.ofList (Text.trimEnd Subcommand.combinedUsage.toList) ++ "\n" ∧
      (report curious ["show"] none).output =
        (Request.plan (.show hosts .json)).print .pretty ++ "\n" ∧
      (report curious ["show"] none).errors = "" ∧
      (report plain ["add", "-e", "", "-j", "[]"] none).errors =
        "12:00  WARN raw JSON service definition given, " ++
          "ignoring environment/type/pool/location flags\n" ∧
      (report curious ["add", "-e", "", "-j", "[]"] none).errors =
        "\x1b[2m12:00\x1b[0m \x1b[33m WARN\x1b[0m raw JSON service definition given, " ++
          "ignoring environment/type/pool/location flags\n" ∧
      (report curious ["add", "-f", "x"] none).code = 1 ∧
      ∃ log, (report curious ["add", "-f", "x"] none).errors = log ++
        ("Error: failed to read JSON file x" ++
          ("\n\nCaused by:\n    " ++ "No such file or directory (os error 2)") ++
          "\n\nStack backtrace:\n   0: main" ++ "\n") := by
  intro plain curious world hosts report
  let setting : Setting := ⟨none, .nowhere⟩
  have hadd : Subcommand.ofWord? (Subcommand.selector ["add"]) = some .add := by decide
  have hshow : Subcommand.ofWord? (Subcommand.selector ["show"]) = some .show := by decide
  have hresolve : (setting.aliases.aliasesIn world).resolve defaultTarget = .ok hosts :=
    Aliases.resolve_eq_ok_iff.mpr (by decide)
  have hbogus : ((Request.ofArguments setting ["bogus"]).run world).outcome =
      .ok (.help none Subcommand.combinedUsage) := by
    have hnone : Subcommand.ofWord? (Subcommand.selector ["bogus"]) = none := by decide
    rw [Request.outcome_ofArguments, hnone]
  have hplan : ((Request.ofArguments setting ["show"]).run world).outcome =
      .ok (.show hosts .json) := by
    have htarget : setting.resolve world [] = .ok hosts := hresolve
    rw [Request.outcome_ofArguments_of_word world setting hshow, Request.ofSubcommandArguments,
      Request.ofShowArguments, Subcommand.outcome_withHosts, htarget]
    rfl
  have hdocument : ((Request.ofArguments setting ["add", "-e", "", "-j", "[]"]).run world).outcome =
      .ok (.add hosts .json (.document (.array []))) := by
    have htarget : setting.resolve world ["-e", "", "-j", "[]"] = .ok hosts := hresolve
    rw [Request.outcome_ofArguments_of_word world setting hadd, Request.ofSubcommandArguments,
      Request.ofAddArguments, Subcommand.outcome_withHosts, htarget]
    rfl
  have hmissing : ((Request.ofArguments setting ["add", "-f", "x"]).run world).outcome =
      .error (.unreadableFile "x" .notFound) := by
    have htarget : setting.resolve world ["-f", "x"] = .ok hosts := hresolve
    rw [Request.outcome_ofArguments_of_word world setting hadd, Request.ofSubcommandArguments,
      Request.ofAddArguments, Subcommand.outcome_withHosts, htarget]
    rfl
  have hgives : Request.GivesFieldsBesideDocument ["add", "-e", "", "-j", "[]"] :=
    ⟨hadd, ⟨[⟨.environment, ""⟩, ⟨.document, "[]"⟩], []⟩, rfl, Or.inl (by decide), .environment,
      by decide, by decide⟩
  have hother : ¬ Request.GivesFieldsBesideDocument ["show"] := fun h =>
    absurd (hshow.symm.trans h.selected) (by decide)
  obtain ⟨hhelp, _⟩ := report_of_run plain world ["bogus"]
  obtain ⟨_, hshown, _, _, _, hquiet⟩ := report_of_run curious world ["show"]
  obtain ⟨_, _, _, _, _, hwarned⟩ := report_of_run plain world ["add", "-e", "", "-j", "[]"]
  obtain ⟨_, _, _, _, _, hcoloured⟩ := report_of_run curious world ["add", "-e", "", "-j", "[]"]
  obtain ⟨_, _, hfailed, _⟩ := report_of_run curious world ["add", "-f", "x"]
  obtain ⟨hcode, houtput⟩ := hhelp (some "DEBUG") "12:00" "   0: main\n" none _ hbogus
  obtain ⟨hfailedCode, _, herrors⟩ := hfailed none "12:00" "   0: main\n" _ hmissing
  exact ⟨hcode, houtput, (hshown none "12:00" "   0: main\n" _ hplan rfl).2,
    (hquiet "12:00" "   0: main\n" _ hplan).2 hother,
    ((hwarned "12:00" "   0: main\n" _ hdocument).1 hgives).2,
    ((hcoloured "12:00" "   0: main\n" _ hdocument).1 hgives).2, hfailedCode, herrors⟩

/-- Where the calls that led to a failure are shown, it is they that come last and not its message.
    Help on `add` is shown without a warning, whatever stands in front of the flag that asks for
    it. -/
theorem calls_after_message :
    let curious : Environment := { stack? := some "1" }
    let world : World := ⟨fun _ => .error .notFound, .error .closed⟩
    let outcome (arguments : List String) : Except Failure Request :=
      ((Request.ofArguments curious.setting arguments).run world).outcome
    let report (arguments : List String) : Report :=
      ofEnvironment "12:00" "   0: main" curious world arguments
    (∃ failure, outcome ["show", ","] = .error failure ∧ failure.cause? = none ∧
      ∀ log, (report ["show", ","]).errors ≠ log ++ ("Error: " ++ failure.message ++ "\n")) ∧
    outcome ["add", "-e", "x", "-j", "\x7b\x7d", "-h"] = .ok (Subcommand.help .add) ∧
      (report ["add", "-e", "x", "-j", "\x7b\x7d", "-h"]).errors = "" := by
  intro curious world outcome report
  let setting : Setting := ⟨none, .nowhere⟩
  have hadd : Subcommand.ofWord? (Subcommand.selector ["add"]) = some .add := by decide
  have hshow : Subcommand.ofWord? (Subcommand.selector ["show"]) = some .show := by decide
  have hfailure : outcome ["show", ","] = .error (.noHosts ",") := by
    have htarget : setting.resolve world [","] = .error (.noHosts ",") :=
      Aliases.resolve_of_hostEntries_eq_nil (by decide)
    refine (Request.outcome_ofArguments_of_word world setting hshow _).trans ?_
    rw [Request.ofSubcommandArguments, Request.ofShowArguments, Subcommand.outcome_withHosts, htarget]
    rfl
  have hhelp : outcome ["add", "-e", "x", "-j", "\x7b\x7d", "-h"] =
      .ok (Subcommand.help .add) := by
    have htarget : setting.resolve world ["-e", "x", "-j", "\x7b\x7d", "-h"] =
        .ok ⟨["http://localhost:8080"], by decide⟩ := Aliases.resolve_eq_ok_iff.mpr (by decide)
    refine (Request.outcome_ofArguments_of_word world setting hadd _).trans ?_
    rw [Request.ofSubcommandArguments, Request.ofAddArguments, Subcommand.outcome_withHosts, htarget]
    rfl
  refine ⟨⟨.noHosts ",", hfailure, rfl, fun log heq => ?_⟩, hhelp, ?_⟩
  · obtain ⟨_, _, before, herrors⟩ :=
      ofEnvironment_ends curious world ["show", ","] none "12:00" "   0: main"
    rw [show ((Request.ofArguments curious.setting ["show", ","]).run world).outcome =
      .error (.noHosts ",") from hfailure] at herrors
    -- the last character but one is that of the calls, while the message ends with a quote
    have hlast := congrArg (fun text : String => text.toList.reverse[1]?) (herrors.symm.trans heq)
    have hends {text : String} (hlength : 1 < text.toList.reverse.length) (front : String) :
        (front ++ text).toList.reverse[1]? = text.toList.reverse[1]? := by
      rw [String.toList_append, List.reverse_append, List.getElem?_append_left hlength]
    rw [hends (by decide +kernel), hends (by decide +kernel)] at hlast
    exact absurd hlast (by decide +kernel)
  · have herrors := errors_of_request hhelp "12:00" "   0: main"
    obtain ⟨_, _, _, _, _, hadds⟩ | ⟨_, hnone⟩ := Request.warnings_of_outcome hhelp
    · cases hadds
    · exact herrors.trans (by rw [hnone]; rfl)

end Report

end Discovery
