import Discovery.Request.Plan
import Discovery.Service.Loading
import Discovery.Setting
import Discovery.Target.Resolution

namespace Discovery

namespace Subcommand

/-- Scans the arguments behind the target and goes on with the flags found. Asking for help ends the
    interpretation with a request for it; arguments that belong to no flag are not allowed. -/
def withFlags (command : Subcommand) (arguments : List String)
    (next : Scan → Dialogue Failure Request) : Dialogue Failure Request :=
  match Scan.ofArguments command.flags arguments with
  | .ok scan =>
    if scan.extra = [] then next scan else .fail (.extraArguments scan.extra command.usage)
  | .error stop =>
    match stop.failure? command.usage with
    | some failure => .fail failure
    | none => pure command.help

/-- Takes the target off the arguments and resolves it, then goes on with the hosts and the other
    arguments. -/
def withHosts (setting : Setting) (arguments : List String)
    (next : Hosts → List String → Dialogue Failure Request) : Dialogue Failure Request := do
  let (target, rest) := takeTarget arguments
  let aliases ← setting.aliases.load
  let hosts ← aliases.resolveTarget target
  next hosts rest

end Subcommand

namespace Scan

/-- The output mode that is asked for. -/
def outputMode (scan : Scan) : OutputMode :=
  .ofValue (scan.last? .output)

/-- What the flags say about a service. -/
def fields (scan : Scan) : Announcement.Fields where
  environment? := scan.last? .environment
  serviceType? := scan.last? .serviceType
  pool? := scan.last? .pool
  location? := scan.last? .location
  properties := .ofTexts (scan.all .property)

/-- The source of the document that the flags name, if they name one. -/
def source? (scan : Scan) (home? : Option String) : Option Source :=
  Source.ofFlags? home? (scan.last? .document) (scan.last? .documentFile)

/-- The events before a document is loaded. -/
def loadingEvents (scan : Scan) (source : Source) : List Event :=
  if scan.hasFields then [.fieldsIgnored, .documentLoading source] else [.documentLoading source]

/-- The definition in a document. Properties cannot be added to it, while the other flags that
    describe a service have no effect. -/
def documentDefinition (scan : Scan) (source : Source) : Dialogue Failure Definition := do
  if scan.has .property then
    let given := (scan.all .property).map fun text => "-D" ++ text
    .fail (.conflictingInput given (Subcommand.usage .add))
  else
    Dialogue.notes (scan.loadingEvents source)
    let document ← source.load
    pure (.document document)

/-- The definition that the flags make up by themselves. -/
def fieldDefinition (scan : Scan) : Dialogue Failure Definition := do
  Dialogue.notes ((Properties.ignored (scan.all .property)).map .propertyIgnored)
  let announcement ← Dialogue.ofExcept (Announcement.ofFields scan.fields (Subcommand.usage .add))
  pure (.announcement announcement)

/-- The definition of the service to add. -/
def definition (scan : Scan) (home? : Option String) : Dialogue Failure Definition :=
  match scan.source? home? with
  | some source => scan.documentDefinition source
  | none => scan.fieldDefinition

end Scan

namespace Request

/-- Interprets the arguments of `add`. -/
def ofAddArguments (setting : Setting) (arguments : List String) : Dialogue Failure Request :=
  Subcommand.withHosts setting arguments fun hosts rest =>
    Subcommand.withFlags .add rest fun scan => do
      let definition ← scan.definition setting.home?
      pure (.add hosts scan.outputMode definition)

/-- Interprets the arguments of `show`. -/
def ofShowArguments (setting : Setting) (arguments : List String) : Dialogue Failure Request :=
  Subcommand.withHosts setting arguments fun hosts rest =>
    Subcommand.withFlags .show rest fun scan =>
      pure (.show hosts scan.outputMode)

/-- Interprets the arguments of `delete`. The last argument is the identifier of the service,
    whatever it looks like, unless it asks for help. -/
def ofDeleteArguments (setting : Setting) (arguments : List String) : Dialogue Failure Request :=
  match arguments.getLast? with
  | none => .fail (.missingArgument "service identifier" (Subcommand.usage .delete))
  | some identifier =>
    if Token.isHelp identifier then pure (Subcommand.help .delete)
    else
      Subcommand.withHosts setting arguments.dropLast fun hosts rest =>
        Subcommand.withFlags .delete rest fun _ =>
          pure (.delete hosts identifier)

/-- Interprets a command line, without the name of the program. Whatever selects no subcommand asks
    for help on all of them. -/
def ofArguments (setting : Setting) (arguments : List String) : Dialogue Failure Request := do
  let selector := Subcommand.selector arguments
  Dialogue.note (.dispatching selector)
  match Subcommand.ofWord? selector with
  | some .add => ofAddArguments setting arguments.tail
  | some .show => ofShowArguments setting arguments.tail
  | some .delete => ofDeleteArguments setting arguments.tail
  | none => pure (.help none Subcommand.combinedUsage)

/-- The event of a request that is ready. Help is never sent anywhere. -/
def readyEvents (request : Request) : List Event :=
  match request.helpText?, request.subcommand? with
  | none, some command => [.requestReady command.name request.output]
  | _, _ => []

/-- Interprets a command line and gives what is printed for it. -/
def answer (setting : Setting) (arguments : List String) : Dialogue Failure String := do
  let request ← ofArguments setting arguments
  Dialogue.notes request.readyEvents
  pure request.printed

end Request

end Discovery
