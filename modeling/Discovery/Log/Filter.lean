import Discovery.Log.Verbosity
import Discovery.Text.Split
import Discovery.Text.Word

namespace Discovery

/-- Sets the level of the events that it applies to. -/
structure Directive where
  /-- the beginning of the places where the events happen -/
  place? : Option String
  /-- a detail that the events have -/
  detail? : Option String
  /-- whether it applies only to what happens within a named or marked span, which nothing does -/
  withinSpan : Bool
  level : Verbosity
  deriving Repr, DecidableEq

namespace Directive

/-- The directive for all events. -/
def ofLevel (level : Verbosity) : Directive :=
  ⟨none, none, false, level⟩

/-- The level behind an equals sign. Where nothing is there, everything is written. -/
def level? (text : List Char) : Option Verbosity :=
  if text.isEmpty then some .trace else Verbosity.ofText? text

/-- A directive with the level that follows it, if there is one. -/
def withLevel? (directive : Directive) : List Char → Option Directive
  | [] => some directive
  | '=' :: text => (level? text).map fun level => { directive with level }
  | _ => none

/-- The directive for a place and what stands in brackets behind it: the name of a span, the name of
    a detail in braces, or both. A detail with a value belongs to a span. -/
def ofBrackets? (place? : Option String) (text : List Char) : Option Directive :=
  match text.span fun c => c ≠ ']' && c ≠ '\x7b' with
  | (_, ']' :: rest) => withLevel? ⟨place?, none, true, .trace⟩ rest
  | (span, _ :: rest) =>
    match Text.cut '\x7d' rest with
    | some (detail, ']' :: rest) =>
      if detail.isEmpty then none
      else
        withLevel? ⟨place?, some (String.ofList (detail.takeWhile (· ≠ '='))),
          !span.isEmpty || detail.contains '=', .trace⟩ rest
    | _ => none
  | (_, []) => none

/-- The directive that a text stands for. A word that is no level is a place. -/
def ofText? (text : List Char) : Option Directive :=
  match text with
  | [] => none
  | '[' :: rest => ofBrackets? none rest
  | c :: _ =>
    if Text.isWordChar c || c = '-' || c = ':' then
      match text.span fun c => c ≠ '=' && c ≠ '[' with
      | (word, []) =>
        match Verbosity.ofText? word with
        | some level => some (ofLevel level)
        | none => some ⟨some (String.ofList word), none, false, .trace⟩
      | (word, '[' :: rest) => ofBrackets? (some (String.ofList word)) rest
      | (word, rest) => withLevel? ⟨some (String.ofList word), none, false, .trace⟩ rest
    else none

/-- Whether a directive applies to an event. Every event has its message among its details. -/
def appliesTo (directive : Directive) (event : Event) : Bool :=
  !directive.withinSpan &&
    directive.place?.all (fun place => place.toList.isPrefixOf event.place.toList) &&
    directive.detail?.all (fun detail => ("message" :: event.details.map Prod.fst).contains detail)

/-- How much of the place of an event a directive names. -/
def reach (directive : Directive) : Nat :=
  match directive.place? with
  | some place => place.length + 1
  | none => 0

/-- Whether of two directives that apply to an event the later one decides. The one that says more of
    the place does, then the one with the detail that is last in order. -/
def yieldsTo (earlier later : Directive) : Bool :=
  earlier.reach < later.reach ||
    earlier.reach = later.reach && !(later.detail?.getD "" < earlier.detail?.getD "")

end Directive

/-- Decides which events are written to the log. -/
structure Filter where
  directives : List Directive
  deriving Repr, DecidableEq

namespace Filter

/-- The filter for a level alone. -/
def ofLevel (level : Verbosity) : Filter :=
  ⟨[.ofLevel level]⟩

/-- The filter that a text stands for, unless one of its directives is none. A text without any keeps
    the log at the level `error`. -/
def ofText? (text : String) : Option Filter :=
  match (Text.pieces ',' text.toList).filter (fun piece => !piece.isEmpty) with
  | [] => some (ofLevel .error)
  | pieces => (pieces.mapM Directive.ofText?).map Filter.mk

/-- The filter that a setting asks for. Without a setting, or with one that makes no sense, the log
    is kept at the level `warn`. -/
def ofSetting (setting? : Option String) : Filter :=
  (setting?.bind ofText?).getD (ofLevel .warn)

/-- The directive that decides about an event. -/
def directive? (filter : Filter) (event : Event) : Option Directive :=
  (filter.directives.filter fun d => d.appliesTo event).foldl
    (fun best? d => match best? with
      | some best => if best.yieldsTo d then some d else some best
      | none => some d) none

/-- Whether an event is written. -/
def admits (filter : Filter) (event : Event) : Bool :=
  (filter.directive? event).any fun d => d.level.admits event.severity

end Filter

end Discovery
