import Discovery.Dialogue.Trace
import Discovery.Request.Interpretation

namespace Discovery

/-- The aliases and the arguments not yet taken. -/
structure Session where
  aliases : Aliases
  queue : List String

namespace Session

/-- The session at its start. -/
def start : Session :=
  ⟨Dictionary.empty, []⟩

/-- What can be done in a session. -/
inductive Step where
  /-- replace the aliases -/
  | load (aliases : Aliases)
  | insert (name hosts : String)
  | get (name : String)
  /-- compare the aliases with others -/
  | same (aliases : Aliases)
  | resolve (target : String)
  /-- put arguments at the end of the queue -/
  | push (arguments : List String)
  /-- take a target off the front of the queue and resolve it -/
  | take
  /-- interpret a command line against the aliases, without the queue -/
  | interpret (home? : Option String) (world : World) (arguments : List String)

/-- What a step gives. -/
inductive Answer where
  | nothing
  | text (text? : Option String)
  | equality (equal : Bool)
  | hosts (outcome : Except Failure Hosts)
  | request (outcome : Except Failure Request)

/-- One step. -/
def step (s : Session) : Step → Answer × Session
  | .load aliases => (.nothing, { s with aliases })
  | .insert name hosts => (.nothing, { s with aliases := s.aliases.insert name hosts })
  | .get name => (.text (s.aliases.find? name), s)
  | .same aliases => (.equality (s.aliases = aliases), s)
  | .resolve target => (.hosts (s.aliases.resolve target), s)
  | .push arguments => (.nothing, { s with queue := s.queue ++ arguments })
  | .take =>
    let (target, queue) := takeTarget s.queue
    (.hosts (s.aliases.resolve target), { s with queue })
  | .interpret home? world arguments =>
    (.request ((Request.ofArguments ⟨home?, .table s.aliases⟩ arguments).run world).outcome, s)

/-- Several steps, with the answer of each and the session after it. -/
def run (s : Session) : List Step → List (Answer × Session)
  | [] => []
  | step :: steps =>
    let (answer, next) := s.step step
    (answer, next) :: next.run steps

end Session

end Discovery
