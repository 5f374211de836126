import Discovery.Log.Event

namespace Discovery

/-- A computation that ends with a value or a failure. A node that asks has one branch for each
    possible answer, so whoever runs a dialogue decides where the answers come from. -/
inductive Dialogue (ε α : Type) where
  | done (value : α)
  | fail (failure : ε)
  | log (event : Event) (next : Dialogue ε α)
  | ask (input : Input) (next : Except ReadFault ByteArray → Dialogue ε α)

namespace Dialogue

variable {ε α β : Type}

/-- Goes on with a second dialogue once the first one has a value. -/
def andThen : Dialogue ε α → (α → Dialogue ε β) → Dialogue ε β
  | done value, next => next value
  | fail failure, _ => fail failure
  | log event rest, next => log event (rest.andThen next)
  | ask input answer, next => ask input fun given => (answer given).andThen next

instance : Monad (Dialogue ε) where
  pure := done
  bind := andThen

/-- Logs an event. -/
def note (event : Event) : Dialogue ε Unit :=
  log event (done ())

/-- Logs several events in order. -/
def notes : List Event → Dialogue ε Unit
  | [] => done ()
  | event :: events => log event (notes events)

/-- Asks for the text of an input. -/
def readText (input : Input) : Dialogue ε (Except ReadFault String) :=
  ask input fun given => done (given.bind decodeText)

/-- Ends as a computation without events and inputs does. -/
def ofExcept : Except ε α → Dialogue ε α
  | .ok value => done value
  | .error failure => fail failure

end Dialogue

end Discovery
