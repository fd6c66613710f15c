import ShardCluster.Shutdown

/-!
# Signal scripts

Shutdown signals and receivers by name, and steps on them. Handles of one signal share its state; a
name may stand for a handle and for a receiver at once.
-/

namespace ShardCluster.Scenario

/-- a step on named signals and receivers -/
inductive SignalStep where
  | create (name : String)
  | clone (name source : String)
  | shutdown (name : String)
  /-- lets go of a handle, if there is one of the name, but of no receiver -/
  | drop (name : String)
  | subscribe (name signal : String)
  | isTriggered (name : String)
  | receive (name : String)

inductive SignalAnswer where
  | ok
  | flag (b : Bool)
  | receipt (r : Receipt)
  /-- nothing goes by the name -/
  | nothing

/-- The signals by number, and the numbers that names stand for. -/
structure Signals where
  signals : List Shutdown := []
  handles : List (String × Nat) := []
  receivers : List (String × Nat × Receiver) := []

namespace Signals

/-- changes the signal of that number -/
def modify (s : Signals) (number : Nat) (f : Shutdown → Shutdown) : Signals :=
  { s with signals := s.signals.modify number f }

/-- The signal that a name stands for. -/
def signal? (s : Signals) (name : String) : Option (Nat × Shutdown) := do
  let number ← s.handles.lookup name
  return (number, ← s.signals[number]?)

/-- takes a name away from its handle -/
def release (s : Signals) (name : String) : Signals :=
  match s.handles.lookup name with
  | some number =>
    { s.modify number Shutdown.drop with handles := s.handles.filter (·.1 != name) }
  | none => s

/-- gives a name to a handle of the signal of that number -/
def bindHandle (s : Signals) (name : String) (number : Nat) : Signals :=
  let s := s.release name
  { s with handles := (name, number) :: s.handles }

def bindReceiver (s : Signals) (name : String) (number : Nat) (r : Receiver) : Signals :=
  { s with receivers := (name, number, r) :: s.receivers.filter (·.1 != name) }

def step (s : Signals) : SignalStep → SignalAnswer × Signals
  | .create name =>
    (.ok, { s with signals := s.signals ++ [Shutdown.new] }.bindHandle name s.signals.length)
  | .clone name source =>
    match s.signal? source with
    | some (number, _) => (.ok, (s.modify number Shutdown.clone).bindHandle name number)
    | none => (.nothing, s)
  | .shutdown name =>
    match s.signal? name with
    | some (number, _) => (.ok, s.modify number Shutdown.trigger)
    | none => (.nothing, s)
  | .drop name => (.ok, s.release name)
  | .subscribe name signal =>
    match s.signal? signal with
    | some (number, shutdown) => (.ok, s.bindReceiver name number shutdown.subscribe)
    | none => (.nothing, s)
  | .isTriggered name =>
    match s.signal? name with
    | some (_, shutdown) => (.flag shutdown.triggered, s)
    | none => (.nothing, s)
  | .receive name =>
    match s.receivers.lookup name with
    | some (number, r) =>
      match s.signals[number]? with
      | some shutdown =>
        let (receipt, r) := shutdown.receive r
        (.receipt receipt, s.bindReceiver name number r)
      | none => (.nothing, s)
    | none => (.nothing, s)

/-- the answers to steps, one after another -/
def run (s : Signals) : List SignalStep → List SignalAnswer
  | [] => []
  | first :: rest =>
    let (answer, s) := s.step first
    answer :: s.run rest

end Signals

end ShardCluster.Scenario
