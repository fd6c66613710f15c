import ShardCluster.Engine.Basic
import ShardCluster.Text.Lower

/-!
# Interference

An engine whose calls are held up, made to fail without reaching it, or answered with another text.
-/

namespace ShardCluster

/-- the calls of an engine that can be interfered with -/
inductive EngineCall where
  | init
  | start
  | stop
  | execute
  deriving DecidableEq

/-- A failure in store for one call: the next one of its kind, or only the next one at a certain
data directory or port. -/
structure Fault where
  call : EngineCall
  site : Option String
  error : EngineError

/-- what is in store for the calls of an engine -/
structure Interference where
  /-- faults still to come, in order -/
  faults : List Fault := []
  /-- how long each kind of call is held up, in nanoseconds; the latest entry counts -/
  delays : List (EngineCall × Nat) := []
  /-- parts of statements and the text to answer with -/
  responses : List (String × String) := []

namespace Interference

def delay (i : Interference) (call : EngineCall) : Nat := (i.delays.lookup call).getD 0

def Fault.applies (call : EngineCall) (site : String) (f : Fault) : Bool :=
  f.call = call && f.site.all (· == site)

/-- Takes out the first fault for a call at a site. -/
def takeFault (call : EngineCall) (site : String) (i : Interference) :
    Option EngineError × Interference :=
  match i.faults.find? (Fault.applies call site) with
  | some f => (some f.error, { i with faults := i.faults.eraseP (Fault.applies call site) })
  | none => (none, i)

/-- the text in store for a statement -/
def response? (i : Interference) (statement : String) : Option String :=
  (i.responses.find? fun (needle, _) => Text.contains statement needle).map (·.2)

section
variable {P W α : Type} (state : Part W Interference)

/-- a call that is first held up and then perhaps fails without being made -/
def guarded (call : EngineCall) (site : String) (task : Task W (Except EngineError α)) :
    Task W (Except EngineError α) := do
  Task.sleep (← Task.read fun w => (state.get w).delay call)
  let fault ← Task.atomic fun w =>
    let (fault, i) := (state.get w).takeFault call site
    (fault, state.put i w)
  match fault with
  | some e => return .error e
  | none => task

/-- the statement's own answer, or the one in store for it -/
def answered (statement : String) (task : Task W (Except EngineError String)) :
    Task W (Except EngineError String) := do
  match ← task with
  | .error e => return .error e
  | .ok text => return .ok (((← Task.read state.get).response? statement).getD text)

/-- an engine under interference; `port` tells where a server listens -/
def engine (port : P → UInt16) (inner : Engine P W) : Engine P W where
  init directory := guarded state .init directory.display (inner.init directory)
  start launch := guarded state .start (toString launch.port.toNat) (inner.start launch)
  stop process := guarded state .stop (toString (port process).toNat) (inner.stop process)
  execute port database statement :=
    guarded state .execute (toString port.toNat)
      (answered state statement (inner.execute port database statement))
  portAvailable := inner.portAvailable
  configFile := inner.configFile

end

end Interference

end ShardCluster
