import ShardCluster.Cluster.Operations
import ShardCluster.Shutdown

/-!
# Scoped runs

A body of cluster operations followed by one teardown, whether the body finished, failed or was
given up because the shutdown signal was given.
-/

namespace ShardCluster

/-- how a scoped run ended -/
inductive ScopeExit (R : Type) where
  | completed (value : R)
  /-- the signal was given before the body was done -/
  | interrupted

namespace ScopeExit

variable {R : Type}

def isInterrupted : ScopeExit R → Bool
  | completed _ => false
  | interrupted => true

def completed? : ScopeExit R → Option R
  | completed value => some value
  | interrupted => none

end ScopeExit

namespace Cluster

variable {P W R : Type}

/-- The result of a scoped run, from what became of the body and of the teardown. The body's own
failure counts before that of the teardown. -/
def settled : Option (Except ClusterError R) → Except ClusterError Unit →
    Except ClusterError (ScopeExit R)
  | some (.error e), _ => .error e
  | _, .error e => .error e
  | some (.ok value), .ok () => .ok (.completed value)
  | none, .ok () => .ok .interrupted

/-- Runs `body` unless the signal has been given, up to a pause at which the signal has been given,
and then tears the cluster down. Others may give the signal between any two steps before the body
begins. Where body and signal are due at once, the signal wins unless the body is `favoured`. -/
def runScoped (host : Host P W) (signal : W → HeldShutdown) (favoured : W → Bool)
    (body : ClusterAction P W R) :
    Task (Cluster P × W) (Except ClusterError (ScopeExit R)) := do
  let receiver ← Task.read fun (_, w) => (signal w).subscribe
  let due := fun (s : Cluster P × W) => (signal s.2).isReady receiver
  let preferred := fun (s : Cluster P × W) => favoured s.2
  Task.moment
  let outcome ←
    if ← Task.read fun (_, w) => (signal w).triggered then pure none
    else do
      Task.moment
      Task.unlessDue due preferred (Task.interruptible due preferred body.run)
  return settled outcome (← (teardown host).run)

end Cluster

end ShardCluster
