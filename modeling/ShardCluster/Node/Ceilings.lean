/-!
# Ceilings

The limits on connections, replication and worker processes that a cluster of a given size needs.
Every node may replicate to every other one, so slots and senders grow with the square of the
number of nodes; nothing grows beyond a 32-bit word.
-/

namespace ShardCluster

/-- the limits every node of a cluster is configured with -/
structure Ceilings where
  maxConnections : UInt32
  maxReplicationSlots : UInt32
  maxWalSenders : UInt32
  maxLogicalReplicationWorkers : UInt32
  maxWorkerProcesses : UInt32
  deriving DecidableEq, Inhabited

namespace Ceilings

/-- the greatest word -/
def wordMax : UInt32 := 0xFFFFFFFF

/-- the word for `n`, or the greatest one if `n` is beyond all of them -/
def clamp (n : Nat) : UInt32 := if n < UInt32.size then UInt32.ofNat n else wordMax

/-- sum, at most the greatest word -/
def plus (a b : UInt32) : UInt32 := if a ≤ wordMax - b then a + b else wordMax

/-- product, at most the greatest word -/
def times (a b : UInt32) : UInt32 := clamp (a.toNat * b.toNat)

/-- connections kept free beyond the senders -/
def headroom : UInt32 := 10

/-- the limits for one coordinator and `workers` workers -/
def forWorkers (workers : Nat) : Ceilings :=
  let nodes := plus (clamp workers) 1
  let pairs := times nodes nodes
  let senders := max (plus pairs 10) 50
  let replicators := max pairs 50
  { maxConnections := max (max (times nodes 20) (plus senders headroom)) 200
    maxReplicationSlots := max (times pairs 2) 100
    maxWalSenders := senders
    maxLogicalReplicationWorkers := replicators
    maxWorkerProcesses := plus replicators 10 }

end Ceilings

end ShardCluster
