import ShardCluster.Node.Identity

/-!
# Membership

Who belongs to a cluster: its coordinator and the workers registered with it, in the order of their
registration.
-/

namespace ShardCluster

structure Membership where
  coordinator : Option Identity := none
  workers : List Identity := []
  deriving DecidableEq, Inhabited

namespace Membership

def hasWorkers (m : Membership) : Bool := !m.workers.isEmpty

def workerNames (m : Membership) : List String := m.workers.map (·.name)

/-- the member of that name -/
def find? (m : Membership) (name : String) : Option Identity :=
  (m.coordinator.toList ++ m.workers).find? (·.name == name)

def addWorker (m : Membership) (worker : Identity) : Membership :=
  { m with workers := m.workers ++ [worker] }

/-- The members in JSON, unless a directory is no text. -/
def toJson? (m : Membership) : Option Json := do
  let coordinator ← match m.coordinator with
    | some c => c.toJson?
    | none => some .null
  return .ofFields [("coordinator", coordinator),
    ("workers", .array (← m.workers.mapM Identity.toJson?))]

end Membership

end ShardCluster
