import ShardCluster.Json.Record

/-!
# Phases

The stages a node goes through, their titles in messages and their names in JSON.
-/

namespace ShardCluster

inductive Phase where
  /-- nothing on disk yet -/
  | created
  /-- the data directory is populated -/
  | initialized
  /-- the server accepts connections -/
  | running
  /-- the server is down and the data directory kept -/
  | stopped
  /-- the server and the data directory are gone -/
  | cleanedUp
  deriving DecidableEq, Inhabited

namespace Phase

/-- the phase as messages call it -/
def title : Phase → String
  | created => "Created"
  | initialized => "Initialized"
  | running => "Running"
  | stopped => "Stopped"
  | cleanedUp => "CleanedUp"

/-- the phase as JSON calls it -/
def name : Phase → String
  | created => "created"
  | initialized => "initialized"
  | running => "running"
  | stopped => "stopped"
  | cleanedUp => "cleaned_up"

def all : List Phase := [created, initialized, running, stopped, cleanedUp]

def toJson (phase : Phase) : Json := .ofString phase.name

def ofJson? (j : Json) : Option Phase := do
  let name ← j.choice?
  all.find? (·.name == name)

end Phase

end ShardCluster
