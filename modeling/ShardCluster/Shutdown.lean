/-!
# Shutdown signals

A signal that can be given any number of times, that stays given, and that reaches everyone who has
subscribed. Only the newest message waits for a receiver; one that comes late is first told how
many it has missed.
-/

namespace ShardCluster

/-- a shutdown signal, shared by all of its handles -/
structure Shutdown where
  /-- whether the signal was ever given -/
  triggered : Bool
  /-- how many messages have been sent -/
  sent : Nat
  /-- how many handles there are -/
  handles : Nat
  /-- whoever sends a message has marked the signal as given before -/
  marked : 0 < sent → triggered = true

/-- A subscriber, by the number of messages it is past. -/
structure Receiver where
  seen : Nat
  deriving DecidableEq

/-- what a receiver finds -/
inductive Receipt where
  | signal
  | empty
  /-- there is nothing left and no handle to send more -/
  | closed
  /-- so many older messages were missed -/
  | lagged (missed : Nat)
  deriving DecidableEq

namespace Shutdown

/-- a signal that has not been given, with one handle -/
def new : Shutdown where
  triggered := false
  sent := 0
  handles := 1
  marked none := absurd none (Nat.lt_irrefl 0)

/-- The two steps of giving the signal: first it is marked as given, then the message is sent. -/
def mark (s : Shutdown) : Shutdown := { s with triggered := true, marked := fun _ => rfl }

def send (s : Shutdown) (given : s.triggered = true) : Shutdown :=
  { s with sent := s.sent + 1, marked := fun _ => given }

/-- gives the signal -/
def trigger (s : Shutdown) : Shutdown := s.mark.send rfl

/-- another handle -/
def clone (s : Shutdown) : Shutdown := { s with handles := s.handles + 1 }

/-- one handle less -/
def drop (s : Shutdown) : Shutdown := { s with handles := s.handles - 1 }

/-- A receiver of the messages sent from now on. -/
def subscribe (s : Shutdown) : Receiver := ⟨s.sent⟩

/-- whether a receiver has anything to find but an empty channel -/
def isReady (s : Shutdown) (r : Receiver) : Bool := r.seen < s.sent || s.handles == 0

/-- What a receiver finds without waiting. -/
def receive (s : Shutdown) (r : Receiver) : Receipt × Receiver :=
  if r.seen = s.sent then (if s.handles = 0 then .closed else .empty, r)
  else if r.seen + 1 = s.sent then (.signal, ⟨s.sent⟩)
  else (.lagged (s.sent - 1 - r.seen), ⟨s.sent - 1⟩)

end Shutdown

/-- a signal that someone holds a handle of -/
structure HeldShutdown extends Shutdown where
  held : 0 < handles

def HeldShutdown.new : HeldShutdown := { Shutdown.new with held := Nat.one_pos }

/-- gives the signal, which takes no handle away -/
def HeldShutdown.trigger (s : HeldShutdown) : HeldShutdown :=
  { s.toShutdown.trigger with held := s.held }

end ShardCluster
