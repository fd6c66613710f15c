/-!
# Tasks

A task is a computation on a world `W` that may wait. It is a tree of steps that happen at once and
of pauses; between two pauses nothing else gets to see or change the world, and at a pause the task
may be given up for good, so that what it has done so far stays done.
-/

namespace ShardCluster

/-- a computation on a world `W` with a result in `α` -/
inductive Task (W α : Type) where
  | done (result : α)
  /-- Changes the world and goes on as the world before the change tells it to. -/
  | act (effect : W → W) (next : W → Task W α)
  /-- Waits until `delay` nanoseconds have passed, for ever if there is no delay, or until `wake`
  holds. A delay of zero waits for the system, which takes no time. -/
  | pause (delay : Option Nat) (wake : W → Bool) (next : Task W α)

/-- a view of a part of a larger state -/
structure Part (S T : Type) where
  get : S → T
  put : T → S → S

namespace Part

def second (S W : Type) : Part (S × W) W := ⟨(·.2), fun w s => (s.1, w)⟩

def comp {S T U : Type} (outer : Part S T) (inner : Part T U) : Part S U :=
  ⟨fun s => inner.get (outer.get s), fun u s => outer.put (inner.put u (outer.get s)) s⟩

end Part

namespace Task

variable {S T W α β : Type}

/-! ### Building tasks -/

def bind : Task W α → (α → Task W β) → Task W β
  | done a, f => f a
  | act effect next, f => act effect fun w => (next w).bind f
  | pause delay wake next, f => pause delay wake (next.bind f)

instance : Monad (Task W) where
  pure := done
  bind := bind

/-- what the world says now -/
def read (f : W → α) : Task W α := act id fun w => done (f w)

def update (f : W → W) : Task W Unit := act f fun _ => done ()

/-- One step with a result. It is worked out once, before the world changes. -/
def atomic (f : W → α × W) : Task W α :=
  act id fun w =>
    let (result, after) := f w
    act (fun _ => after) fun _ => done result

/-- waits for the system -/
def yield : Task W Unit := pause (some 0) (fun _ => false) (done ())

/-- a moment in between at which others get to act -/
def moment : Task W Unit := pause none (fun _ => true) (done ())

/-! ### Time -/

/-- nanoseconds of a second -/
def second : Nat := 1000000000

/-- nanoseconds of a tick, of which every wait lasts a whole number -/
def tick : Nat := 1000000

/-- nanoseconds of a day -/
def day : Nat := 86400 * second

/-- the end of what the clock can tell, which has run for a day when a task begins -/
def clockEnd : Nat := UInt64.size / 2 * second - day

/-- thirty years, as long as a wait lasts whose end the clock cannot tell -/
def longest : Nat := 30 * 365 * day

/-- how long a wait for a time lasts -/
def span (nanos : Nat) : Nat :=
  if nanos < clockEnd then (nanos + tick - 1) / tick * tick else longest

/-- waits for a time; no time at all is no pause -/
def sleep (nanos : Nat) : Task W Unit :=
  if nanos = 0 then done () else pause (some (span nanos)) (fun _ => false) (done ())

/-- waits for ever, and so never gets to a result -/
def forever (result : α) : Task W α := pause none (fun _ => false) (done result)

/-! ### Moving tasks between worlds -/

/-- a task on a part of the world -/
def through (part : Part S T) : Task T α → Task S α
  | done a => done a
  | act effect next =>
    act (fun s => part.put (effect (part.get s)) s) fun s => (next (part.get s)).through part
  | pause delay wake next => pause delay (fun s => wake (part.get s)) (next.through part)

/-- A task on a part that need not be there; without it the task ends with no result. -/
def within (get : S → Option T) (put : T → S → S) : Task T α → Task S (Option α)
  | done a => done (some a)
  | act effect next =>
    act
      (fun s => match get s with
        | some t => put (effect t) s
        | none => s)
      fun s => match get s with
        | some t => (next t).within get put
        | none => done none
  | pause delay wake next =>
    pause delay (fun s => (get s).any wake) (next.within get put)

/-- A task on a value `t` of its own beside a part of the world. The value is the task's alone:
given up at a pause, the task takes it along. -/
def owning (part : Part S W) : T → Task (T × W) α → Task S (α × T)
  | t, done a => done (a, t)
  | t, act effect next =>
    act (fun s => part.put (effect (t, part.get s)).2 s) fun s =>
      (next (t, part.get s)).owning part (effect (t, part.get s)).1
  | t, pause delay wake next => pause delay (fun s => wake (t, part.get s)) (next.owning part t)

/-! ### Cutting tasks short -/

/-- Where a task is about to go on while an interrupt may be due, the interrupt comes first unless
the task is favoured, and the task is given up. -/
def unlessDue (due favoured : W → Bool) (next : Task W (Option α)) : Task W (Option α) :=
  act id fun w => if due w && !favoured w then done none else next

/-- The task until an interrupt is due at one of its pauses, where it is given up, unless it could
go on by itself and is favoured. A task that ends without a pause is never given up. -/
def interruptible (due favoured : W → Bool) : Task W α → Task W (Option α)
  | done a => done (some a)
  | act effect next => act effect fun w => (next w).interruptible due favoured
  | pause delay wake next =>
    pause delay (fun w => wake w || due w)
      (unlessDue due (fun w => favoured w && (delay.isSome || wake w))
        (next.interruptible due favoured))

/-- The task for at most `nanos` nanoseconds, after which it is given up at its next pause. Being
woken early counts as no time. -/
def limit (nanos : Nat) : Task W α → Task W (Option α)
  | done a => done (some a)
  | act effect next => act effect fun w => (next w).limit nanos
  | pause delay wake next =>
    if nanos = 0 then done none
    else match delay with
      | some d =>
        if d ≤ nanos then pause (some d) wake (next.limit (nanos - d))
        else pause (some nanos) wake
          (act id fun w => if wake w then next.limit nanos else done none)
      | none =>
        pause (some nanos) wake
          (act id fun w => if wake w then next.limit nanos else done none)

end Task

end ShardCluster
