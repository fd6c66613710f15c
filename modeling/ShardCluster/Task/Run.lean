import ShardCluster.Task.Basic

/-!
# Running tasks

Running a task in virtual time: nothing takes time but the delays of its pauses, and alarms change
the world while it waits.
-/

namespace ShardCluster

/-- Something that happens to the world `wait` nanoseconds after the alarm before it. -/
structure Alarm (W : Type) where
  wait : Nat
  ring : W → W

namespace Task

variable {W α : Type}

/-- Lets a pause pass. The alarms left over and whether the pause ends come with the world. An alarm
that is due rings first; one due when the pause ends rings at the next pause. -/
def pass (wake : W → Bool) : Option Nat → List (Alarm W) → W → Bool × List (Alarm W) × W
  | delay, [], w => (wake w || delay.isSome, [], w)
  | delay, alarm :: later, w =>
    if wake w then (true, alarm :: later, w)
    else match delay with
      | some d =>
        if alarm.wait ≠ 0 ∧ d ≤ alarm.wait then (true, ⟨alarm.wait - d, alarm.ring⟩ :: later, w)
        else pass wake (some (d - alarm.wait)) later (alarm.ring w)
      | none => pass wake none later (alarm.ring w)

/-- The result of a task and the world it leaves; there is none if it never gets to its end. -/
def run : Task W α → List (Alarm W) → W → Option α × W
  | done a, _, w => (some a, w)
  | act effect next, alarms, w => (next w).run alarms (effect w)
  | pause delay wake next, alarms, w =>
    match pass wake delay alarms w with
    | (true, alarms, w) => next.run alarms w
    | (false, _, w) => (none, w)

end Task

end ShardCluster
