import Mathlib.Order.Nat
import Mathlib.Tactic.Common
import ShardCluster.Shutdown

/-!
# Signalling

Everyone who uses one shutdown signal, step by step and in any order: handles are cloned and
dropped, calls give the signal in two steps (mark it, send the message), and observers subscribe,
check whether it was given, and then look at their receivers again and again. A schedule says whose
step is next.

The order on both sides is what counts. An observer that is told the signal was not given has
subscribed before the mark, hence before any message, and so there is one for its receiver as soon
as a call has finished. `never_missed` says so for every schedule. What the calls have done and what
an observer knows are invariants (`Accounted`, `Observer.Informed`); each is kept by every step, and
so by every schedule (`run_keeps`).
-/

namespace ShardCluster

/-- whether there was a message, read or missed -/
def Receipt.isMessage : Receipt → Bool
  | .signal | .lagged _ => true
  | .empty | .closed => false

namespace Signalling

/-- how far a call that gives the signal has come -/
inductive Call where
  | idle
  /-- the signal is marked as given, the message is not sent yet -/
  | marked
  | done
  deriving DecidableEq

/-- how far an observer has come -/
inductive Observer where
  | idle
  | subscribed (receiver : Receiver)
  /-- It was told whether the signal was given, and has looked at its receiver since; `found` has
  what was there, the newest first. -/
  | checked (receiver : Receiver) (given : Bool) (found : List Receipt)
  deriving DecidableEq

/-- the signal and everyone who uses it -/
structure Scene where
  signal : Shutdown
  calls : Nat → Call
  observers : Nat → Observer
  /-- what a call has marked is marked when it sends -/
  given (i : Nat) : calls i = .marked → signal.triggered = true

/-- whose step is next -/
inductive Move where
  | clone
  | drop
  | call (i : Nat)
  | observe (k : Nat)
  deriving DecidableEq

/-- a new signal that nobody has used -/
def Scene.start : Scene := ⟨.new, fun _ => .idle, fun _ => .idle, nofun⟩

/-- the next step of a call: mark the signal, send the message -/
def Scene.call (s : Scene) (i : Nat) : Scene :=
  match stage : s.calls i with
  | .idle => ⟨s.signal.mark, Function.update s.calls i .marked, s.observers, fun _ _ => rfl⟩
  | .marked => ⟨s.signal.send (s.given i stage), Function.update s.calls i .done, s.observers,
      fun _ _ => s.given i stage⟩
  | .done => s

/-- the next step of an observer: subscribe, check, and then receive without end -/
def Observer.next (signal : Shutdown) : Observer → Observer
  | .idle => .subscribed signal.subscribe
  | .subscribed r => .checked r signal.triggered []
  | .checked r given found =>
    .checked (signal.receive r).2 given ((signal.receive r).1 :: found)

def Scene.step (s : Scene) : Move → Scene
  | .clone => { s with signal := s.signal.clone }
  | .drop => { s with signal := s.signal.drop }
  | .call i => s.call i
  | .observe k =>
    { s with observers := Function.update s.observers k ((s.observers k).next s.signal) }

def Scene.run (s : Scene) (schedule : List Move) : Scene := schedule.foldl step s

/-! ### What a step does -/

section Step

variable (s : Scene) (m : Move)

lemma signal_step : (s.signal.triggered = true → (s.step m).signal.triggered = true)
    ∧ s.signal.sent ≤ (s.step m).signal.sent := by
  cases m with
  | clone | drop | observe k => exact ⟨id, le_rfl⟩
  | call i =>
    simp only [Scene.step, Scene.call]
    split
    · exact ⟨fun _ => rfl, le_rfl⟩
    · exact ⟨id, Nat.le_succ _⟩
    · exact ⟨id, le_rfl⟩

/-- An observer moves on only when it is its turn, and the signal is left alone then. -/
lemma observers_step (k : Nat) : (s.step m).observers k = s.observers k ∨
    (s.step m).signal = s.signal ∧ (s.step m).observers k = (s.observers k).next s.signal := by
  cases m with
  | clone | drop => exact .inl rfl
  | call i =>
    refine .inl ?_
    simp only [Scene.step, Scene.call]
    split <;> rfl
  | observe j =>
    rcases eq_or_ne k j with rfl | other
    · exact .inr ⟨rfl, Function.update_self ..⟩
    · exact .inl (Function.update_of_ne other ..)

end Step

lemma call_of_idle {s : Scene} {i : Nat} (idle : s.calls i = .idle) :
    (s.call i).calls i = .marked ∧ (s.call i).signal = s.signal.mark := by
  unfold Scene.call
  split
  · exact ⟨Function.update_self .., rfl⟩
  all_goals
    next stage => cases idle.symm.trans stage

lemma call_of_marked {s : Scene} {i : Nat} (marked : s.calls i = .marked) :
    (s.call i).signal = s.signal.send (s.given i marked) := by
  unfold Scene.call
  split
  · next stage => cases marked.symm.trans stage
  · rfl
  · next stage => cases marked.symm.trans stage

/-- When nobody comes between the two steps of a call, the signal is given as a whole. -/
lemma signal_call_call {s : Scene} {i : Nat} (idle : s.calls i = .idle) :
    ((s.call i).call i).signal = s.signal.trigger := by
  obtain ⟨marked, signal⟩ := call_of_idle idle
  rw [call_of_marked marked]
  simp only [signal, Shutdown.trigger]

/-- What every step keeps is kept by every schedule. -/
lemma run_keeps {I : Scene → Prop} (kept : ∀ s m, I s → I (s.step m)) {s : Scene} (initially : I s)
    (schedule : List Move) : I (s.run schedule) := by
  induction schedule generalizing s with
  | nil => exact initially
  | cons m rest ih => exact ih (kept s m initially)

lemma run_append (s : Scene) (schedule later : List Move) :
    s.run (schedule ++ later) = (s.run schedule).run later :=
  List.foldl_append

/-! ### The calls and the signal -/

/-- **What the calls have done** is what the signal shows. -/
structure Accounted (s : Scene) : Prop where
  /-- Only a call gives the signal. -/
  begun : s.signal.triggered = true → ∃ i, s.calls i ≠ .idle
  triggered : ∀ i, s.calls i ≠ .idle → s.signal.triggered = true
  sent : ∀ i, s.calls i = .done → 0 < s.signal.sent

lemma Accounted.step {s : Scene} (h : Accounted s) (m : Move) : Accounted (s.step m) := by
  cases m with
  | clone | drop | observe k => exact ⟨h.begun, h.triggered, h.sent⟩
  | call i =>
    simp only [Scene.step, Scene.call]
    split
    · refine ⟨fun _ => ⟨i, by simp⟩, fun _ _ => rfl,
        fun j (done : Function.update s.calls i .marked j = .done) => ?_⟩
      rcases eq_or_ne j i with rfl | other
      · simp only [Function.update_self, reduceCtorEq] at done
      · rw [Function.update_of_ne other] at done
        exact h.sent j done
    · next stage =>
      exact ⟨fun _ => ⟨i, by simp⟩, fun _ _ => s.given i stage, fun _ _ => Nat.succ_pos _⟩
    · exact h

lemma accounted_run (schedule : List Move) : Accounted (Scene.start.run schedule) :=
  run_keeps (fun _ m h => h.step m) ⟨nofun, fun _ begun => absurd rfl begun, nofun⟩ schedule

/-! ### Observers -/

namespace Observer

variable {signal signal' : Shutdown} {o : Observer}

/-- There was a message at the receiver. -/
def Reached (found : List Receipt) : Prop := ∃ receipt ∈ found, receipt.isMessage = true

/-- **What an observer knows**: nothing that has not happened, and if it was told that the signal
was not given and no message has reached it since, its receiver is ahead of all of them. -/
def Informed (signal : Shutdown) : Observer → Prop
  | .idle => True
  | .subscribed r => r.seen ≤ signal.sent
  | .checked r given found => r.seen ≤ signal.sent
      ∧ (given = true → signal.triggered = true)
      ∧ (Reached found → 0 < signal.sent)
      ∧ (given = false → Reached found ∨ r.seen = 0)

lemma Informed.mono (h : o.Informed signal)
    (triggered : signal.triggered = true → signal'.triggered = true)
    (sent : signal.sent ≤ signal'.sent) : o.Informed signal' := by
  cases o with
  | idle => trivial
  | subscribed r => exact h.trans sent
  | checked r given found =>
    obtain ⟨seen, told, reached, waiting⟩ := h
    exact ⟨seen.trans sent, triggered ∘ told, fun r => (reached r).trans_le sent, waiting⟩

/-- A receiver that has not seen all messages gets one, or is told that it missed some. -/
lemma receive_message {r : Receiver} (behind : r.seen < signal.sent) :
    signal.isReady r = true ∧ (signal.receive r).1.isMessage = true := by
  refine ⟨by simp only [Shutdown.isReady, behind, decide_true, Bool.true_or], ?_⟩
  unfold Shutdown.receive
  rw [if_neg behind.ne]
  split <;> rfl

/-- A receiver never gets ahead of the messages; it gets none only if there is none that it has not
seen, and stays where it is then. -/
lemma receive_spec {r : Receiver} (seen : r.seen ≤ signal.sent) :
    (signal.receive r).2.seen ≤ signal.sent
    ∧ ((signal.receive r).1.isMessage = true ∧ 0 < signal.sent
      ∨ (signal.receive r).1.isMessage = false ∧ (signal.receive r).2 = r) := by
  rcases seen.lt_or_eq with behind | level
  · refine ⟨?_, .inl ⟨(receive_message behind).2, Nat.zero_lt_of_lt behind⟩⟩
    unfold Shutdown.receive
    rw [if_neg behind.ne]
    split
    · exact le_rfl
    · exact Nat.sub_le _ _
  · unfold Shutdown.receive
    rw [if_pos level]
    refine ⟨seen, .inr ⟨?_, rfl⟩⟩
    split <;> rfl

lemma Informed.next (h : o.Informed signal) : (o.next signal).Informed signal := by
  cases o with
  | idle => exact le_rfl
  | subscribed r =>
    refine ⟨h, id, ?_, fun unmarked => .inr ?_⟩
    · rintro ⟨_, none, -⟩
      cases none
    · -- no message is sent before the mark, so the receiver is ahead of all of them
      have none : signal.sent = 0 :=
        Nat.eq_zero_of_not_pos fun some => by simp [signal.marked some] at unmarked
      exact Nat.le_zero.1 (none ▸ h)
  | checked r given found =>
    obtain ⟨seen, told, reached, waiting⟩ := h
    obtain ⟨ahead, ⟨message, sent⟩ | ⟨nothing, same⟩⟩ := receive_spec seen
    · exact ⟨ahead, told, fun _ => sent, fun _ => .inl ⟨_, List.mem_cons_self, message⟩⟩
    · refine ⟨ahead, told, ?_, fun unmarked => ?_⟩
      · rintro ⟨receipt, there, message⟩
        rcases List.mem_cons.1 there with rfl | before
        · rw [nothing] at message
          cases message
        · exact reached ⟨receipt, before, message⟩
      · rw [same]
        exact (waiting unmarked).imp_left fun ⟨receipt, before, message⟩ =>
          ⟨receipt, List.mem_cons_of_mem _ before, message⟩

end Observer

lemma informed_run (schedule : List Move) (k : Nat) :
    ((Scene.start.run schedule).observers k).Informed (Scene.start.run schedule).signal := by
  refine run_keeps (I := fun s => (s.observers k).Informed s.signal) (fun s m h => ?_) ?_ schedule
  · rcases observers_step s m k with same | ⟨still, next⟩
    · rw [same]
      exact h.mono (signal_step s m).1 (signal_step s m).2
    · rw [still, next]
      exact h.next
  · trivial

/-- the signal is given, and the observer is told so if it checks -/
def WillTell (k : Nat) (s : Scene) : Prop :=
  s.signal.triggered = true ∧ ∀ r given found, s.observers k = .checked r given found → given = true

lemma WillTell.step {k : Nat} {s : Scene} (h : WillTell k s) (m : Move) :
    WillTell k (s.step m) := by
  refine ⟨(signal_step s m).1 h.1, fun r given found checked => ?_⟩
  rcases observers_step s m k with same | ⟨-, next⟩
  · exact h.2 r given found (same ▸ checked)
  · rw [checked] at next
    cases before : s.observers k with
    | idle => simp [before, Observer.next] at next
    | subscribed r =>
      simp only [before, Observer.next, Observer.checked.injEq] at next
      exact next.2.1.trans h.1
    | checked r given' found' =>
      simp only [before, Observer.next, Observer.checked.injEq] at next
      exact next.2.1.trans (h.2 _ _ _ before)

/-! ### No signal is missed -/

/-- **No signal is missed**, however the steps of all calls and observers fall. An observer that was
told the signal was not given has been reached by a message once a call has finished, or finds one
without waiting; one that checks after a call has begun is told so; and before the first call nobody
is told so or is reached by anything. -/
theorem never_missed (schedule : List Move) :
    (∀ i k r found, (Scene.start.run schedule).calls i = .done →
      (Scene.start.run schedule).observers k = .checked r false found →
      Observer.Reached found ∨ (Scene.start.run schedule).signal.isReady r = true
        ∧ ((Scene.start.run schedule).signal.receive r).1.isMessage = true)
    ∧ (∀ i k, (Scene.start.run schedule).calls i ≠ .idle →
      (∀ r given found, (Scene.start.run schedule).observers k ≠ .checked r given found) →
      ∀ later r given found,
        (Scene.start.run (schedule ++ later)).observers k = .checked r given found → given = true)
    ∧ ((∀ i, (Scene.start.run schedule).calls i = .idle) → ∀ k r given found,
      (Scene.start.run schedule).observers k = .checked r given found →
      given = false ∧ ¬ Observer.Reached found) := by
  have calls := accounted_run schedule
  refine ⟨fun i k r found done checked => ?_, fun i k begun unchecked later r given found => ?_,
    fun idle k r given found checked => ?_⟩
  · have informed := informed_run schedule k
    rw [checked] at informed
    refine (informed.2.2.2 rfl).imp_right fun first => Observer.receive_message ?_
    rw [first]
    exact calls.sent i done
  · rw [run_append]
    have now : WillTell k (Scene.start.run schedule) :=
      ⟨calls.triggered i begun, fun r given found there => absurd there (unchecked r given found)⟩
    exact (run_keeps (fun _ m h => h.step m) now later).2 r given found
  · have ungiven : (Scene.start.run schedule).signal.triggered ≠ true := fun triggered =>
      (calls.begun triggered).elim fun i begun => begun (idle i)
    have informed := informed_run schedule k
    rw [checked] at informed
    refine ⟨Bool.eq_false_iff.2 (ungiven ∘ informed.2.1), fun reached => ungiven ?_⟩
    exact (Scene.start.run schedule).signal.marked (informed.2.2.1 reached)

/-- Two calls overlap: both have marked the signal and one of them has sent its message. An observer
has checked before and has looked at its receiver in between. -/
def overlapping : List Move := [.observe 0, .observe 0, .call 0, .call 1, .observe 0, .call 1]

/-- Where calls overlap, the message waits for the observer that was told nothing; one that comes
later is told; and without a call nobody is. -/
theorem never_missed_overlapping :
    ((Scene.start.run overlapping).observers 0 = .checked ⟨0⟩ false [.empty] ∧
      ((Scene.start.run overlapping).signal.receive ⟨0⟩).1.isMessage = true) ∧
    (∃ given, (Scene.start.run (overlapping ++ [.observe 1, .observe 1])).observers 1 =
      .checked ⟨1⟩ given [] ∧ given = true) ∧
    ∃ given, (Scene.start.run [.observe 0, .observe 0, .observe 0]).observers 0 =
      .checked ⟨0⟩ given [.empty] ∧ given = false := by
  have unreached : ¬ Observer.Reached [.empty] := by simp [Observer.Reached, Receipt.isMessage]
  refine ⟨⟨rfl, ?_⟩, ⟨_, rfl, ?_⟩, _, rfl, ?_⟩
  · exact (((never_missed overlapping).1 1 0 ⟨0⟩ _ rfl rfl).resolve_left unreached).2
  · exact (never_missed overlapping).2.1 0 1 nofun nofun [.observe 1, .observe 1] ⟨1⟩ _ _ rfl
  · exact ((never_missed [.observe 0, .observe 0, .observe 0]).2.2 (fun _ => rfl) 0 ⟨0⟩ _ _ rfl).1

end Signalling

end ShardCluster
