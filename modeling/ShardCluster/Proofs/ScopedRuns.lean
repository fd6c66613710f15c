import ShardCluster.Cluster.Scoped
import ShardCluster.Proofs.History
import ShardCluster.Proofs.Interruptions

/-!
# Scoped runs

A scoped run is a part for the body and then one whole teardown (`leads_runScoped`). The body is run
only if the signal was not given before, it may be given up wherever it waits once the signal has
been given (`leads_bodyPart`), and nothing gives up the teardown. `runScoped_spec` says exactly what
a scoped run can come to, and when it comes to an end.
-/

namespace ShardCluster

open Scenario (Floor)
open ShardCluster.Task (Assures Beside Leads LeadsInterrupted Undisturbed)

namespace Task

variable {S α β : Type} {env : S → S → Prop} {s s' : S}

lemma leads_read_bind {f : S → α} {g : α → Task S β} {r : Option β} :
    Leads env (read f >>= g) s r s' ↔ Leads env (g (f s)) s r s' := by
  show Leads env (act id fun s => g (f s)) s r s' ↔ _
  rw [leads_act]
  rfl

lemma ends_read_bind {f : S → α} {g : α → Task S β} :
    (read f >>= g).Ends env s ↔ (g (f s)).Ends env s := Iff.rfl

lemma ends_moment_bind {g : Unit → Task S β} :
    (moment >>= g).Ends env s ↔ ∀ s₁, env s s₁ → (g ()).Ends env s₁ := by
  show (∀ s₁, env s s₁ → _ ∧ (g ()).Ends env s₁) ↔ _
  simp

lemma leads_moment_bind {g : Unit → Task S β} {r : Option β} :
    Leads env (moment >>= g) s r s' ↔
      (r = none ∧ s' = s) ∨ ∃ s₁, env s s₁ ∧ Leads env (g ()) s₁ r s' := by
  show Leads env (pause none (fun _ => true) (g ())) s r s' ↔ _
  simp [leads_pause]

/-- A check, and a moment after it if nothing was given. -/
lemma leads_unlessGiven {given : Bool} {g : Unit → Task S (Option α)} {r : Option (Option α)} :
    Leads env (if given = true then pure none else moment >>= g) s r s' ↔
      (given = true ∧ r = some none ∧ s' = s) ∨
        (given = false ∧ ((r = none ∧ s' = s) ∨ ∃ s₁, env s s₁ ∧ Leads env (g ()) s₁ r s')) := by
  cases given
  · simp [leads_moment_bind]
  · have nothing : Leads env (pure none : Task S (Option α)) s r s' ↔ r = some none ∧ s' = s :=
      leads_done
    simp [nothing]

lemma ends_unlessGiven {given : Bool} {g : Unit → Task S (Option α)} :
    (if given = true then pure none else moment >>= g : Task S (Option α)).Ends env s ↔
      (given = false → ∀ s₁, env s s₁ → (g ()).Ends env s₁) := by
  cases given
  · simp [ends_moment_bind]
  · simp [ends_pure]

end Task

/-! ### The signal -/

namespace HeldShutdown

variable {s : HeldShutdown} {r : Receiver}

/-- **The signal interrupts** a receiver: there is a message for it, or the news that it has missed
some. -/
structure Interrupts (s : HeldShutdown) (r : Receiver) : Prop where
  sent : r.seen < s.sent
  receipt : (s.receive r).1 = .signal ∨ ∃ missed, (s.receive r).1 = .lagged missed

/-- A channel with a handle is never closed, so a receiver that is ready has been sent something. -/
lemma isReady_iff_interrupts : s.isReady r = true ↔ s.Interrupts r := by
  have held : s.handles ≠ 0 := Nat.pos_iff_ne_zero.1 s.held
  have ready : s.isReady r = true ↔ r.seen < s.sent := by
    simp [Shutdown.isReady, beq_eq_false_iff_ne.2 held]
  rw [ready]
  refine ⟨fun sent => ⟨sent, ?_⟩, Interrupts.sent⟩
  unfold Shutdown.receive
  rw [if_neg sent.ne]
  split
  · exact .inl rfl
  · exact .inr ⟨_, rfl⟩

lemma Interrupts.triggered (h : s.Interrupts r) : s.triggered = true :=
  s.marked (Nat.zero_lt_of_lt h.sent)

end HeldShutdown

namespace Cluster

variable {P W R : Type}

/-! ### The part of the body -/

/-- A run that began in `start` has been sent the signal since. -/
def Signalled (signal : W → HeldShutdown) (start s : Cluster P × W) : Prop :=
  (signal s.2).Interrupts (signal start.2).subscribe

/-- **The body begins**: the signal has not been given when it is checked, and does not interrupt
the body before its first step. -/
def BodyBegins (env : W → W → Prop) (signal : W → HeldShutdown) (favoured : W → Bool)
    (start s : Cluster P × W) : Prop :=
  ∃ s₁, Beside env start s₁ ∧ (signal s₁.2).triggered = false ∧
    Undisturbed (Beside env) (Signalled signal start) (fun s => favoured s.2) s₁ s

/-- **What becomes of the body** of a scoped run: nothing yet, or a result, or none for good,
because it was not run or was given up. -/
inductive BodyPart (env : W → W → Prop) (signal : W → HeldShutdown) (favoured : W → Bool)
    (body : ClusterAction P W R) (start : Cluster P × W) :
    Option (Option (Except ClusterError R)) → Cluster P × W → Prop
  /-- The signal has not been checked yet. -/
  | checking : BodyPart env signal favoured body start none start
  /-- The signal was given before the check. -/
  | skipped {s : Cluster P × W} : Beside env start s → (signal s.2).triggered = true →
      BodyPart env signal favoured body start (some none) s
  /-- The body has not begun yet. -/
  | beginning {s : Cluster P × W} : Beside env start s → (signal s.2).triggered = false →
      BodyPart env signal favoured body start none s
  /-- The signal was given after the check and before the first step of the body. -/
  | forestalled {s₁ s : Cluster P × W} : Beside env start s₁ → (signal s₁.2).triggered = false →
      Beside env s₁ s → Signalled signal start s → favoured s.2 = false →
      BodyPart env signal favoured body start (some none) s
  /-- The body has begun. -/
  | ran {s₁ s : Cluster P × W} {outcome : Option (Option (Except ClusterError R))} :
      BodyBegins env signal favoured start s₁ →
      LeadsInterrupted (Beside env) (Signalled signal start) (fun s => favoured s.2) body.run s₁
        outcome s →
      BodyPart env signal favoured body start outcome s

/-- a scoped run up to its teardown -/
def scopedBody (signal : W → HeldShutdown) (favoured : W → Bool) (body : ClusterAction P W R) :
    Task (Cluster P × W) (Option (Except ClusterError R)) := do
  let receiver ← Task.read fun (_, w) => (signal w).subscribe
  let due := fun (s : Cluster P × W) => (signal s.2).isReady receiver
  let preferred := fun (s : Cluster P × W) => favoured s.2
  Task.moment
  if ← Task.read fun (_, w) => (signal w).triggered then pure none
  else do
    Task.moment
    Task.unlessDue due preferred (Task.interruptible due preferred body.run)

section BodyPart

variable {env : W → W → Prop} {host : Host P W} {signal : W → HeldShutdown} {favoured : W → Bool}
  {body : ClusterAction P W R} {start s : Cluster P × W}

lemma runScoped_eq : runScoped host signal favoured body =
    scopedBody signal favoured body >>= fun outcome => settled outcome <$> (teardown host).run := by
  simp only [runScoped, scopedBody, bind_assoc, map_eq_pure_bind]
  refine bind_congr fun receiver => bind_congr fun _ => bind_congr fun given => ?_
  cases given <;> simp

lemma isReady_iff (p : Cluster P × W) :
    (signal p.2).isReady (signal start.2).subscribe = true ↔ Signalled signal start p :=
  HeldShutdown.isReady_iff_interrupts

lemma Signalled.triggered (h : Signalled signal start s) : (signal s.2).triggered = true :=
  HeldShutdown.Interrupts.triggered h

/-- The body is without a result for good only if the signal has been given. -/
lemma BodyPart.triggered (h : BodyPart env signal favoured body start (some none) s) :
    (signal s.2).triggered = true := by
  cases h with
  | skipped _ given => exact given
  | forestalled _ _ _ given _ => exact given.triggered
  | ran _ h =>
    cases h with
    | givenUp _ _ given _ => exact given.triggered

/-- **The part of the body**, exactly. -/
theorem leads_scopedBody {outcome : Option (Option (Except ClusterError R))} :
    Leads (Beside env) (scopedBody signal favoured body) start outcome s ↔
      BodyPart env signal favoured body start outcome s := by
  simp only [scopedBody, Task.leads_read_bind, Task.leads_moment_bind, Task.leads_unlessGiven]
  constructor
  · rintro (⟨rfl, rfl⟩ | ⟨s₁, he₁, ⟨given, rfl, rfl⟩ | ⟨given, ⟨rfl, rfl⟩ | ⟨s₂, he₂, h⟩⟩⟩)
    · exact .checking
    · exact .skipped he₁ given
    · exact .beginning he₁ given
    rcases (Task.leads_unlessDue isReady_iff).1 h with ⟨rfl, rfl, due, unfavoured⟩ | ⟨spared, h⟩
    · exact .forestalled he₁ given he₂ due unfavoured
    · exact .ran ⟨s₁, he₁, given, he₂, spared⟩ ((Task.leads_interruptible isReady_iff).1 h)
  · intro h
    cases h with
    | checking => exact .inl ⟨rfl, rfl⟩
    | skipped he₁ given => exact .inr ⟨s, he₁, .inl ⟨given, rfl, rfl⟩⟩
    | beginning he₁ given => exact .inr ⟨s, he₁, .inr ⟨given, .inl ⟨rfl, rfl⟩⟩⟩
    | @forestalled s₁ _ he₁ given he₂ due unfavoured =>
      refine .inr ⟨s₁, he₁, .inr ⟨given, .inr ⟨s, he₂, ?_⟩⟩⟩
      exact (Task.leads_unlessDue isReady_iff).2 (.inl ⟨rfl, rfl, due, unfavoured⟩)
    | @ran s₂ _ _ begins h =>
      obtain ⟨s₁, he₁, given, he₂, spared⟩ := begins
      refine .inr ⟨s₁, he₁, .inr ⟨given, .inr ⟨s₂, he₂, ?_⟩⟩⟩
      exact (Task.leads_unlessDue isReady_iff).2
        (.inr ⟨spared, (Task.leads_interruptible isReady_iff).2 h⟩)

/-- **The part of the body ends** exactly if the body ends or is interrupted wherever it begins. -/
theorem ends_scopedBody : (scopedBody signal favoured body).Ends (Beside env) start ↔
    ∀ s, BodyBegins env signal favoured start s →
      body.run.EndsOrDue (Beside env) (Signalled signal start) (fun s => favoured s.2) s := by
  simp only [scopedBody, Task.ends_read_bind, Task.ends_moment_bind, Task.ends_unlessGiven,
    Task.ends_unlessDue isReady_iff, Task.ends_interruptible isReady_iff]
  constructor
  · rintro ends s ⟨s₁, he₁, given, he₂, spared⟩
    exact ends s₁ he₁ given s he₂ spared
  · intro ends s₁ he₁ given s he₂ spared
    exact ends s ⟨s₁, he₁, given, he₂, spared⟩

/-- **The parts of a scoped run**: first that of the body, then one teardown, which goes on until it
ends whatever is signalled. -/
theorem leads_runScoped {r : Option (Except ClusterError (ScopeExit R))} {p : Cluster P × W} :
    Leads (Beside env) (runScoped host signal favoured body) start r p ↔
      (r = none ∧ BodyPart env signal favoured body start none p) ∨
        ∃ outcome s t, BodyPart env signal favoured body start (some outcome) s ∧
          Leads (Beside env) (teardown host).run s t p ∧ r = t.map (settled outcome) := by
  rw [runScoped_eq]
  refine Task.leads_bind.trans ?_
  simp only [leads_scopedBody, Task.leads_map]
  refine or_congr_right ⟨?_, ?_⟩
  · rintro ⟨outcome, s, part, t, rfl, torn⟩
    exact ⟨outcome, s, t, part, torn, rfl⟩
  · rintro ⟨outcome, s, t, part, torn, rfl⟩
    exact ⟨outcome, s, part, t, rfl, torn⟩

/-- **A scoped run ends** exactly if both of its parts do. -/
theorem ends_runScoped : (runScoped host signal favoured body).Ends (Beside env) start ↔
    (∀ s, BodyBegins env signal favoured start s →
      body.run.EndsOrDue (Beside env) (Signalled signal start) (fun s => favoured s.2) s) ∧
    ∀ outcome s, BodyPart env signal favoured body start (some outcome) s →
      (teardown host).run.Ends (Beside env) s := by
  rw [runScoped_eq, Task.ends_bind, ends_scopedBody]
  simp only [leads_scopedBody, map_eq_pure_bind, Task.ends_bind, Task.ends_pure, implies_true,
    and_true]

end BodyPart

/-! ### Bodies -/

/-- A body takes one turn after another until one has a result, perhaps for ever. -/
structure Body (P W R : Type) where
  State : Type
  start : State
  turn : State → ClusterAction P W (State ⊕ R)

namespace Body

/-- The body up to a number of turns, after which it waits for good. Whatever a body does, it has
done within some number of turns. -/
def upTo (b : Body P W R) : Nat → b.State → ClusterAction P W R
  | 0, _ => (Task.forever (.error default) : Task (Cluster P × W) (Except ClusterError R))
  | turns + 1, s => do
    match ← b.turn s with
    | .inl s => b.upTo turns s
    | .inr value => return value

end Body

section Results

variable {env : W → W → Prop} {host : Host P W} {signal : W → HeldShutdown} {favoured : W → Bool}
  {start : Cluster P × W}

lemma teardown_error {s p : Cluster P × W} {e : ClusterError}
    (h : Leads (Beside env) (teardown host).run s (some (.error e)) p) :
    ∃ failures, failures ≠ [] ∧ e = .teardown failures := by
  have spec : Assures (Beside env) (fun _ => True) (fun _ _ => True)
      (fun e _ => ∃ failures, failures ≠ [] ∧ e = .teardown failures) (teardown host) s := by
    unfold teardown
    simp only [Task.assures_bind, Task.assures_liftM, Task.ensures_atomic]
    refine Task.ensures_of_forall (fun _ => trivial) fun failures _ => ?_
    split
    · exact Task.assures_pure.2 trivial
    · rename_i failed
      exact Task.assures_throw.2 ⟨failures, failed, rfl⟩
  exact spec _ _ h

lemma settled_eq_completed {outcome : Option (Except ClusterError R)}
    {torn : Except ClusterError Unit} {value : R} :
    settled outcome torn = .ok (.completed value) ↔ outcome = some (.ok value) ∧ torn = .ok () := by
  rcases outcome with _ | _ | _ <;> rcases torn with _ | _ <;> simp [settled]

lemma settled_eq_interrupted {outcome : Option (Except ClusterError R)}
    {torn : Except ClusterError Unit} :
    settled outcome torn = .ok .interrupted ↔ outcome = none ∧ torn = .ok () := by
  rcases outcome with _ | _ | _ <;> rcases torn with _ | _ <;> simp [settled]

lemma settled_eq_error {outcome : Option (Except ClusterError R)} {torn : Except ClusterError Unit}
    {e : ClusterError} : settled outcome torn = .error e ↔ outcome = some (.error e) ∨
      (∀ own, outcome ≠ some (.error own)) ∧ torn = .error e := by
  rcases outcome with _ | _ | _ <;> rcases torn with _ | _ <;> simp [settled]

lemma eq_settled_iff {outcome : Option (Except ClusterError R)} {torn : Except ClusterError Unit}
    {result : Except ClusterError (ScopeExit R)} :
    result = settled outcome torn ↔
      (∀ value, result = .ok (.completed value) ↔ outcome = some (.ok value) ∧ torn = .ok ()) ∧
      (result = .ok .interrupted ↔ outcome = none ∧ torn = .ok ()) ∧
      ∀ e, result = .error e ↔ outcome = some (.error e) ∨
        (∀ own, outcome ≠ some (.error own)) ∧ torn = .error e := by
  constructor
  · rintro rfl
    exact ⟨fun _ => settled_eq_completed, settled_eq_interrupted, fun _ => settled_eq_error⟩
  · rintro ⟨completed, interrupted, failed⟩
    rcases result with e | value | _
    · exact (settled_eq_error.2 ((failed e).1 rfl)).symm
    · exact (settled_eq_completed.2 ((completed value).1 rfl)).symm
    · exact (settled_eq_interrupted.2 (interrupted.1 rfl)).symm

/-- **Scoped runs**, of any body and in any state. What a run can come to is just this: to be in the
part of the body, or in the one teardown that follows it wherever that part leads, or at the end of
that teardown. Then its result is the value of the body if both succeeded, and the error of the body
if it failed; a body without a result was interrupted by the signal; and otherwise the failures of
the teardown count. The run comes to its end if the body never waits for good without the signal and
the teardown comes to its end. -/
theorem runScoped_spec {body : Body P W R} {turns : Nat} :
    (∀ r p, Leads (Beside env)
        (runScoped host signal favoured (body.upTo turns body.start)) start r p ↔
      (r = none ∧ BodyPart env signal favoured (body.upTo turns body.start) start none p) ∨
      ∃ outcome s,
        BodyPart env signal favoured (body.upTo turns body.start) start (some outcome) s ∧
        ((r = none ∧ Leads (Beside env) (teardown host).run s none p) ∨
          ∃ result torn, r = some result ∧
            Leads (Beside env) (teardown host).run s (some torn) p ∧
            (∀ value, result = .ok (.completed value) ↔
              outcome = some (.ok value) ∧ torn = .ok ()) ∧
            (result = .ok .interrupted ↔ outcome = none ∧ torn = .ok ()) ∧
            ∀ e, result = .error e ↔ outcome = some (.error e) ∨
              (∀ own, outcome ≠ some (.error own)) ∧ torn = .error e)) ∧
    (∀ s, BodyPart env signal favoured (body.upTo turns body.start) start (some none) s →
      (signal s.2).triggered = true) ∧
    (∀ s p e, Leads (Beside env) (teardown host).run s (some (.error e)) p →
      ∃ failures, failures ≠ [] ∧ e = .teardown failures) ∧
    ((runScoped host signal favoured (body.upTo turns body.start)).Ends (Beside env) start ↔
      (∀ s, BodyBegins env signal favoured start s →
        (body.upTo turns body.start).run.EndsOrDue (Beside env) (Signalled signal start)
          (fun s => favoured s.2) s) ∧
      ∀ outcome s,
        BodyPart env signal favoured (body.upTo turns body.start) start (some outcome) s →
        (teardown host).run.Ends (Beside env) s) := by
  refine ⟨fun r p => ?_, fun _ => BodyPart.triggered, fun _ _ _ => teardown_error, ends_runScoped⟩
  rw [leads_runScoped]
  refine or_congr_right (exists_congr fun outcome => exists_congr fun s => ?_)
  simp only [← eq_settled_iff]
  constructor
  · rintro ⟨none | torn, part, led, rfl⟩
    · exact ⟨part, .inl ⟨rfl, led⟩⟩
    · exact ⟨part, .inr ⟨_, torn, rfl, led, rfl⟩⟩
  · rintro ⟨part, ⟨rfl, led⟩ | ⟨_, torn, rfl, led, rfl⟩⟩
    · exact ⟨none, part, led, rfl⟩
    · exact ⟨some torn, part, led, rfl⟩

/-! ### A body without an end -/

/-- sets a coordinator up and then runs the same statement, again and again or once -/
def querying (endless : Bool) : Body Simulated.Process Floor Unit where
  State := Bool
  start := false
  turn up := do
    if up then let _ ← runOnNode Floor.host "Lord" "select 1"
    else let _ ← bootstrap Floor.host "Lord" 5432
    return if up && !endless then .inr () else .inl true

/-- gives the signal a tenth of a second later, if a server runs then -/
def interruptSoon : Alarm (Cluster Simulated.Process × Floor) where
  wait := 100000000
  ring s := if s.2.engine.running = [] then s
    else (s.1, { s.2 with shutdown := s.2.shutdown.trigger })

/-- Others leave the servers alone, and give the signal only while one runs. -/
def Interrupting (f f' : Floor) : Prop :=
  f'.engine = f.engine ∧
    (f'.shutdown.triggered = true → f.shutdown.triggered = true ∨ f.engine.running ≠ [])

lemma Interrupting.refl (f : Floor) : Interrupting f f := ⟨rfl, .inl⟩

lemma Interrupting.trans {f f' f'' : Floor} (h : Interrupting f f') (h' : Interrupting f' f'') :
    Interrupting f f'' := by
  refine ⟨h'.1.trans h.1, fun given => ?_⟩
  rcases h'.2 given with before | runs
  · exact h.2 before
  · exact .inr (h.1 ▸ runs)

lemma interrupting_ring (s : Cluster Simulated.Process × Floor) :
    Beside Interrupting s (interruptSoon.ring s) := by
  unfold interruptSoon
  dsimp only
  split
  · exact ⟨rfl, .refl s.2⟩
  · rename_i runs
    exact ⟨rfl, rfl, fun _ => .inr runs⟩

/-- The body that never ends begins, is interrupted, and torn down after that. The one that asks
once leads to its value, while nobody else acts. -/
theorem runScoped_querying :
    (∃ begun s p,
      BodyBegins Interrupting Floor.shutdown (fun _ => false) (.ofDefaults, .empty) begun ∧
      LeadsInterrupted (Beside Interrupting) (Signalled Floor.shutdown (.ofDefaults, .empty))
        (fun _ => false) ((querying true).upTo 5 false).run begun (some none) s ∧
      s.2.shutdown.triggered = true ∧
      Leads (Beside Interrupting) (teardown Floor.host).run s (some (.ok ())) p ∧
      p.2.engine.running = []) ∧
    ∃ s p, BodyPart (fun w w' => w' = w) Floor.shutdown (fun _ => true)
        ((querying false).upTo 5 false) (.ofDefaults, .empty) (some (some (.ok ()))) s ∧
      s.2.engine.running = [5432] ∧
      Leads (Beside fun w w' => w' = w) (runScoped Floor.host Floor.shutdown (fun _ => true)
        ((querying false).upTo 5 false)) (.ofDefaults, .empty) (some (.ok (.completed ()))) p ∧
      p.2.engine.running = [] := by
  constructor
  · have interrupted : ((((runScoped Floor.host Floor.shutdown (fun _ => false)
        ((querying true).upTo 5 false)).run [interruptSoon] (.ofDefaults, .empty)).1.map
          (·.toOption.map ScopeExit.isInterrupted))) = some (some true) := by decide +kernel
    obtain ⟨result, ended, hr⟩ := Option.map_eq_some_iff.1 interrupted
    obtain rfl : result = .ok .interrupted := by
      rcases result with _ | (_ | _)
      · cases hr
      · cases hr
      · rfl
    have led : Leads (Beside Interrupting) _ _ _ _ :=
      Task.leads_of_run (fun s => ⟨rfl, .refl s.2⟩) (fun h h' => ⟨h'.1.trans h.1, h.2.trans h'.2⟩)
        (List.forall_mem_singleton.2 interrupting_ring) ended
    rcases (runScoped_spec.1 _ _).1 led with
      ⟨none, -⟩ | ⟨outcome, s, part, ⟨none, -⟩ | ⟨_, torn, same, left, -, stopped, -⟩⟩
    · cases none
    · cases none
    obtain ⟨rfl, rfl⟩ := stopped.1 (Option.some.inj same).symm
    have ungiven {f : Floor} (others : Interrupting .empty f) : ¬ f.shutdown.triggered = true :=
      fun given => (others.2 given).elim (by decide) (absurd rfl)
    cases part with
    | skipped others given => exact (ungiven others.2 given).elim
    | forestalled others _ others' given =>
      exact (ungiven (others.2.trans others'.2) given.triggered).elim
    | ran begins given =>
      exact ⟨_, s, _, begins, given, BodyPart.triggered (.ran begins given), left,
        by decide +kernel⟩
  · let start : Cluster Simulated.Process × Floor := (.ofDefaults, .empty)
    let body := (querying false).upTo 5 false
    let asked := body.run.run [] start
    let left := (teardown Floor.host).run.run [] asked.2
    have quiet : Task.Quiet (Beside (X := Cluster Simulated.Process) fun w w' : Floor => w' = w) :=
      Task.quiet_eq.beside
    have done : asked.1 = some (.ok ()) := eq_some_ok (by decide +kernel)
    have torn : left.1 = some (.ok ()) := eq_some_ok (by decide +kernel)
    have part : BodyPart (fun w w' => w' = w) Floor.shutdown (fun _ => true) body start
        (some (some (.ok ()))) asked.2 :=
      .ran ⟨start, ⟨rfl, rfl⟩, rfl, ⟨rfl, rfl⟩, fun _ => rfl⟩
        (.ended ((Task.leads_of_quiet_run quiet done).mono fun _ _ he => ⟨he, fun _ => rfl⟩))
    refine ⟨asked.2, left.2, part, by decide +kernel, ?_, by decide +kernel⟩
    exact (runScoped_spec.1 _ _).2 (.inr ⟨_, asked.2, part, .inr ⟨_, .ok (), rfl,
      Task.leads_of_quiet_run quiet torn, by simp, by simp, by simp⟩⟩)

end Results

end Cluster

end ShardCluster
