import ShardCluster.Proofs.Failures

/-!
# Coordinators left half way

A coordinator that was being set up when its call was given up stays in its place without being
recorded. From then on both calls that bring up a node are refused, one because there is a
coordinator and the other because there is none, and only a teardown puts an end to this
(`History.bootstrap_barred`). A worker that is left half way makes way for the next one.
-/

namespace ShardCluster

open ShardCluster.Task (Ensures Assures Beside Leads)

variable {P W : Type} {env : W → W → Prop} {host : Host P W}

/-- the refusal of a coordinator where there is one -/
def alreadyBootstrapped : ClusterError := .precondition "coordinator already bootstrapped"

/-- the refusal of a worker where no coordinator is recorded -/
def notBootstrapped : ClusterError := .precondition "coordinator not bootstrapped"

/-- Whether a coordinator is left half way by an event, when one was before or not. -/
def Event.leavesHalfWay (before : Bool) : Event → Bool
  | .givenUp (.bootstrap _ _) => true
  | .ended .teardown | .givenUp .teardown => false
  | _ => before

/-- Whether setting up a coordinator has been given up since the last teardown. -/
def leftHalfWay (events : List Event) : Bool :=
  events.foldr (fun event before => event.leavesHalfWay before) false

namespace Cluster

variable {c : Cluster P} {w : W} {name statement : String} {port : UInt16}

/-- A coordinator is there and not recorded. -/
def HalfWay (c : Cluster P) : Prop :=
  c.coordinator.isSome ∧ c.membership.coordinator = none

/-- The clusters have the same coordinator, recorded or not. -/
def SameLead (c c' : Cluster P) : Prop :=
  c'.coordinator = c.coordinator ∧ c'.membership.coordinator = c.membership.coordinator

lemma SameLead.halfWay {c' : Cluster P} (h : c.SameLead c') : c'.HalfWay ↔ c.HalfWay := by
  rw [HalfWay, h.1, h.2, HalfWay]

/-- Bootstrapping leaves a coordinator half way wherever it waits, and never where it ends. -/
lemma bootstrap_halfWay (agrees : c.Agrees) : Assures (Beside env) (fun p => p.1.HalfWay)
    (fun _ p => p.1.HalfWay ↔ c.HalfWay) (fun _ p => p.1.HalfWay ↔ c.HalfWay)
    (bootstrap host name port) (c, w) := by
  rcases vacant : c.coordinator with _ | lead
  · have unrecorded : c.membership.coordinator = none := by
      rcases recorded : c.membership.coordinator with _ | i
      · rfl
      · obtain ⟨n, there, -⟩ := agrees.led i recorded
        rw [vacant] at there
        cases there
    have before : ¬ c.HalfWay := by simp [HalfWay, vacant]
    have dismissed (e : ClusterError) (p : Node P × W) : Dismisses env host withLead
        (fun p => p.1.HalfWay) (fun _ p => p.1.HalfWay ↔ c.HalfWay) c e p :=
      Task.assures_of_forall (fun _ => ⟨rfl, unrecorded⟩) (fun _ _ => Iff.rfl) fun _ p => by
        simp [HalfWay, settle, vacant]
    rcases checked : c.checkIdentity (.under c.config.baseDirectory name port) with e | _
    · exact assures_bootstrap_refused vacant checked Iff.rfl
    refine assures_bootstrap vacant checked (Task.assures_of_forall (fun _ => ⟨rfl, unrecorded⟩)
      (fun _ p => ?_) dismissed)
    refine Task.assures_of_forall (fun _ => ⟨rfl, unrecorded⟩) (fun _ _ => ?_)
      fun e _ => dismissed e _
    simp [HalfWay, vacant]
  · unfold bootstrap
    simp only [Task.assures_bind, assures_current, vacant, Option.isSome_some, if_true,
      Task.assures_throw]

lemma releaseOnboarding_sameLead : Assures (Beside env) (fun p => c.SameLead p.1)
    (fun _ p => c.SameMembers p.1 ∧ p.1.onboarding = none) (fun _ _ => False)
    (releaseOnboarding host) (c, w) := by
  have lead : Assures (Beside env) (fun p => c.SameLead p.1) (fun _ _ => True) (fun _ _ => True)
      (releaseOnboarding host) (c, w) := by
    rcases there : c.onboarding with _ | old
    · exact (assures_releaseOnboarding_vacant there).2 trivial
    · exact assures_releaseOnboarding there (Task.assures_of_forall (fun _ => ⟨rfl, rfl⟩)
        (fun _ _ => trivial) fun _ _ => trivial)
  exact (releaseOnboarding_keeps.and lead).mono (fun _ h => h.2) (fun _ _ h => h.1) fun _ _ h => h.1

lemma addWorker_sameLead (agrees : c.Agrees) : Assures (Beside env) (fun p => c.SameLead p.1)
    (fun _ p => c.SameLead p.1) (fun _ p => c.SameLead p.1) (addWorker host name port) (c, w) := by
  rcases led : c.membership.coordinator with _ | recorded
  · unfold addWorker
    simp only [Task.assures_bind, assures_current, led, Task.assures_throw]
    exact ⟨rfl, rfl⟩
  by_cases full : c.membership.workers.length ≥ c.config.plannedWorkers
  · unfold addWorker
    simp only [Task.assures_bind, assures_current, led, if_pos full, Task.assures_throw]
    exact ⟨rfl, rfl⟩
  have admits : c.Admits recorded := ⟨led, not_le.1 full⟩
  obtain ⟨lead, there, -⟩ := agrees.led recorded led
  refine (assures_addWorker_cleared admits).2 (releaseOnboarding_sameLead.of_infallible ?_)
  rintro - ⟨c', w'⟩ ⟨same, vacant⟩
  simp only at same vacant
  have alike {c'' : Cluster P} (h : c'.SameLead c'') : c.SameLead c'' :=
    ⟨h.1.trans same.coordinator, h.2.trans (congrArg Membership.coordinator same.membership)⟩
  have dismissed (e : ClusterError) (p : Node P × W) : Dismisses env host withNewcomer
      (fun p => c.SameLead p.1) (fun _ p => c.SameLead p.1) c' e p :=
    Task.assures_of_forall (fun _ => alike ⟨rfl, rfl⟩) (fun _ _ => alike ⟨rfl, rfl⟩)
      fun _ _ => alike ⟨rfl, rfl⟩
  rcases checked : c'.checkIdentity (.under c'.config.baseDirectory name port) with e | _
  · exact assures_addWorker_refused (admits.same same) vacant checked (alike ⟨rfl, rfl⟩)
  refine assures_addWorker (admits.same same) (same.coordinator.trans there) vacant checked
    (Task.assures_of_forall (fun _ => alike ⟨rfl, rfl⟩) (fun _ p => ?_) dismissed)
  refine Task.assures_of_forall (fun _ => alike ⟨rfl, rfl⟩) (fun _ _ => ?_) fun e _ => dismissed e _
  exact Task.assures_of_forall (fun _ => alike ⟨rfl, rfl⟩) (fun _ _ => alike ⟨rfl, rfl⟩)
    fun e _ => dismissed e _

lemma executeOnCoordinator_same : Assures (Beside env) (fun p => p.1 = c) (fun _ p => p.1 = c)
    (fun _ p => p.1 = c) (executeOnCoordinator host statement) (c, w) := by
  unfold executeOnCoordinator
  simp only [Task.assures_bind, assures_current, Task.assures_ite]
  split
  · exact Task.assures_throw.2 rfl
  split
  · exact assures_outside.2 (Task.assures_of_forall (fun _ => rfl) (fun _ _ => rfl) fun _ _ => rfl)
  · exact Task.assures_throw.2 rfl

lemma runOnNode_same : Assures (Beside env) (fun p => p.1 = c) (fun _ p => p.1 = c)
    (fun _ p => p.1 = c) (runOnNode host name statement) (c, w) := by
  unfold runOnNode
  simp only [Task.assures_bind, assures_current]
  split
  · exact assures_outside.2 (Task.assures_of_forall (fun _ => rfl) (fun _ _ => rfl) fun _ _ => rfl)
  · exact Task.assures_throw.2 rfl

lemma release_vacant {n : Node P} (vacant : c.coordinator = none) :
    Ensures (Beside env) (fun p => p.1.coordinator = none) (fun _ p => p.1.coordinator = none)
      (release host n) (c, w) := by
  unfold release
  refine Task.ensures_bind.2 (Task.ensures_owning.2 (Task.ensures_of_forall (fun _ => vacant) ?_))
  rintro (e | _) ⟨n', w'⟩
  · exact Task.ensures_bind.2 (Task.ensures_update.2 (Task.ensures_pure.2 vacant))
  · exact Task.ensures_pure.2 vacant

lemma releaseAll_vacant {nodes : List (Node P)} (vacant : c.coordinator = none) :
    Ensures (Beside env) (fun p => p.1.coordinator = none) (fun _ p => p.1.coordinator = none)
      (releaseAll host nodes) (c, w) := by
  induction nodes generalizing c w with
  | nil => exact Task.ensures_pure.2 vacant
  | cons n rest ih =>
    unfold releaseAll
    refine Task.ensures_bind.2 ((release_vacant vacant).mono (fun _ h => h) ?_)
    rintro failure ⟨c', w'⟩ vacant'
    exact Task.ensures_bind.2 ((ih vacant').mono (fun _ h => h)
      fun _ _ h => Task.ensures_pure.2 h)

lemma teardown_vacant : Assures (Beside env) (fun p => p.1.coordinator = none)
    (fun _ p => p.1.coordinator = none) (fun _ p => p.1.coordinator = none) (teardown host)
    (c, w) := by
  unfold teardown
  simp only [Task.assures_bind, Task.assures_liftM, Task.ensures_atomic]
  refine (releaseAll_vacant (c := c.emptied) rfl).mono (fun _ h => h) fun failures s h => ?_
  split
  · exact Task.assures_pure.2 h
  · exact Task.assures_throw.2 h

/-- **What a call does to a coordinator half way.** -/
theorem call_halfWay {extra : Estate P} (h : c.InOrder (fun _ _ => True) extra w) (call : Call)
    {half : Bool} (before : half = true ↔ c.HalfWay) :
    Ensures (Beside env) (fun p => (Event.givenUp call).leavesHalfWay half = true ↔ p.1.HalfWay)
      (fun _ p => (Event.ended call).leavesHalfWay half = true ↔ p.1.HalfWay)
      (call.task host) (c, w) := by
  -- a statement does nothing to the cluster
  have stays {α : Type} {x : ClusterAction P W α}
      (h : Assures (Beside env) (fun p => p.1 = c) (fun _ p => p.1 = c) (fun _ p => p.1 = c)
        x (c, w)) :
      Ensures (Beside env) (fun p => half = true ↔ p.1.HalfWay)
        (fun _ p => half = true ↔ p.1.HalfWay) (discard x.run) (c, w) := by
    refine (ensures_discard h fun _ _ h => h).mono (fun p same => ?_) fun _ p same => ?_
    · rwa [same]
    · rwa [same]
  cases call with
  | bootstrap name port =>
    refine (ensures_discard (bootstrap_halfWay h.agrees) fun _ _ h => h).mono (fun p hp => ?_)
      fun _ p hp => before.trans hp.symm
    exact iff_of_true rfl hp
  | addWorker name port =>
    exact (ensures_discard (addWorker_sameLead h.agrees) fun _ _ h => h).mono
      (fun _ same => before.trans same.halfWay.symm) fun _ _ same => before.trans same.halfWay.symm
  | partitionTable partitioning =>
    exact stays executeOnCoordinator_same
  | execute statement =>
    exact stays executeOnCoordinator_same
  | runOnNode name statement =>
    exact stays runOnNode_same
  | teardown =>
    have gone {p : Cluster P × W} (vacant : p.1.coordinator = none) :
        false = true ↔ p.1.HalfWay := by simp [HalfWay, vacant]
    exact (ensures_discard teardown_vacant fun _ _ h => h).mono (fun _ => gone) fun _ _ => gone

end Cluster

lemma Cluster.vacant_of_create {config : Config} (created : Cluster.create config = .ok c) :
    c.coordinator = none := by
  unfold Cluster.create at created
  rcases ht : config.template with e | template
  · rw [ht] at created
    cases created
  · rw [ht] at created
    obtain rfl := Except.ok.inj created
    rfl

lemma History.halfWay {config : Config} {c₀ : Cluster P} {w₀ : W} {events : List Event}
    {s : Cluster P × W} (created : Cluster.create config = .ok c₀)
    (h : History env host (c₀, w₀) events s) : leftHalfWay events = true ↔ s.1.HalfWay := by
  induction h with
  | start => simp [leftHalfWay, Cluster.HalfWay, Cluster.vacant_of_create created]
  | ended call earlier led ih =>
    obtain ⟨lost, ho⟩ := earlier.inOrder created
    exact Cluster.call_halfWay ho call ih _ _ led
  | givenUp call earlier led ih =>
    obtain ⟨lost, ho⟩ := earlier.inOrder created
    exact Cluster.call_halfWay ho call ih _ _ led
  | meanwhile _ _ ih => exact ih

/-! ### Refusals -/

section Refusals

variable {c : Cluster P} {w : W} {name : String} {port : UInt16}

/-- Bootstrapping is refused because there is a coordinator exactly where there is one. -/
lemma Cluster.refuses_bootstrap :
    (Call.bootstrap name port).FailsWith env host (c, w) alreadyBootstrapped ↔
      c.coordinator.isSome := by
  constructor
  · rintro ⟨p, led⟩
    have fails := Cluster.bootstrap_failures _ _ led
    simp only at fails
    split at fails
    · assumption
    · cases fails.not_precondition
  · intro there
    refine ⟨(c, w), ?_⟩
    unfold Cluster.bootstrap
    rw [Cluster.leads_current, if_pos there]
    exact Task.leads_done.2 ⟨rfl, rfl⟩

/-- A worker for whom there is no room is refused for that. -/
lemma full_ne_notBootstrapped (planned : String) :
    ClusterError.precondition ("cluster is sized for " ++ planned
      ++ " workers; raise planned_workers to add " ++ name) ≠ notBootstrapped := by
  intro same
  have second := congrArg (fun s => s.toList[1]?) (ClusterError.precondition.inj same)
  simp only [String.toList_append] at second
  simp at second

/-- Adding a worker is refused because no coordinator is recorded exactly where none is. -/
lemma Cluster.refuses_addWorker (agrees : c.Agrees) :
    (Call.addWorker name port).FailsWith env host (c, w) notBootstrapped ↔
      c.membership.coordinator = none := by
  constructor
  · rintro ⟨p, led⟩
    by_contra recorded
    obtain ⟨lead, recorded⟩ := Option.ne_none_iff_exists'.1 recorded
    rcases Cluster.addWorker_failures agrees _ _ led with ⟨-, unfit⟩ | ⟨_, other, -⟩
    · have full : c.membership.workers.length ≥ c.config.plannedWorkers :=
        not_lt.1 fun room => unfit lead ⟨recorded, room⟩
      unfold Cluster.addWorker at led
      rw [Cluster.leads_current, recorded] at led
      simp only [if_pos full] at led
      obtain ⟨same, -⟩ := Task.leads_done.1 led
      exact full_ne_notBootstrapped _ (Except.error.inj (Option.some.inj same)).symm
    · cases other
  · intro unrecorded
    refine ⟨(c, w), ?_⟩
    unfold Cluster.addWorker
    rw [Cluster.leads_current, unrecorded]
    exact Task.leads_done.2 ⟨rfl, rfl⟩

end Refusals

/-- **When no coordinator can be set up.** After any history, where none is recorded, a new one is
refused because there is one exactly if setting one up has been given up since the last teardown.
It is then, and only then, that a coordinator is refused because there is one, and a worker because
there is none. -/
theorem History.bootstrap_barred {config : Config} {c₀ c : Cluster P} {w₀ w : W}
    {events : List Event} (created : Cluster.create config = .ok c₀)
    (h : History env host (c₀, w₀) events (c, w)) :
    (c.membership.coordinator = none → ∀ name port,
      ((Call.bootstrap name port).FailsWith env host (c, w) alreadyBootstrapped ↔
        leftHalfWay events = true)) ∧
    ∀ name port worker workerPort,
      ((Call.bootstrap name port).FailsWith env host (c, w) alreadyBootstrapped ∧
        (Call.addWorker worker workerPort).FailsWith env host (c, w) notBootstrapped ↔
        leftHalfWay events = true) := by
  obtain ⟨lost, ho⟩ := h.inOrder created
  have half := h.halfWay created
  refine ⟨fun unrecorded name port => ?_, fun name port worker workerPort => ?_⟩
  · rw [Cluster.refuses_bootstrap, half]
    exact ⟨fun there => ⟨there, unrecorded⟩, And.left⟩
  · rw [Cluster.refuses_bootstrap, Cluster.refuses_addWorker ho.agrees, half]
    rfl

open Scenario (Floor)

/-- Setting up a coordinator is given up while its server starts. Then it cannot be set up again,
and no worker can be added. -/
theorem History.barred_half_way : ∃ s,
    History (fun w w' => w' = w) Floor.host (.ofDefaults, .slow)
      [.givenUp (.bootstrap "Lord" 5432)] s ∧
    s.1.membership.coordinator = none ∧
    (Call.bootstrap "Lord" 5432).FailsWith (fun w w' => w' = w) Floor.host s
      alreadyBootstrapped ∧
    (Call.addWorker "W1" 5433).FailsWith (fun w w' => w' = w) Floor.host s notBootstrapped := by
  have new : History (fun w w' => w' = w) Floor.host (.ofDefaults, .slow) []
    (.ofDefaults, .slow) := .start
  have h := new.cut Task.quiet_eq (.bootstrap "Lord" 5432) 100000000 (by decide +kernel)
  obtain ⟨lone, both⟩ := History.bootstrap_barred Cluster.create_ofDefaults h
  have unrecorded := ((h.halfWay Cluster.create_ofDefaults).1 (by decide)).2
  exact ⟨_, h, unrecorded, (lone unrecorded "Lord" 5432).2 (by decide),
    ((both "Lord" 5432 "W1" 5433).2 (by decide)).2⟩

end ShardCluster
