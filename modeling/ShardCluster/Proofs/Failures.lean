import ShardCluster.Proofs.Membership
import ShardCluster.Proofs.SetUpRules

/-!
# Which call fails with what

A call of a cluster fails only with errors of its own kind, whatever has happened to the cluster
before and whatever the host does: a node that cannot be set up is named by the error, a statement
fails with the text of the engine, and a teardown with the clean-ups that failed (`Cluster.Faults`).
No place of the cluster is ever found empty that should hold a node, so that the guards against this
never show (`History.failures_classified`).
-/

namespace ShardCluster

open ShardCluster.Task (Ensures Assures Beside Leads)

variable {P W : Type} {env : W → W → Prop} {host : Host P W}

namespace ClusterError

/-- the failure of setting the node of that name up -/
inductive OfSetUp (name : String) : ClusterError → Prop
  | init (reason : String) : OfSetUp name (.init name reason)
  | start (timeout : Duration) : OfSetUp name (.start name timeout)
  | crash (status logTail : String) : OfSetUp name (.crash name status logTail)
  | install (message : String) : OfSetUp name (.install name shardingExtension message)

lemma OfSetUp.not_precondition {name : String} {e : ClusterError} (h : e.OfSetUp name) :
    e.isPrecondition = false := by
  cases h <;> rfl

lemma OfSetUp.node {name : String} {e : ClusterError} (h : e.OfSetUp name) :
    e.node? = some name := by
  cases h <;> rfl

end ClusterError

open ClusterError (OfSetUp)

/-! ### Nodes -/

namespace Node

variable {n : Node P} {w : W}

/-- A node that has been set up has its identity still, and is in that phase. -/
abbrev Reached (i : Identity) (phase : Phase) (p : Node P × W) : Prop :=
  p.1.identity = i ∧ p.1.phase = phase

lemma ofSetUp_launchError (e : EngineError) : (n.launchError e).OfSetUp n.name := by
  cases e with
  | startTimeout timeout => exact .start timeout
  | crash status logTail => exact .crash status logTail
  | init | query | stop | io => exact .crash _ _

lemma ofSetUp_appendError (file : Path) (e : AppendError) :
    (n.appendError file e).OfSetUp n.name := by
  cases e <;> exact .init _

lemma init_failures (fresh : n.phase = .created) : Assures (Beside env) (fun _ => True)
    (fun _ => Reached n.identity .initialized) (fun e _ => e.OfSetUp n.name)
    (init host) (n, w) := by
  unfold init
  simp only [Task.assures_bind, assures_current, Task.assures_ite, fresh, ne_eq, not_true_eq_false,
    if_false]
  refine checkVacant_keeps (fun _ => Task.keeps_true) (fun _ => Task.keeps_true) trivial
    (fun _ _ => trivial) (fun w _ => ?_) fun _ _ _ => .init _
  simp only [assures_outside]
  refine Task.ensures_of_forall (fun _ => trivial) fun free w => ?_
  cases free
  · exact Task.assures_throw.2 (.init _)
  simp only [Bool.not_true, Bool.false_eq_true, if_false, assures_change, assures_attempt]
  refine Task.ensures_of_forall (fun _ => trivial) fun r w => ?_
  rcases r with e | _
  · exact .init _
  refine Task.ensures_of_forall (fun _ => trivial) fun r w => ?_
  rcases r with e | _
  · exact .init _
  · exact ⟨rfl, rfl⟩

lemma appendConfig_failures {text : String} (populated : n.phase = .initialized) :
    Assures (Beside env) (fun _ => True) (fun _ => Reached n.identity .initialized)
      (fun e _ => e.OfSetUp n.name) (appendConfig host text) (n, w) := by
  unfold appendConfig
  simp only [Task.assures_bind, assures_current, Task.assures_ite, populated, reduceCtorEq,
    or_self, if_false, assures_attempt]
  refine Task.ensures_of_forall (fun _ => trivial) fun r w => ?_
  rcases r with e | _
  · exact ofSetUp_appendError _ e
  · exact ⟨rfl, populated⟩

lemma start_failures (populated : n.phase = .initialized) : Assures (Beside env) (fun _ => True)
    (fun _ => Reached n.identity .running) (fun e _ => e.OfSetUp n.name) (start host) (n, w) := by
  unfold start
  simp only [Task.assures_bind, assures_current, Task.assures_ite, populated, ne_eq,
    not_true_eq_false, false_and, if_false, assures_attempt, assures_change]
  refine Task.ensures_of_forall (fun _ => trivial) fun r w => ?_
  rcases r with e | _
  · exact ofSetUp_launchError e
  · exact ⟨rfl, rfl⟩

/-- **Setting up** a new node fails with an error that names it. -/
theorem prepare_failures {settings : String} (fresh : n.phase = .created) :
    Assures (Beside env) (fun _ => True) (fun _ => Reached n.identity .running)
      (fun e _ => e.OfSetUp n.name) (Cluster.prepare host settings) (n, w) := by
  have named {m : Node P} (same : m.identity = n.identity) (e : ClusterError)
      (h : e.OfSetUp m.name) : e.OfSetUp n.name := by
    rwa [Node.name, same] at h
  unfold Cluster.prepare
  simp only [Task.assures_bind]
  refine (init_failures fresh).mono (fun _ h => h) ?_ fun _ _ h => h
  rintro - ⟨m, w⟩ ⟨same, populated⟩
  refine (appendConfig_failures populated).mono (fun _ h => h) ?_ fun e _ h => named same e h
  rintro - ⟨m', w⟩ ⟨same', populated⟩
  have same'' : m'.identity = n.identity := Eq.trans same' same
  refine (start_failures populated).mono (fun _ h => h) ?_ fun e _ h => named same'' e h
  rintro - p ⟨same₃, running⟩
  exact ⟨same₃.trans same'', running⟩

lemma installExtension_failures {dbname : String} : Assures env (fun _ => True)
    (fun _ _ => True) (fun e _ => e.OfSetUp n.name)
    (Cluster.installExtension host n dbname) w :=
  installExtension_keeps Task.keeps_true trivial (fun _ _ => trivial) (fun _ _ => trivial)
    fun _ _ _ => .install _

lemma stop_failures : Assures (Beside env) (fun _ => True) (fun _ _ => True)
    (fun e _ => ∃ reason, e = .cleanup n.name reason) (stop host) (n, w) := by
  unfold stop
  simp only [Task.assures_bind, assures_current, Task.assures_ite]
  split
  · exact Task.assures_pure.2 trivial
  rcases n.process with _ | process
  · simp only [assures_change]
  · simp only [Task.assures_bind, assures_attempt, assures_change]
    refine Task.ensures_of_forall (fun _ => trivial) fun r w => ?_
    rcases r with e | _
    · exact ⟨_, rfl⟩
    · trivial

/-- **Cleaning up** a node fails with an error that names it. -/
theorem cleanup_failures : Assures (Beside env) (fun _ => True) (fun _ _ => True)
    (fun e _ => ∃ reason, e = .cleanup n.name reason) (cleanup host) (n, w) := by
  unfold cleanup
  simp only [Task.assures_bind, assures_current, Task.assures_ite]
  split
  · exact Task.assures_pure.2 trivial
  refine stop_failures.mono (fun _ h => h) ?_ fun _ _ h => h
  rintro - ⟨m, w⟩ -
  split
  · refine assures_outside.2 (Task.ensures_of_forall (fun _ => trivial) fun r w => ?_)
    split
    · exact assures_change.2 trivial
    · exact assures_change.2 trivial
    · exact Task.assures_bind.2 (Task.assures_throw.2 ⟨_, rfl⟩)
  · exact assures_change.2 trivial

/-- **A statement** on a running node fails with the text of the engine. -/
theorem runSql_failures {database statement : String} (running : n.phase = .running) :
    Assures env (fun _ => True) (fun _ _ => True)
      (fun e w' => ∃ cause, e = .query n.name statement cause.message ∧
        Leads env (host.engine.execute n.port database statement) w (some (.error cause)) w')
      (n.runSql host database statement) w := by
  unfold Assures
  rw [Cluster.runSql_run running, Task.ensures_map]
  rintro (_ | cause | text) w' led
  · trivial
  · exact ⟨cause, rfl, led⟩
  · trivial

end Node

/-! ### Clusters -/

/-- The server of a member rejects a statement, and its text is that of the error. -/
def Identity.Rejects (env : W → W → Prop) (host : Host P W) (i : Identity)
    (database statement : String) (w : W) (e : ClusterError) : Prop :=
  ∃ cause w', e = .query i.name statement cause.message ∧
    Leads env (host.engine.execute i.port database statement) w (some (.error cause)) w'

namespace Cluster

variable {c : Cluster P} {w : W} {name : String} {port : UInt16}

/-- **The errors that a call may fail with**, apart from preconditions of the cluster that do not
hold. -/
def Faults (env : W → W → Prop) (host : Host P W) (c : Cluster P) (w : W) (e : ClusterError) :
    Call → Prop
  | .bootstrap name _ => e.OfSetUp name
  | .addWorker name port => ∃ source, e = .addWorker name source ∧
      (source.OfSetUp name ∨ ∃ lead w', c.membership.coordinator = some lead ∧
        lead.Rejects env host c.config.dbname
          (Sql.addNode (.reaching c.config.dbname port)) w' source)
  | .partitionTable partitioning => ∃ lead, c.membership.coordinator = some lead ∧
      lead.Rejects env host c.config.dbname partitioning.statement w e
  | .execute statement => ∃ lead, c.membership.coordinator = some lead ∧
      lead.Rejects env host c.config.dbname statement w e
  | .runOnNode name statement => ∃ i, c.membership.find? name = some i ∧ i.name = name ∧
      i.Rejects env host c.config.dbname statement w e
  | .teardown => ∃ failures, failures ≠ [] ∧ e = .teardown failures ∧
      ∀ f ∈ failures, ∃ node reason, f = .cleanup node reason

lemma checkIdentity_failures {i : Identity} {e : ClusterError} (h : c.checkIdentity i = .error e) :
    e.OfSetUp i.name := by
  unfold checkIdentity at h
  split at h <;> cases h
  exact .init _

/-- Bootstrapping is refused where there is a coordinator, and otherwise fails with an error of the
new one. -/
theorem bootstrap_failures : Assures (Beside env) (fun _ => True) (fun _ _ => True)
    (fun e _ => if c.coordinator.isSome then e.isPrecondition = true else e.OfSetUp name)
    (bootstrap host name port) (c, w) := by
  rcases vacant : c.coordinator with _ | lead
  · simp only [Option.isSome_none, Bool.false_eq_true, if_false]
    have dismissed (e : ClusterError) (p : Node P × W) (h : e.OfSetUp name) :
        Dismisses env host withLead (fun _ => True) (fun e _ => e.OfSetUp name) c e p :=
      Task.assures_of_forall (fun _ => trivial) (fun _ _ => h) fun _ _ => h
    rcases checked : c.checkIdentity (.under c.config.baseDirectory name port) with e | _
    · exact assures_bootstrap_refused vacant checked (checkIdentity_failures checked)
    refine assures_bootstrap vacant checked ((Node.prepare_failures rfl).mono (fun _ h => h) ?_
      dismissed)
    rintro - ⟨n, w'⟩ ⟨same, -⟩
    have own : n.name = name := congrArg Identity.name same
    exact Node.installExtension_failures.mono (fun _ h => h) (fun _ _ _ => trivial)
      fun e w h => dismissed e _ (own ▸ h)
  · unfold bootstrap
    simp only [Task.assures_bind, assures_current, vacant, Option.isSome_some, if_true,
      Task.assures_throw]
    rfl

/-- Adding a worker is refused where no coordinator is recorded or there is no room, and otherwise
fails with an error of the new worker or of its registration. -/
theorem addWorker_failures (agrees : c.Agrees) : Assures (Beside env) (fun _ => True)
    (fun _ _ => True)
    (fun e _ => e.isPrecondition = true ∧ (∀ lead, ¬ c.Admits lead) ∨
      c.Faults env host w e (.addWorker name port)) (addWorker host name port) (c, w) := by
  rcases led : c.membership.coordinator with _ | recorded
  · unfold addWorker
    simp only [Task.assures_bind, assures_current, led, Task.assures_throw]
    refine .inl ⟨rfl, fun lead admits => ?_⟩
    cases led.symm.trans admits.led
  by_cases full : c.membership.workers.length ≥ c.config.plannedWorkers
  · unfold addWorker
    simp only [Task.assures_bind, assures_current, led, if_pos full, Task.assures_throw]
    exact .inl ⟨rfl, fun lead admits => admits.not_full full⟩
  have admits : c.Admits recorded := ⟨led, not_le.1 full⟩
  obtain ⟨lead, there, rfl, running⟩ := agrees.led recorded led
  refine (assures_addWorker_cleared admits).2 (releaseOnboarding_keeps.of_infallible ?_)
  rintro - ⟨c', w'⟩ ⟨same, vacant⟩
  simp only at same vacant
  have admits' := admits.same same
  have fails {source : ClusterError} (h : source.OfSetUp name) :
      c.Faults env host w (.addWorker name source) (.addWorker name port) := ⟨source, rfl, .inl h⟩
  have dismissed (e : ClusterError) (p : Node P × W)
      (h : c.Faults env host w (.addWorker name e) (.addWorker name port)) :
      Dismisses env host withNewcomer (fun _ => True)
        (fun e _ => ClusterError.isPrecondition (.addWorker name e) = true ∧
          (∀ lead, ¬ c.Admits lead) ∨
          c.Faults env host w (.addWorker name e) (.addWorker name port)) c' e p :=
    Task.assures_of_forall (fun _ => trivial) (fun _ _ => .inr h) fun _ _ => .inr h
  rcases checked : c'.checkIdentity (.under c'.config.baseDirectory name port) with e | _
  · exact assures_addWorker_refused admits' vacant checked
      (.inr (fails (checkIdentity_failures checked)))
  refine assures_addWorker admits' (same.coordinator.trans there) vacant checked
    ((Node.prepare_failures rfl).mono (fun _ h => h) ?_ fun e p h => dismissed e p (fails h))
  rintro - ⟨n, w₁⟩ ⟨own, -⟩
  simp only at own
  have named : n.name = name := congrArg Identity.name own
  refine Node.installExtension_failures.mono (fun _ h => h) ?_
    fun e w h => dismissed e _ (fails (named ▸ h))
  intro _ w₂ _
  refine (Node.runSql_failures running).mono (fun _ h => h) (fun _ _ _ => trivial) ?_
  rintro e w₃ ⟨cause, rfl, rejected⟩
  rw [own, same.config] at rejected ⊢
  exact dismissed _ _ ⟨_, rfl, .inr ⟨lead.identity, w₂, led, cause, w₃, rfl, rejected⟩⟩

theorem executeOnCoordinator_failures (agrees : c.Agrees) {statement : String} :
    Assures (Beside env) (fun _ => True) (fun _ _ => True)
      (fun e _ => e.isPrecondition = true ∨ c.Faults env host w e (.execute statement))
      (executeOnCoordinator host statement) (c, w) := by
  unfold executeOnCoordinator
  simp only [Task.assures_bind, assures_current, Task.assures_ite]
  split
  · exact Task.assures_throw.2 (.inl rfl)
  rename_i staffed
  rcases led : c.membership.coordinator with _ | recorded
  · have alone := (agrees.alone led).1
    simp [Membership.hasWorkers, agrees.enrolled, alone] at staffed
  obtain ⟨lead, there, rfl, running⟩ := agrees.led recorded led
  simp only [there, assures_outside]
  refine (Node.runSql_failures running).mono (fun _ h => h) (fun _ _ _ => trivial) ?_
  rintro e w' ⟨cause, rfl, rejected⟩
  exact .inr ⟨lead.identity, led, cause, w', rfl, rejected⟩

theorem runOnNode_failures (agrees : c.Agrees) {statement : String} :
    Assures (Beside env) (fun _ => True) (fun _ _ => True)
      (fun e _ => e.isPrecondition = true ∨ c.Faults env host w e (.runOnNode name statement))
      (runOnNode host name statement) (c, w) := by
  unfold runOnNode
  simp only [Task.assures_bind, assures_current]
  split
  · rename_i node found
    have own : node.name = name := by simpa using List.find?_some found
    simp only [assures_outside]
    refine (Node.runSql_failures (agrees.running (List.mem_of_find?_eq_some found))).mono
      (fun _ h => h) (fun _ _ _ => trivial) ?_
    rintro e w' ⟨cause, rfl, rejected⟩
    refine .inr ⟨node.identity, ?_, own, cause, w', rfl, rejected⟩
    rw [agrees.find name, found]
    rfl
  · exact Task.assures_throw.2 (.inl rfl)

lemma release_failures {n : Node P} : Ensures (Beside env) (fun _ => True)
    (fun failure _ => ∀ f ∈ failure, ∃ node reason, f = .cleanup node reason)
    (release host n) (c, w) := by
  unfold release
  refine Task.ensures_bind.2 (Task.ensures_owning.2
    (Ensures.mono Node.cleanup_failures (fun _ h => h) ?_))
  rintro (e | _) ⟨n', w'⟩ failed
  · obtain ⟨reason, rfl⟩ := failed
    refine Task.ensures_bind.2 (Task.ensures_update.2 (Task.ensures_pure.2 ?_))
    rintro f ⟨⟩
    exact ⟨_, _, rfl⟩
  · refine Task.ensures_pure.2 ?_
    rintro f ⟨⟩

lemma releaseAll_failures {nodes : List (Node P)} : Ensures (Beside env) (fun _ => True)
    (fun failures _ => ∀ f ∈ failures, ∃ node reason, f = .cleanup node reason)
    (releaseAll host nodes) (c, w) := by
  induction nodes generalizing c w with
  | nil => exact Task.ensures_pure.2 (by simp)
  | cons n rest ih =>
    unfold releaseAll
    refine Task.ensures_bind.2 (release_failures.mono (fun _ h => h) ?_)
    rintro first ⟨c', w'⟩ hfirst
    refine Task.ensures_bind.2 (ih.mono (fun _ h => h) fun failures _ hrest =>
      Task.ensures_pure.2 ?_)
    intro f hf
    rcases List.mem_append.1 hf with hf | hf
    · exact hfirst f (Option.mem_toList.1 hf)
    · exact hrest f hf

theorem teardown_failures : Assures (Beside env) (fun _ => True) (fun _ _ => True)
    (fun e _ => c.Faults env host w e .teardown) (teardown host) (c, w) := by
  unfold teardown
  simp only [Task.assures_bind, Task.assures_liftM, Task.ensures_atomic]
  refine releaseAll_failures.mono (fun _ h => h) fun failures s h => ?_
  split
  · exact Task.assures_pure.2 trivial
  · rename_i some_failed
    exact Task.assures_throw.2 ⟨failures, some_failed, rfl, h⟩

end Cluster

/-! ### After any history -/

/-- The call can end in that error. -/
def Call.FailsWith (env : W → W → Prop) (host : Host P W) (s : Cluster P × W) (e : ClusterError) :
    Call → Prop
  | .bootstrap name port =>
    ∃ p, Leads (Beside env) (Cluster.bootstrap host name port).run s (some (.error e)) p
  | .addWorker name port =>
    ∃ p, Leads (Beside env) (Cluster.addWorker host name port).run s (some (.error e)) p
  | .partitionTable partitioning =>
    ∃ p, Leads (Beside env) (Cluster.partitionTable host partitioning).run s (some (.error e)) p
  | .execute statement =>
    ∃ p, Leads (Beside env) (Cluster.executeOnCoordinator host statement).run s
      (some (.error e)) p
  | .runOnNode name statement =>
    ∃ p, Leads (Beside env) (Cluster.runOnNode host name statement).run s (some (.error e)) p
  | .teardown => ∃ p, Leads (Beside env) (Cluster.teardown host).run s (some (.error e)) p

/-- A call of a cluster whose members agree with the nodes fails for a precondition, which a
teardown has none of, or with an error of its kind. -/
lemma Cluster.Agrees.failures {c : Cluster P} {w : W} {call : Call} {e : ClusterError}
    (agrees : c.Agrees) (fails : call.FailsWith env host (c, w) e) :
    e.isPrecondition = true ∧ call ≠ .teardown ∨ c.Faults env host w e call := by
  have split {q : Prop} (ne : call ≠ .teardown) (h : e.isPrecondition = true ∨ q) :
      e.isPrecondition = true ∧ call ≠ .teardown ∨ q := h.imp (⟨·, ne⟩) id
  cases call with
  | bootstrap name port =>
    obtain ⟨p, led⟩ := fails
    have := Cluster.bootstrap_failures _ _ led
    simp only at this
    split at this
    · exact .inl ⟨this, by simp⟩
    · exact .inr this
  | addWorker name port =>
    obtain ⟨p, led⟩ := fails
    exact split (by simp) ((Cluster.addWorker_failures agrees _ _ led).imp And.left id)
  | partitionTable partitioning =>
    obtain ⟨p, led⟩ := fails
    exact split (by simp) (Cluster.executeOnCoordinator_failures agrees _ _ led)
  | execute statement =>
    obtain ⟨p, led⟩ := fails
    exact split (by simp) (Cluster.executeOnCoordinator_failures agrees _ _ led)
  | runOnNode name statement =>
    obtain ⟨p, led⟩ := fails
    exact split (by simp) (Cluster.runOnNode_failures agrees _ _ led)
  | teardown =>
    obtain ⟨p, led⟩ := fails
    exact .inr (Cluster.teardown_failures _ _ led)

/-- No error of that kind is internal, and only setting a coordinator up can be fatal. -/
lemma Cluster.Faults.mild {c : Cluster P} {w : W} {call : Call} {e : ClusterError}
    (h : c.Faults env host w e call) : (∀ message, e ≠ .internal message) ∧
      ((∀ name port, call ≠ .bootstrap name port) → e.isFatal = false) := by
  have rejected {i : Identity} {statement : String} {w : W}
      (h : i.Rejects env host c.config.dbname statement w e) :
      (∀ message, e ≠ .internal message) ∧ e.isFatal = false := by
    obtain ⟨cause, w', rfl, -⟩ := h
    exact ⟨by simp, rfl⟩
  cases call with
  | bootstrap name port =>
    refine ⟨?_, fun other => absurd rfl (other name port)⟩
    rintro message rfl
    cases h
  | addWorker name port =>
    obtain ⟨source, rfl, -⟩ := h
    exact ⟨by simp, fun _ => rfl⟩
  | partitionTable partitioning =>
    obtain ⟨lead, -, h⟩ := h
    exact ⟨(rejected h).1, fun _ => (rejected h).2⟩
  | execute statement =>
    obtain ⟨lead, -, h⟩ := h
    exact ⟨(rejected h).1, fun _ => (rejected h).2⟩
  | runOnNode name statement =>
    obtain ⟨i, -, -, h⟩ := h
    exact ⟨(rejected h).1, fun _ => (rejected h).2⟩
  | teardown =>
    obtain ⟨failures, -, rfl, -⟩ := h
    exact ⟨by simp, fun _ => rfl⟩

/-- **Which call fails with what**, after any history and whatever the host does. An error is a
precondition of the cluster that does not hold, of which a teardown has none, or it is of the kind
of the call: it names the new node, or the member that has rejected the statement and with the text
of its engine, or holds the clean-ups that failed. No error is internal, and none ends the whole run
but that of a coordinator that gets no extension. -/
theorem History.failures_classified {config : Config} {c₀ c : Cluster P} {w₀ w : W}
    {events : List Event} (created : Cluster.create config = .ok c₀)
    (h : History env host (c₀, w₀) events (c, w)) {call : Call} {e : ClusterError}
    (fails : call.FailsWith env host (c, w) e) :
    (e.isPrecondition = true ∧ call ≠ .teardown ∨ c.Faults env host w e call) ∧
      (∀ message, e ≠ .internal message) ∧
      ((∀ name port, call ≠ .bootstrap name port) → e.isFatal = false) := by
  obtain ⟨lost, ho⟩ := h.inOrder created
  rcases ho.agrees.failures fails with ⟨refused, ne⟩ | faults
  · refine ⟨.inl ⟨refused, ne⟩, ?_, fun _ => ?_⟩
    · rintro message rfl
      cases refused
    · cases e <;> first | rfl | cases refused
  · exact ⟨.inr faults, faults.mild⟩

open Scenario (Floor)

/-- the node whose statement has failed while a worker was added -/
def ClusterError.rejecting? : ClusterError → Option String
  | addWorker _ (query node _ _) => some node
  | _ => none

/-- The coordinator rejects the registration of a worker. The error holds that of the coordinator,
with its statement and the text of its engine. -/
theorem History.registration_rejected : ∃ (s : Cluster Simulated.Process × Floor)
    (source : ClusterError) (lead : Identity) (w' : Floor),
    History (fun w w' => w' = w) Floor.host (.ofDefaults, .refusing)
      [.ended (.bootstrap "Lord" 5432)] s ∧
    (Call.addWorker "W1" 5433).FailsWith (fun w w' => w' = w) Floor.host s
      (.addWorker "W1" source) ∧
    lead.name = "Lord" ∧ lead.Rejects (fun w w' => w' = w) Floor.host s.1.config.dbname
      (Sql.addNode (.reaching s.1.config.dbname 5433)) w' source := by
  have quiet : Task.Quiet (fun w w' : Floor => w' = w) := Task.quiet_eq
  have new : History (fun w w' => w' = w) Floor.host (.ofDefaults, .refusing) []
    (.ofDefaults, .refusing) := .start
  have h := new.run quiet (.bootstrap "Lord" 5432) (by decide +kernel)
  obtain ⟨e, failed, node⟩ : ∃ e, ((Cluster.addWorker Floor.host "W1" 5433).run.run []
      (((Call.bootstrap "Lord" 5432).task Floor.host).run [] (.ofDefaults, .refusing)).2).1 =
      some (.error e) ∧ e.rejecting? = some "Lord" := by
    have seen : ((Cluster.addWorker Floor.host "W1" 5433).run.run []
        (((Call.bootstrap "Lord" 5432).task Floor.host).run [] (.ofDefaults, .refusing)).2).1.map
        (fun r => match r with
          | .error e => e.rejecting?
          | .ok _ => none) = some (some "Lord") := by decide +kernel
    obtain ⟨_ | _, ended, he⟩ := Option.map_eq_some_iff.1 seen
    · exact ⟨_, ended, he⟩
    · cases he
  have fails : (Call.addWorker "W1" 5433).FailsWith (fun w w' => w' = w) Floor.host _ e :=
    ⟨_, Task.leads_of_quiet_run quiet.beside failed⟩
  obtain ⟨refused | ⟨source, rfl, faults⟩, -⟩ :=
    History.failures_classified Cluster.create_ofDefaults h fails
  · cases e <;> first | cases node | cases refused.1
  rcases faults with faults | ⟨lead, w', -, rejects⟩
  · cases faults <;> cases node
  · refine ⟨_, source, lead, w', h, fails, ?_, rejects⟩
    obtain ⟨cause, -, rfl, -⟩ := rejects
    exact Option.some.inj node

end ShardCluster
