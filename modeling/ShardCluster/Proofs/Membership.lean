import ShardCluster.Proofs.History

/-!
# The membership and the nodes

A cluster keeps its members twice, as identities for others to look up and as the nodes themselves.
After any history, with any calls given up, the two agree (`History.membership_consistent`): they
list the same members in the same order, and a statement for a name goes to the node that is looked
up under it.
-/

namespace ShardCluster

open ShardCluster.Task (Beside Leads Quiet)

variable {P W : Type}

/-- a running member as others see it -/
def Identity.summary (i : Identity) (role : Role) (dbname : String) : Summary where
  name := i.name
  role := role
  port := i.port
  dataDirectory := i.dataDirectory
  logFile := i.logFile
  connectionString := i.connectionString dbname
  phase := .running

/-- the refusal of a name that no member has -/
def unknownName (name : String) : ClusterError :=
  .precondition ("no node named " ++ name ++ " in the cluster")

def Identity.answer (i : Identity) (statement : String) :
    Except EngineError String → Except ClusterError String
  | .ok text => .ok text
  | .error e => .error (.query i.name statement e.message)

namespace Cluster

/-- **A consistent cluster**: the membership and the nodes say the same. -/
structure Consistent (c : Cluster P) : Prop where
  workers : c.membership.workers = c.workers.map (·.identity)
  coordinator : ∀ i, c.membership.coordinator = some i →
    ∃ n, c.coordinator = some n ∧ n.identity = i
  alone : c.membership.coordinator = none → c.workers = [] ∧ c.onboarding = none
  serving : ∀ n ∈ c.members, n.phase = .running ∧ n.process.isSome
  sized : c.membership.workers.length ≤ c.config.plannedWorkers
  nodes : c.nodes =
    c.membership.coordinator.toList.map (·.summary .coordinator c.config.dbname) ++
      c.membership.workers.map (·.summary .worker c.config.dbname)

section Members

variable {c : Cluster P}

lemma Agrees.members (h : c.Agrees) : c.members.map (·.identity) =
    c.membership.coordinator.toList ++ c.membership.workers := by
  unfold Cluster.members
  rw [List.map_append, h.enrolled]
  rcases hi : c.membership.coordinator with _ | i
  · rfl
  · obtain ⟨n, hn, rfl, -⟩ := h.led i hi
    simp [hn]

theorem Agrees.find (h : c.Agrees) (name : String) :
    c.membership.find? name = (c.members.find? (·.name == name)).map (·.identity) := by
  unfold Membership.find?
  rw [← h.members, List.find?_map]
  rfl

lemma Agrees.running (h : c.Agrees) {n : Node P} (hn : n ∈ c.members) : n.phase = .running := by
  unfold Cluster.members at hn
  rcases List.mem_append.1 hn with hn | hn
  · rcases hi : c.membership.coordinator with _ | i
    · simp [hi] at hn
    · obtain ⟨lead, hl, -, running⟩ := h.led i hi
      simp only [hi, Option.isSome_some, if_true, hl, Option.toList_some, List.mem_singleton] at hn
      rwa [hn]
  · exact h.serving n hn

lemma members_subset : c.members ⊆ c.allocated := by
  intro n hn
  have early : n ∈ c.coordinator.toList ++ c.workers := by
    rcases List.mem_append.1 hn with hn | hn
    · split at hn
      · exact List.mem_append_left _ hn
      · cases hn
    · exact List.mem_append_right _ hn
  exact List.mem_append_left _ (List.mem_append_left _ early)

end Members

section Consistent

variable {held : Estate P → W → Prop} {extra : Estate P} {c : Cluster P} {w : W}

/-- A worker's summary says so, as the membership lists its name. -/
lemma Agrees.summarize_worker (h : c.Agrees) {n : Node P} (hn : n ∈ c.workers) :
    c.summarize n = n.identity.summary .worker c.config.dbname := by
  have listed : c.membership.workers.any (·.name == n.name) = true := by
    rw [h.enrolled, List.any_map, List.any_eq_true]
    exact ⟨n, hn, beq_self_eq_true _⟩
  unfold summarize Identity.summary
  rw [listed, h.serving n hn]
  rfl

/-- The coordinator's summary says so, as no worker has its name. -/
lemma InOrder.summarize_coordinator (h : c.InOrder held extra w) {n : Node P}
    (hn : c.coordinator = some n) (running : n.phase = .running) :
    c.summarize n = n.identity.summary .coordinator c.config.dbname := by
  have unlisted : c.membership.workers.any (·.name == n.name) = false := by
    rw [h.agrees.enrolled, List.any_map, List.any_eq_false]
    intro m hm
    have apart := h.tidy.apart
    unfold allocated at apart
    rw [hn, List.append_assoc, List.append_assoc, Option.toList_some, List.singleton_append,
      List.pairwise_cons] at apart
    have := apart.1 m (List.mem_append_left _ hm)
    simp only [Identity.conflictsWith, Bool.or_eq_false_iff, beq_eq_false_iff_ne] at this
    simpa [Node.name] using Ne.symm this.1.1
  unfold summarize Identity.summary
  rw [unlisted, running]
  rfl

theorem InOrder.consistent (h : c.InOrder held extra w) : c.Consistent where
  workers := h.agrees.enrolled
  coordinator i hi := by
    obtain ⟨n, hn, same, -⟩ := h.agrees.led i hi
    exact ⟨n, hn, same⟩
  alone := h.agrees.alone
  serving n hn := by
    have running := h.agrees.running hn
    exact ⟨running, (h.tidy.sound n (members_subset hn)).serving.2 running⟩
  sized := by
    rw [h.agrees.enrolled, List.length_map]
    exact h.agrees.sized
  nodes := by
    unfold nodes members
    rw [List.map_append, h.agrees.enrolled, List.map_map]
    refine congrArg₂ (· ++ ·) ?_ (List.map_congr_left fun n hn => h.agrees.summarize_worker hn)
    rcases hi : c.membership.coordinator with _ | i
    · rfl
    · obtain ⟨n, hn, rfl, running⟩ := h.agrees.led i hi
      simp [hn, h.summarize_coordinator hn running]

end Consistent

/-! ### Statements for a name -/

section Statements

variable {env : W → W → Prop} {host : Host P W} {c : Cluster P} {w : W} {name statement : String}

lemma leads_current {α : Type} {f : Cluster P → ClusterAction P W α}
    {r : Option (Except ClusterError α)} {p : Cluster P × W} :
    Leads (Beside env) (do f (← current) : ClusterAction P W α).run (c, w) r p ↔
      Leads (Beside env) (f c).run (c, w) r p := by
  show Leads (Beside env) (Task.act id fun s => (f s.1).run) (c, w) r p ↔ _
  rw [Task.leads_act]
  rfl

lemma runSql_run {n : Node P} (running : n.phase = .running) (database : String) :
    (n.runSql host database statement).run =
      n.identity.answer statement <$> host.engine.execute n.port database statement := by
  unfold Node.runSql
  simp only [running, ne_eq, not_true_eq_false, if_false, ExceptT.run_bind, ExceptT.run_liftM,
    map_eq_pure_bind, bind_assoc, pure_bind]
  refine congrArg (host.engine.execute n.port database statement >>= ·) (funext fun r => ?_)
  cases r <;> rfl

/-- **A statement for a name** is refused exactly if no member is found under it, and otherwise goes
to the port of that member. -/
theorem leads_runOnNode (h : c.Agrees) {r : Option (Except ClusterError String)}
    {p : Cluster P × W} :
    Leads (Beside env) (runOnNode host name statement).run (c, w) r p ↔
      match c.membership.find? name with
      | none => r = some (.error (unknownName name)) ∧ p = (c, w)
      | some i => ∃ r' w', r = r'.map (i.answer statement) ∧ p = (c, w') ∧
          Leads env (host.engine.execute i.port c.config.dbname statement) w r' w' := by
  unfold runOnNode
  rw [leads_current, h.find name]
  rcases hn : c.members.find? (·.name == name) with _ | n
  · rw [hn]
    exact Task.leads_done
  · have running := h.running (List.mem_of_find?_eq_some hn)
    rw [hn]
    show Leads (Beside env) ((n.runSql host c.config.dbname statement).run.through _) _ _ _ ↔ _
    rw [Task.leads_through, runSql_run running]
    constructor
    · rintro ⟨w', rfl, h'⟩
      obtain ⟨r', rfl, ran⟩ := Task.leads_map.1 h'
      exact ⟨r', w', rfl, rfl, ran⟩
    · rintro ⟨r', w', rfl, rfl, h'⟩
      exact ⟨w', rfl, Task.leads_map.2 ⟨r', rfl, h'⟩⟩

theorem refused_iff (h : c.Agrees) :
    (∃ p, Leads (Beside env) (runOnNode host name statement).run (c, w)
      (some (.error (unknownName name))) p) ↔ c.membership.find? name = none := by
  simp only [leads_runOnNode h]
  rcases c.membership.find? name with _ | i
  · simp
  · simp only [reduceCtorEq, iff_false]
    rintro ⟨p, r', w', answered, -⟩
    rcases r' with _ | (e | text) <;> cases answered

end Statements

end Cluster

/-- **The membership and the nodes** agree after any history, whatever was given up: the cluster is
consistent, and a statement for a name is refused exactly if no member is found under it. If one is,
a node has its identity, and the server on its port decides what comes of the statement. -/
theorem History.membership_consistent {env : W → W → Prop} {host : Host P W} {config : Config}
    {c₀ c : Cluster P} {w₀ w : W} {events : List Event}
    (created : Cluster.create config = .ok c₀) (h : History env host (c₀, w₀) events (c, w)) :
    c.Consistent ∧ ∀ name statement,
      ((∃ p, Leads (Beside env) (Cluster.runOnNode host name statement).run (c, w)
        (some (.error (unknownName name))) p) ↔ c.membership.find? name = none) ∧
      ∀ i, c.membership.find? name = some i →
        (∃ n, c.members.find? (·.name == name) = some n ∧ n.identity = i) ∧
        ∀ r p, Leads (Beside env) (Cluster.runOnNode host name statement).run (c, w) r p ↔
          ∃ r' w', r = r'.map (i.answer statement) ∧ p = (c, w') ∧
            Leads env (host.engine.execute i.port c.config.dbname statement) w r' w' := by
  obtain ⟨lost, -, ho⟩ := h.order (accounts_nothing env host)
    (Cluster.inOrder_create created trivial)
  refine ⟨ho.consistent, fun name statement => ⟨Cluster.refused_iff ho.agrees, fun i hi => ?_⟩⟩
  refine ⟨?_, fun r p => ?_⟩
  · rw [ho.agrees.find name] at hi
    exact Option.map_eq_some_iff.1 hi
  · rw [Cluster.leads_runOnNode ho.agrees, hi]

/-- A coordinator and a worker, which is found under its name. -/
theorem History.consistent_pair : ∃ c w,
    History (fun w w' => w' = w) Scenario.Floor.host (.ofDefaults, .slow)
      [.ended (.addWorker "W1" 5433), .ended (.bootstrap "Lord" 5432)] (c, w) ∧
    c.nodes.length = 2 ∧ (c.membership.find? "W1").isSome ∧ c.Consistent := by
  have new : History (fun w w' => w' = w) Scenario.Floor.host (.ofDefaults, .slow) []
    (.ofDefaults, .slow) := .start
  have h := (new.run Task.quiet_eq (.bootstrap "Lord" 5432) (by decide +kernel)).run Task.quiet_eq
    (.addWorker "W1" 5433) (by decide +kernel)
  exact ⟨_, _, h, by decide +kernel, by decide +kernel,
    (History.membership_consistent Cluster.create_ofDefaults h).1⟩

end ShardCluster
