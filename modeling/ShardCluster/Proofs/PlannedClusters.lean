import ShardCluster.Proofs.FreshNodes
import ShardCluster.Proofs.Plans
import ShardCluster.Proofs.SetUpRules

/-!
# Planned clusters

Bringing a plan up where there is room for its nodes, on a simulated engine without faults. Every
call finds the cluster formed by the calls before it (`Cluster.formed`) and what is left of the plan
still to come (`Simulated.Awaits`): the coordinator is set up (`bootstrap_succeeds`), one worker
after another joins (`addWorkers_succeed`), and the table is created and partitioned
(`demonstrate_succeeds`). `Plan.accepted_and_brought_up` draws the conclusion for whole runs, with
the statements that each server has been given.
-/

namespace ShardCluster

open ShardCluster.Task (Ensures Assures Beside Leads)
open Simulated (Apart Aside Faultless view host server prepare_succeeds runSql_succeeds
  installExtension_succeeds)
open FileSystem (Room OnlyAt)

/-! ### What is still to come -/

namespace FileSystem

variable {fs fs' : FileSystem} {base : Path} {q : Place} {name other : String}

lemma Room.onlyAt (room : fs.Room base q name) (only : OnlyAt (q ++ [Utf8.encode other]) fs fs')
    (vacant : fs.layout (q ++ [Utf8.encode other]) = none) (apart : other ≠ name) :
    fs'.Room base q name := by
  refine ⟨room.child.onlyAt only vacant, ?_, room.deep⟩
  rw [only.elsewhere, room.vacant]
  rw [List.prefix_append_right_inj]
  exact fun same => apart (Utf8.encode_injective (by simpa using same))

end FileSystem

namespace Simulated

variable {s : Simulated} {port port' : UInt16} {fs fs' : FileSystem} {base : Path} {q : Place}
  {n : String × UInt16} {rest : List (String × UInt16)} {database statement : String}

lemma mem_insertPort {ports : List UInt16} :
    port' ∈ insertPort port ports ↔ port' = port ∨ port' ∈ ports := by
  induction ports with
  | nil => simp [insertPort]
  | cons p rest ih =>
    unfold insertPort
    split
    · exact List.mem_cons
    split
    · rename_i same
      simp [same]
    · rw [List.mem_cons, ih, List.mem_cons]
      tauto

lemma mem_launched : port' ∈ (s.launched port).running ↔ port' = port ∨ port' ∈ s.running :=
  mem_insertPort

lemma isFree_launched (free : s.isFree port' = true) (apart : port ≠ port') :
    (s.launched port).isFree port' = true := by
  simp only [isFree, Bool.and_eq_true, Bool.not_eq_true', List.contains_eq_mem,
    decide_eq_false_iff_not] at free ⊢
  rw [mem_launched, not_or]
  exact ⟨⟨apart.symm, free.1⟩, free.2⟩

/-- **Nodes to come**: there is room for each of them, and nothing listens on their ports. -/
structure Awaits (s : Simulated) (base : Path) (q : Place) (rest : List (String × UInt16))
    (fs : FileSystem) : Prop where
  calm : s.Faultless
  room : ∀ n ∈ rest, fs.Room base q n.1
  free : ∀ n ∈ rest, s.isFree n.2 = true

lemma Awaits.executed (h : s.Awaits base q rest fs) :
    (s.executed port database statement).Awaits base q rest fs :=
  ⟨h.calm.executed, h.room, h.free⟩

lemma Awaits.launched (h : s.Awaits base q (n :: rest) fs)
    (apart : ∀ m ∈ rest, n.1 ≠ m.1 ∧ n.2 ≠ m.2) (only : OnlyAt (q ++ [Utf8.encode n.1]) fs fs') :
    (s.launched n.2).Awaits base q rest fs' := by
  have here := List.mem_cons_self (a := n) (l := rest)
  refine ⟨h.calm.launched, fun m hm => ?_, fun m hm => ?_⟩
  · exact (h.room m (.tail _ hm)).onlyAt only (h.room n here).vacant (apart m hm).1
  · exact isFree_launched (h.free m (.tail _ hm)) (apart m hm).2

end Simulated

/-! ### The cluster so far -/

/-- who a node of a plan is -/
def Config.identity (config : Config) (n : String × UInt16) : Identity :=
  .under config.baseDirectory n.1 n.2

/-- a node of a plan with its server -/
def Config.serving (config : Config) (n : String × UInt16) : Node Simulated.Process :=
  server (config.identity n) config.startTimeout

lemma Config.name_serving {config : Config} {n : String × UInt16} :
    (config.serving n).name = n.1 := rfl

/-- the engine once a coordinator has been set up -/
def Config.led (config : Config) (lead : String × UInt16) (s : Simulated) : Simulated :=
  (s.launched lead.2).executed lead.2 config.dbname Sql.installSharding

/-- the engine once a worker has been set up and registered -/
def Config.joined (config : Config) (lead n : String × UInt16) (s : Simulated) : Simulated :=
  ((s.launched n.2).executed n.2 config.dbname Sql.installSharding).executed lead.2 config.dbname
    (Sql.addNode (.reaching config.dbname n.2))

namespace Cluster

open ShardCluster.Simulated (mem_launched)

/-- **The cluster formed** by a coordinator and workers. -/
def formed (config : Config) (template : Template) (lead : String × UInt16)
    (workers : List (String × UInt16)) : Cluster Simulated.Process where
  config := config
  template := template
  membership := ⟨some (config.identity lead), workers.map config.identity⟩
  coordinator := some (config.serving lead)
  workers := workers.map config.serving

lemma eq_of_create {P : Type} {config : Config} {c : Cluster P}
    (created : Cluster.create config = .ok c) : ∃ template, c = { config, template } := by
  unfold create at created
  rcases ht : config.template with e | template <;> rw [ht] at created <;> cases created
  exact ⟨template, rfl⟩

/-- **A bootstrapped cluster**: its coordinator is recorded and has its server. -/
structure Bootstrapped (c : Cluster Simulated.Process) (lead : Node Simulated.Process) : Prop where
  recorded : c.membership.coordinator = some lead.identity
  there : c.coordinator = some lead
  phase : lead.phase = .running

/-- **The cluster joined** by workers. -/
def joinedBy (c : Cluster Simulated.Process) (workers : List (String × UInt16)) :
    Cluster Simulated.Process :=
  { c with
    membership :=
      { c.membership with workers := c.membership.workers ++ workers.map c.config.identity }
    workers := c.workers ++ workers.map c.config.serving }

/-- the settings of a worker of a cluster -/
def blockFor (c : Cluster Simulated.Process) (lead : Node Simulated.Process)
    (n : String × UInt16) : String :=
  c.template.render .worker (c.config.identity n) (lead.identity.connectionString c.config.dbname)

/-- the files once a worker has been set up in the base directory -/
def joinedFiles (c : Cluster Simulated.Process) (lead : Node Simulated.Process) (q : Place)
    (m : Layout) (n : String × UInt16) : Layout :=
  m.graft (q ++ [Utf8.encode n.1]) (.ofNode (Simulated.configuredFiles (c.blockFor lead n)))

section Joining

variable {c : Cluster Simulated.Process} {lead : Node Simulated.Process}
  {workers others : List (String × UInt16)} {i : Identity}

lemma joinedBy_nil : c.joinedBy [] = c := by
  simp [joinedBy]

lemma joinedBy_append : (c.joinedBy workers).joinedBy others = c.joinedBy (workers ++ others) := by
  simp [joinedBy]

lemma formed_append {config : Config} {template : Template} {lead : String × UInt16} :
    (formed config template lead workers).joinedBy others =
      formed config template lead (workers ++ others) := by
  simp [formed, joinedBy]

lemma mem_allocated_joinedBy {m : Node Simulated.Process} :
    m ∈ (c.joinedBy workers).allocated ↔
      m ∈ c.allocated ∨ ∃ n ∈ workers, c.config.serving n = m := by
  simp only [allocated, joinedBy, List.mem_append, List.mem_map]
  grind

lemma bootstrapped_formed {config : Config} {template : Template} {lead : String × UInt16} :
    (formed config template lead workers).Bootstrapped (config.serving lead) :=
  ⟨rfl, rfl, rfl⟩

lemma Bootstrapped.joinedBy (boot : c.Bootstrapped lead) : (c.joinedBy workers).Bootstrapped lead :=
  ⟨boot.recorded, boot.there, boot.phase⟩

lemma checkIdentity_of_apart (apart : ∀ m ∈ c.allocated, ¬ m.identity.Shares i) :
    c.checkIdentity i = .ok () := by
  have none_found : c.allocated.find? (fun m =>
      m.phase ≠ .cleanedUp && m.identity.conflictsWith i) = none := by
    refine List.find?_eq_none.2 fun m hm => ?_
    have fine : m.identity.conflictsWith i = false := Identity.conflictsWith_eq_false.2 (apart m hm)
    simp [fine]
  unfold checkIdentity
  rw [none_found]

end Joining

/-! ### Bringing nodes up -/

section Calls

variable {W : Type} {state : Part W Simulated} {files : Part W FileSystem}
  (apart : Apart state files) {config : Config} {template : Template} {s : Simulated}
  {fs : FileSystem} {w : W} {q : Place}
include apart

/-- **The coordinator is set up.** -/
theorem bootstrap_succeeds {lead : String × UInt16} {rest : List (String × UInt16)}
    (awaits : s.Awaits config.baseDirectory q (lead :: rest) fs)
    (others : ∀ m ∈ rest, lead.1 ≠ m.1 ∧ lead.2 ≠ m.2) (shown : view state files w = (s, fs)) :
    Assures (Beside (Aside state files)) (fun _ => True)
      (fun _ p => p.1 = formed config template lead [] ∧
        ∃ fs', (config.led lead s).Awaits config.baseDirectory q rest fs' ∧
          view state files p.2 = (config.led lead s, fs'))
      (fun _ _ => False) (bootstrap (host state files) lead.1 lead.2)
      ({ config, template }, w) := by
  have here : lead ∈ lead :: rest := List.mem_cons_self
  have free := awaits.free lead here
  refine assures_bootstrap rfl rfl ((prepare_succeeds apart (awaits.room lead here) awaits.calm free
    shown).of_infallible ?_)
  rintro - ⟨_, w₁⟩ ⟨rfl, fs₁, made, shown₁⟩
  have awaits₁ := awaits.launched others made.only
  have listens : lead.2 ∈ (s.launched lead.2).running := mem_launched.2 (.inl rfl)
  refine (installExtension_succeeds apart rfl listens awaits₁.calm shown₁).of_infallible ?_
  intro _ w₂ shown₂
  exact ⟨rfl, fs₁, awaits₁.executed, shown₂⟩

variable {c : Cluster Simulated.Process} {lead : Node Simulated.Process} {n : String × UInt16}
  {rest : List (String × UInt16)} (boot : c.Bootstrapped lead) (vacant : c.onboarding = none)
include boot vacant

/-- **A worker joins** the cluster. -/
theorem addWorker_succeeds (few : c.membership.workers.length < c.config.plannedWorkers)
    (unlike : ∀ m ∈ c.allocated, ¬ m.identity.Shares (c.config.identity n))
    (awaits : s.Awaits c.config.baseDirectory q (n :: rest) fs)
    (others : ∀ m ∈ rest, n.1 ≠ m.1 ∧ n.2 ≠ m.2) (listening : lead.port ∈ s.running)
    (shown : view state files w = (s, fs)) :
    Assures (Beside (Aside state files)) (fun _ => True)
      (fun _ p => p.1 = c.joinedBy [n] ∧
        ∃ fs', (fs'.workingDirectory = fs.workingDirectory ∧
            fs'.layout = c.joinedFiles lead q fs.layout n) ∧
          (c.config.joined (lead.name, lead.port) n s).Awaits c.config.baseDirectory q rest fs' ∧
          view state files p.2 = (c.config.joined (lead.name, lead.port) n s, fs'))
      (fun _ _ => False) (addWorker (host state files) n.1 n.2) (c, w) := by
  have here : n ∈ n :: rest := List.mem_cons_self
  have free := awaits.free n here
  refine assures_addWorker ⟨boot.recorded, few⟩ boot.there vacant
    (checkIdentity_of_apart unlike) ((prepare_succeeds apart (awaits.room n here) awaits.calm free
      shown).of_infallible ?_)
  rintro - ⟨_, w₁⟩ ⟨rfl, fs₁, made, shown₁⟩
  have awaits₁ := awaits.launched others made.only
  have listens : n.2 ∈ (s.launched n.2).running := mem_launched.2 (.inl rfl)
  refine (installExtension_succeeds apart rfl listens awaits₁.calm shown₁).of_infallible ?_
  intro _ w₂ shown₂
  -- the coordinator has been listening all along
  have reachable : lead.port ∈
      ((s.launched n.2).executed n.2 c.config.dbname Sql.installSharding).running :=
    mem_launched.2 (.inr listening)
  refine (runSql_succeeds apart boot.phase reachable awaits₁.executed.calm shown₂).of_infallible ?_
  intro _ w₃ shown₃
  refine ⟨?_, fs₁, ⟨made.workingDirectory, made.layout⟩, awaits₁.executed.executed, shown₃⟩
  simp [joinedBy, Membership.addWorker, Config.serving, Config.identity, server, Identity.under]

/-- **One worker after another joins**, as long as there is room for all of them. -/
theorem addWorkers_succeed
    (room : c.membership.workers.length + rest.length ≤ c.config.plannedWorkers)
    (unlike : ∀ m ∈ c.allocated, ∀ n ∈ rest, ¬ m.identity.Shares (c.config.identity n))
    (distinct : rest.Pairwise fun m n =>
      (m.1 ≠ n.1 ∧ m.2 ≠ n.2) ∧ ¬ (c.config.identity m).Shares (c.config.identity n))
    (awaits : s.Awaits c.config.baseDirectory q rest fs) (listening : lead.port ∈ s.running)
    (shown : view state files w = (s, fs)) :
    Assures (Beside (Aside state files)) (fun _ => True)
      (fun _ p => p.1 = c.joinedBy rest ∧
        ∃ fs', (fs'.workingDirectory = fs.workingDirectory ∧
            fs'.layout = rest.foldl (c.joinedFiles lead q) fs.layout) ∧
          (rest.foldl (fun s n => c.config.joined (lead.name, lead.port) n s) s).Faultless ∧
          view state files p.2 =
            (rest.foldl (fun s n => c.config.joined (lead.name, lead.port) n s) s, fs'))
      (fun _ _ => False)
      (rest.forM fun n => do let _ ← addWorker (host state files) n.1 n.2) (c, w) := by
  induction rest generalizing c s fs w with
  | nil =>
    rw [joinedBy_nil]
    exact Task.assures_pure.2 ⟨rfl, fs, ⟨rfl, rfl⟩, awaits.calm, shown⟩
  | cons n rest ih =>
    obtain ⟨first, later⟩ := List.pairwise_cons.1 distinct
    have here : n ∈ n :: rest := List.mem_cons_self
    have few : c.membership.workers.length < c.config.plannedWorkers := by
      rw [List.length_cons] at room
      omega
    show Assures _ _ _ _ (_ >>= fun _ => _) _
    simp only [Task.assures_bind]
    refine (addWorker_succeeds apart boot vacant few (fun m hm => unlike m hm n here) awaits
      (fun m hm => (first m hm).1) listening shown).of_infallible ?_
    rintro - ⟨_, w₁⟩ ⟨rfl, fs₁, ⟨same, placed⟩, awaits₁, shown₁⟩
    have reachable : lead.port ∈ (c.config.joined (lead.name, lead.port) n s).running :=
      mem_launched.2 (.inr listening)
    have unlike' : ∀ m ∈ (c.joinedBy [n]).allocated, ∀ n' ∈ rest,
        ¬ m.identity.Shares (c.config.identity n') := by
      intro m hm n' hn'
      rcases mem_allocated_joinedBy.1 hm with known | ⟨n'', new, rfl⟩
      · exact unlike m known n' (.tail _ hn')
      · obtain rfl := List.mem_singleton.1 new
        exact (first n' hn').2
    have room' : (c.joinedBy [n]).membership.workers.length + rest.length ≤
        c.config.plannedWorkers := by
      show (c.membership.workers ++ [_]).length + rest.length ≤ _
      rw [List.length_append, List.length_singleton]
      rw [List.length_cons] at room
      omega
    refine Task.assures_pure.2 ((ih boot.joinedBy vacant room' unlike' later awaits₁ reachable
      shown₁).mono (fun _ h => h) ?_ fun _ _ => False.elim)
    rintro - ⟨_, w₂⟩ ⟨rfl, fs₂, ⟨same', placed'⟩, calm, shown₂⟩
    rw [placed] at placed'
    exact ⟨joinedBy_append, fs₂, ⟨same'.trans same, placed'⟩, calm, shown₂⟩

end Calls

/-! ### The table -/

section Statements

variable {W : Type} {state : Part W Simulated} {files : Part W FileSystem}
  (apart : Apart state files) {config : Config} {template : Template} {s : Simulated}
  {fs : FileSystem} {w : W} {lead n : String × UInt16} {more : List (String × UInt16)}
  {statement : String} (calm : s.Faultless) (shown : view state files w = (s, fs))
include apart calm shown

lemma runOnNode_succeeds (unlike : lead.1 ≠ n.1) (listening : n.2 ∈ s.running) :
    Assures (Beside (Aside state files)) (fun _ => True)
      (fun _ p => p.1 = formed config template lead (n :: more) ∧
        view state files p.2 = (s.executed n.2 config.dbname statement, fs))
      (fun _ _ => False) (runOnNode (host state files) n.1 statement)
      (formed config template lead (n :: more), w) := by
  have found : (formed config template lead (n :: more)).members.find? (·.name == n.1) =
      some (config.serving n) := by
    show List.find? (·.name == n.1) (config.serving lead :: config.serving n :: _) = _
    have other : ((config.serving lead).name == n.1) = false := by
      rw [Config.name_serving]
      simpa using unlike
    have same : ((config.serving n).name == n.1) = true := by
      rw [Config.name_serving]
      exact beq_self_eq_true _
    rw [List.find?_cons, other, List.find?_cons, same]
  unfold runOnNode
  simp only [Task.assures_bind, assures_current, found, assures_outside]
  exact (runSql_succeeds apart rfl listening calm shown).of_infallible
    fun _ _ shown => ⟨trivial, shown⟩

lemma executeOnCoordinator_succeeds (listening : lead.2 ∈ s.running) :
    Assures (Beside (Aside state files)) (fun _ => True)
      (fun _ p => p.1 = formed config template lead (n :: more) ∧
        view state files p.2 = (s.executed lead.2 config.dbname statement, fs))
      (fun _ _ => False) (executeOnCoordinator (host state files) statement)
      (formed config template lead (n :: more), w) := by
  have registered : (formed config template lead (n :: more)).membership.hasWorkers = true := rfl
  have there : (formed config template lead (n :: more)).coordinator =
      some (config.serving lead) := rfl
  unfold executeOnCoordinator
  simp only [Task.assures_bind, assures_current, registered, Bool.not_true, Bool.false_eq_true,
    if_false, there, assures_outside]
  exact (runSql_succeeds apart rfl listening calm shown).of_infallible
    fun _ _ shown => ⟨trivial, shown⟩

end Statements

end Cluster

/-! ### Plans -/

namespace CommandLine.Plan

open ShardCluster.Cluster (formed)
open ShardCluster.Simulated (mem_launched)

/-- the engine once the nodes of a plan have been brought up -/
def assembled (plan : Plan) (config : Config) (s : Simulated) : Simulated :=
  plan.workers.foldl (fun s n => config.joined (coordinatorName, plan.basePort) n s)
    (config.led (coordinatorName, plan.basePort) s)

/-- the engine once the table has been created on the first worker and partitioned -/
def demonstrated (plan : Plan) (config : Config) (s : Simulated) : Simulated :=
  match plan.workers with
  | [] => s
  | n :: _ =>
    ((s.executed n.2 config.dbname createTable).executed n.2 config.dbname fillTable).executed
      plan.basePort config.dbname plan.partitioning.statement

section BringingUp

variable {W : Type} {state : Part W Simulated} {files : Part W FileSystem}
  (apart : Apart state files) {config : Config} {template : Template} {s : Simulated}
  {fs : FileSystem} {w : W} {q : Place} {plan : Plan}
include apart

/-- **The table is created** on the first worker, filled and partitioned. -/
theorem demonstrate_succeeds (unlike : ∀ n ∈ plan.workers, coordinatorName ≠ n.1)
    (calm : s.Faultless) (listening : ∀ n ∈ plan.nodes, n.2 ∈ s.running)
    (shown : view state files w = (s, fs)) :
    Assures (Beside (Aside state files)) (fun _ => True)
      (fun _ p => p.1 = formed config template (coordinatorName, plan.basePort) plan.workers ∧
        view state files p.2 = (plan.demonstrated config s, fs))
      (fun _ _ => False) (demonstrate (host state files) plan)
      (formed config template (coordinatorName, plan.basePort) plan.workers, w) := by
  have lead_listens : plan.basePort ∈ s.running :=
    listening (coordinatorName, plan.basePort) List.mem_cons_self
  unfold demonstrate demonstrated
  rcases there : plan.workers with _ | ⟨n, more⟩
  · exact Task.assures_pure.2 ⟨rfl, shown⟩
  have member : n ∈ plan.workers := there ▸ List.mem_cons_self
  have listens : n.2 ∈ s.running := listening n (.tail _ member)
  simp only [Task.assures_bind]
  refine (Cluster.runOnNode_succeeds apart calm shown (unlike n member) listens).of_infallible ?_
  rintro - ⟨_, w₁⟩ ⟨rfl, shown₁⟩
  refine (Cluster.runOnNode_succeeds apart calm.executed shown₁ (unlike n member)
    listens).of_infallible ?_
  rintro - ⟨_, w₂⟩ ⟨rfl, shown₂⟩
  refine (Cluster.executeOnCoordinator_succeeds apart calm.executed.executed shown₂
    lead_listens).of_infallible ?_
  rintro - ⟨_, w₃⟩ ⟨rfl, shown₃⟩
  exact Task.assures_pure.2 ⟨rfl, shown₃⟩

omit apart in
lemma running_assembled : ∀ n ∈ plan.nodes, n.2 ∈ (plan.assembled config s).running := by
  have all (lead : String × UInt16) (workers : List (String × UInt16)) (s : Simulated)
      (port : UInt16) (known : port ∈ s.running ∨ ∃ n ∈ workers, n.2 = port) :
      port ∈ (workers.foldl (fun s n => config.joined lead n s) s).running := by
    induction workers generalizing s with
    | nil => simpa using known
    | cons n rest ih =>
      refine ih (config.joined lead n s) ?_
      rcases known with running | ⟨m, member, rfl⟩
      · exact .inl (mem_launched.2 (.inr running))
      rcases List.mem_cons.1 member with rfl | later
      · exact .inl (mem_launched.2 (.inl rfl))
      · exact .inr ⟨m, later, rfl⟩
  intro n member
  rcases List.mem_cons.1 member with rfl | worker
  · exact all _ _ _ _ (.inl (mem_launched.2 (.inl rfl)))
  · exact all _ _ _ _ (.inr ⟨n, worker, rfl⟩)

/-- **The whole plan is brought up**, where there is room for its nodes. -/
theorem bringUp_succeeds {a : Arguments} (made : ofArguments a = .ok plan)
    (sized : config.plannedWorkers = a.workers)
    (awaits : s.Awaits config.baseDirectory q plan.nodes fs)
    (shown : view state files w = (s, fs)) :
    Assures (Beside (Aside state files)) (fun _ => True)
      (fun _ p => p.1 = formed config template (coordinatorName, plan.basePort) plan.workers ∧
        ∃ fs', view state files p.2 = (plan.demonstrated config (plan.assembled config s), fs'))
      (fun _ _ => False) (bringUp (host state files) plan) ({ config, template }, w) := by
  have unlike : plan.nodes.Pairwise fun m n => (m.1 ≠ n.1 ∧ m.2 ≠ n.2) ∧
      ¬ (config.identity m).Shares (config.identity n) :=
    (pairwise_nodes made).and (pairwise_apart made config.baseDirectory)
  have others := (List.pairwise_cons.1 unlike).1
  have room : (formed config template (coordinatorName, plan.basePort)
      []).membership.workers.length + plan.workers.length ≤ config.plannedWorkers := by
    rw [(workers_of_ofArguments made).2, sized]
    simp [formed]
  unfold bringUp
  simp only [Task.assures_bind]
  refine (Cluster.bootstrap_succeeds apart awaits (fun m hm => (others m hm).1)
    shown).of_infallible ?_
  rintro - ⟨_, w₁⟩ ⟨rfl, fs₁, awaits₁, shown₁⟩
  have leads : ∀ m ∈ (formed config template (coordinatorName, plan.basePort) []).allocated,
      ∀ n ∈ plan.workers, ¬ m.identity.Shares (config.identity n) := by
    intro m hm n hn
    obtain rfl : m = config.serving (coordinatorName, plan.basePort) := by
      simpa [Cluster.allocated, formed] using hm
    exact (others n hn).2
  refine (Cluster.addWorkers_succeed apart Cluster.bootstrapped_formed rfl room leads
    (List.pairwise_cons.1 unlike).2 awaits₁ (mem_launched.2 (.inl rfl)) shown₁).of_infallible ?_
  rintro - ⟨_, w₂⟩ ⟨rfl, fs₂, -, calm₂, shown₂⟩
  rw [Cluster.formed_append, List.nil_append]
  refine (demonstrate_succeeds apart (fun n hn => (others n hn).1.1) calm₂ running_assembled
    shown₂).of_infallible ?_
  rintro - ⟨_, w₃⟩ ⟨rfl, shown₃⟩
  exact ⟨rfl, fs₂, shown₃⟩

end BringingUp

end CommandLine.Plan

end ShardCluster
