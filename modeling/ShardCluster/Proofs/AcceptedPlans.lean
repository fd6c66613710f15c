import ShardCluster.CommandLine.Session
import ShardCluster.Proofs.PlannedClusters

/-!
# Accepted plans

What the servers of a plan have been told once it has been brought up: the list of all statements
(`Plan.statements`), and what went to each port (`Plan.toldOn_lead`, `Plan.toldOn_worker`).
`Plan.accepted_and_brought_up` says which plans are accepted, and that a run brings each of them up,
in virtual time and with exactly these statements, where there is room for its nodes and the engine
is without faults.
-/

namespace ShardCluster

open ShardCluster.Task (Beside Leads)
open Simulated (Apart Aside Faultless Process view host)

/-! ### What went to a port -/

namespace Simulated

variable {port : UInt16} {first second : List Executed}

/-- the statements among some that went to a port -/
def toldOn (port : UInt16) (entries : List Executed) : List String :=
  (entries.filter (·.port == port)).map (·.statement)

lemma toldOn_append : toldOn port (first ++ second) = toldOn port first ++ toldOn port second := by
  simp only [toldOn, List.filter_append, List.map_append]

lemma toldOn_flatMap {α : Type} {l : List α} {f : α → List Executed} :
    toldOn port (l.flatMap f) = l.flatMap fun a => toldOn port (f a) := by
  simp only [toldOn, List.filter_flatMap, List.map_flatMap]

@[simp] lemma toldOn_nil : toldOn port [] = [] := rfl

@[simp] lemma toldOn_here {database statement : String} :
    toldOn port (⟨port, database, statement⟩ :: second) = statement :: toldOn port second := by
  simp [toldOn]

lemma toldOn_elsewhere {port' : UInt16} {database statement : String} (other : port' ≠ port) :
    toldOn port (⟨port', database, statement⟩ :: second) = toldOn port second := by
  simp [toldOn, other]

end Simulated

/-! ### The statements of a plan -/

namespace CommandLine.Plan

open ShardCluster.Cluster (formed)
open ShardCluster.Simulated (toldOn toldOn_append toldOn_flatMap toldOn_elsewhere)

variable {plan : Plan} {a : Arguments} {config : Config} {s : Simulated} {dbname : String}
  {port : UInt16} {n : String × UInt16}

/-- the statements for a worker that joins -/
def joining (basePort : UInt16) (dbname : String) (n : String × UInt16) : List Executed :=
  [⟨n.2, dbname, Sql.installSharding⟩, ⟨basePort, dbname, Sql.addNode (.reaching dbname n.2)⟩]

lemma statements_joined (lead : String × UInt16) (workers : List (String × UInt16))
    (s : Simulated) :
    (workers.foldl (fun s n => config.joined lead n s) s).statements =
      s.statements ++ workers.flatMap (joining lead.2 config.dbname) := by
  induction workers generalizing s with
  | nil => simp
  | cons n rest ih =>
    rw [List.foldl_cons, ih, List.flatMap_cons, ← List.append_assoc]
    simp [Config.joined, joining, Simulated.executed, Simulated.launched]

/-- the statements for the table -/
def tabulating (plan : Plan) (dbname : String) : List Executed :=
  match plan.workers with
  | [] => []
  | n :: _ => [⟨n.2, dbname, createTable⟩, ⟨n.2, dbname, fillTable⟩,
      ⟨plan.basePort, dbname, plan.partitioning.statement⟩]

/-- **All statements of a plan** -/
def statements (plan : Plan) (dbname : String) : List Executed :=
  ⟨plan.basePort, dbname, Sql.installSharding⟩ ::
    (plan.workers.flatMap (joining plan.basePort dbname) ++ plan.tabulating dbname)

theorem statements_of_broughtUp :
    (plan.demonstrated config (plan.assembled config s)).statements =
      s.statements ++ plan.statements config.dbname := by
  have told (s : Simulated) : (plan.demonstrated config s).statements =
      s.statements ++ plan.tabulating config.dbname := by
    unfold demonstrated tabulating
    rcases plan.workers with _ | ⟨n, more⟩
    · simp
    · simp [Simulated.executed]
  rw [told, assembled, statements_joined]
  simp [statements, Config.led, Simulated.executed, Simulated.launched]

lemma database_of_mem {e : Executed} (member : e ∈ plan.statements dbname) :
    e.database = dbname := by
  simp only [statements, tabulating, joining, List.mem_cons, List.mem_append,
    List.mem_flatMap] at member
  rcases member with rfl | ⟨n, -, rfl | rfl | ⟨⟨⟩⟩⟩ | member
  · rfl
  · rfl
  · rfl
  · split at member <;> simp at member
    rcases member with rfl | rfl | rfl <;> rfl

lemma filter_joining {lead : UInt16} (other : lead ≠ port) (workers : List (String × UInt16)) :
    (workers.flatMap (joining lead dbname)).filter (·.port == port) =
      (workers.filter (·.2 == port)).map fun _ => ⟨port, dbname, Sql.installSharding⟩ := by
  induction workers with
  | nil => rfl
  | cons n rest ih =>
    have here : (joining lead dbname n).filter (·.port == port) =
        if n.2 = port then [⟨port, dbname, Sql.installSharding⟩] else [] := by
      by_cases same : n.2 = port <;> simp [joining, same, other]
    rw [List.flatMap_cons, List.filter_append, ih, here, List.filter_cons]
    by_cases same : n.2 = port <;> simp [same]

lemma toldOn_joining (other : plan.basePort ≠ port) (workers : List (String × UInt16)) :
    toldOn port (workers.flatMap (joining plan.basePort dbname)) =
      (workers.filter (·.2 == port)).map fun _ => Sql.installSharding := by
  rw [toldOn, filter_joining other, List.map_map]
  rfl

lemma toldOn_registered {lead : UInt16} {workers : List (String × UInt16)}
    (others : ∀ n ∈ workers, n.2 ≠ lead) :
    toldOn lead (workers.flatMap (joining lead dbname)) =
      workers.map fun n => Sql.addNode (.reaching dbname n.2) := by
  rw [toldOn_flatMap, List.map_eq_flatMap]
  refine List.flatMap_congr fun n hn => ?_
  rw [joining, toldOn_elsewhere (others n hn), Simulated.toldOn_here, Simulated.toldOn_nil]

variable (made : ofArguments a = .ok plan)
include made

/-- **The coordinator** installs the extension, registers the workers in their order, and partitions
the table if there are any. -/
theorem toldOn_lead : toldOn plan.basePort (plan.statements dbname) =
    Sql.installSharding :: plan.workers.map (fun n => Sql.addNode (.reaching dbname n.2)) ++
      if plan.workers = [] then [] else [plan.partitioning.statement] := by
  have others : ∀ n ∈ plan.workers, n.2 ≠ plan.basePort := fun n hn =>
    ((List.pairwise_cons.1 (pairwise_nodes made)).1 n hn).2.symm
  have tabulated : toldOn plan.basePort (plan.tabulating dbname) =
      if plan.workers = [] then [] else [plan.partitioning.statement] := by
    unfold tabulating
    rcases there : plan.workers with _ | ⟨n, more⟩
    · rfl
    · have other := others n (there ▸ List.mem_cons_self)
      rw [if_neg (List.cons_ne_nil _ _)]
      simp only [toldOn_elsewhere other, Simulated.toldOn_here, Simulated.toldOn_nil]
  rw [statements, Simulated.toldOn_here, toldOn_append, toldOn_registered others, tabulated,
    List.cons_append]

/-- **A worker** installs the extension; the first one creates the table and fills it. -/
theorem toldOn_worker (member : n ∈ plan.workers) : toldOn n.2 (plan.statements dbname) =
    Sql.installSharding ::
      if plan.workers.head? = some n then [createTable, fillTable] else [] := by
  have apart := (List.pairwise_cons.1 (pairwise_nodes made)).2
  have other : plan.basePort ≠ n.2 := ((List.pairwise_cons.1 (pairwise_nodes made)).1 n member).2
  have single : plan.workers.filter (·.2 == n.2) = [n] := by
    obtain ⟨before, after, parts⟩ := List.append_of_mem member
    rw [parts] at apart ⊢
    obtain ⟨-, after_apart, before_apart⟩ := List.pairwise_append.1 apart
    have none_before : before.filter (·.2 == n.2) = [] := List.filter_eq_nil_iff.2 fun m hm => by
      simpa using (before_apart m hm n List.mem_cons_self).2
    have none_after : after.filter (·.2 == n.2) = [] := List.filter_eq_nil_iff.2 fun m hm => by
      simpa using ((List.pairwise_cons.1 after_apart).1 m hm).2.symm
    rw [List.filter_append, none_before, List.filter_cons, if_pos (beq_self_eq_true n.2),
      none_after, List.nil_append]
  have tabulated : toldOn n.2 (plan.tabulating dbname) =
      if plan.workers.head? = some n then [createTable, fillTable] else [] := by
    unfold tabulating
    rcases there : plan.workers with _ | ⟨m, more⟩
    · rfl
    show toldOn n.2 [_, _, _] = _
    by_cases same : m = n
    · rw [same, if_pos List.head?_cons, Simulated.toldOn_here, Simulated.toldOn_here,
        toldOn_elsewhere other, Simulated.toldOn_nil]
    · have another : m.2 ≠ n.2 := by
        rw [there] at apart member
        have later := (List.mem_cons.1 member).resolve_left (Ne.symm same)
        exact ((List.pairwise_cons.1 apart).1 n later).2
      rw [List.head?_cons, if_neg (by simpa using same), toldOn_elsewhere another,
        toldOn_elsewhere another, toldOn_elsewhere other, Simulated.toldOn_nil]
  rw [statements, toldOn_elsewhere other, toldOn_append, toldOn_joining other, single, tabulated]
  rfl

omit made in
lemma toldOn_other (none_there : ∀ n ∈ plan.nodes, n.2 ≠ port) :
    toldOn port (plan.statements dbname) = [] := by
  have lead : plan.basePort ≠ port := none_there (coordinatorName, plan.basePort) List.mem_cons_self
  have workers : ∀ n ∈ plan.workers, n.2 ≠ port := fun n hn => none_there n (.tail _ hn)
  have none_joins : plan.workers.filter (·.2 == port) = [] :=
    List.filter_eq_nil_iff.2 fun n hn => by simpa using workers n hn
  have tabulated : toldOn port (plan.tabulating dbname) = [] := by
    unfold tabulating
    rcases there : plan.workers with _ | ⟨n, more⟩
    · rfl
    · have other := workers n (there ▸ List.mem_cons_self)
      simp only [toldOn_elsewhere other, toldOn_elsewhere lead, Simulated.toldOn_nil]
  rw [statements, toldOn_elsewhere lead, toldOn_append, toldOn_joining lead, none_joins, tabulated]
  rfl

end CommandLine.Plan

/-! ### Whole runs -/

namespace CommandLine.Plan

open ShardCluster.Cluster (formed)
open ShardCluster.Simulated (toldOn toldOn_append)
open ShardCluster.Task (timed_run_pure timed_run_bind timed_run_forM)

theorem timed_bringUp {P W : Type} {host : Host P W} (timed : host.Timed) {plan : Plan} :
    (bringUp host plan).run.Timed := by
  refine timed_run_bind (Cluster.timed_bootstrap timed) fun _ => ?_
  refine timed_run_bind (timed_run_forM fun n _ => ?_) fun _ => ?_
  · exact timed_run_bind (Cluster.timed_addWorker timed) fun _ => timed_run_pure
  unfold demonstrate
  split
  · exact timed_run_pure
  · refine timed_run_bind (Cluster.timed_runOnNode timed) fun _ => ?_
    refine timed_run_bind (Cluster.timed_runOnNode timed) fun _ => ?_
    exact timed_run_bind (Cluster.timed_executeOnCoordinator timed) fun _ => timed_run_pure

/-- **Where a plan can be brought up**: its base directory is there without entries for the nodes,
and the paths of their files are no longer than paths may be. -/
structure HasRoom (plan : Plan) (base : Path) (fs : FileSystem) : Prop where
  vacant : ∃ place folder, fs.find base .followed = .ok (place, .directory folder) ∧
    fs.lookup place = some (.directory folder) ∧
    ∀ n ∈ plan.nodes, folder.lookup (Utf8.encode n.1) = none
  deep : ∀ n ∈ plan.nodes, FileSystem.admissible
    (((base.child n.1).child "data").child "postgresql.conf") = .ok ()

lemma HasRoom.rooms {a : Arguments} {plan : Plan} {base : Path} {fs : FileSystem}
    (h : plan.HasRoom base fs) (made : ofArguments a = .ok plan) :
    ∃ q, ∀ n ∈ plan.nodes, fs.Room base q n.1 := by
  obtain ⟨q, folder, found, there, none_there⟩ := h.vacant
  refine ⟨q, fun n member => ?_⟩
  obtain ⟨one, short⟩ := isName_of_mem made member
  exact FileSystem.room_of_vacant found there one short (none_there n member) (h.deep n member)

/-- **What bringing a plan up comes to**: the members of the cluster, and the statements that each
server has been given since. -/
structure BroughtUp (a : Arguments) (config : Config) (c : Cluster Process) (s s' : Simulated) :
    Prop where
  coordinator : c.membership.coordinator =
    some (.under config.baseDirectory "shardlord" a.basePort)
  workers : c.membership.workers = (List.range a.workers).map fun i =>
    .under config.baseDirectory ("worker" ++ toString (i + 1))
      (UInt16.ofNat (a.basePort.toNat + (i + 1)))
  /-- the ports come one after another, without a gap -/
  ports : c.membership.workers.map (·.port.toNat) =
    (List.range a.workers).map fun i => a.basePort.toNat + (i + 1)
  running : ∀ n ∈ c.members, n.phase = .running
  database : ∃ new, s'.statements = s.statements ++ new ∧ ∀ e ∈ new, e.database = config.dbname
  /-- The extension is installed on the coordinator, the workers are registered in their order, and
  the table is partitioned if there are any. -/
  onCoordinator : s'.statementsOn a.basePort = s.statementsOn a.basePort ++
    (Sql.installSharding ::
      c.membership.workers.map (fun i => Sql.addNode (.reaching config.dbname i.port)) ++
      if a.workers = 0 then []
      else [({ replicationFactor := a.replicas, table := demoTable, key := demoKey,
               partitions := a.partitions, immediate := true } : HashPartitioning).statement])
  /-- The extension is installed on every worker, and the first one creates and fills the table. -/
  onWorkers : ∀ i ∈ c.membership.workers, s'.statementsOn i.port = s.statementsOn i.port ++
    Sql.installSharding :: if i.name = "worker1" then [createTable, fillTable] else []
  elsewhere : ∀ port, port ≠ a.basePort → (∀ i ∈ c.membership.workers, i.port ≠ port) →
    s'.statementsOn port = s.statementsOn port

section Conclusion

variable {a : Arguments} {plan : Plan} (made : ofArguments a = .ok plan)
include made

lemma head_iff {n : String × UInt16} (member : n ∈ plan.workers) :
    plan.workers.head? = some n ↔ n.1 = "worker1" := by
  rw [(workers_of_ofArguments made).2] at member ⊢
  obtain ⟨i, few, rfl⟩ := List.mem_map.1 member
  obtain ⟨more, some_worker⟩ := Nat.exists_eq_succ_of_ne_zero
    (Nat.ne_zero_of_lt (List.mem_range.1 few))
  have first : (node a.basePort 1).1 = "worker1" := rfl
  rw [some_worker, List.range_succ_eq_map, List.map_cons, List.head?_cons, Option.some.injEq]
  constructor
  · intro same
    rw [← same]
    rfl
  · intro named
    rw [node_name_injective (named.trans first.symm)]

lemma partitioning_of_ofArguments : plan.partitioning =
    { replicationFactor := a.replicas, table := demoTable, key := demoKey,
      partitions := a.partitions, immediate := true } := by
  have enough := ports_of_ofArguments made
  unfold ofArguments at made
  rw [if_pos enough] at made
  cases made
  rfl

/-- What the cluster and the engine are like once the plan has been brought up. -/
theorem broughtUp_formed {config : Config} {template : Template} {s : Simulated} :
    BroughtUp a config (formed config template (coordinatorName, plan.basePort) plan.workers) s
      (plan.demonstrated config (plan.assembled config s)) := by
  obtain ⟨port, workers⟩ := workers_of_ofArguments made
  have enough := ports_of_ofArguments made
  have told (port : UInt16) :
      (plan.demonstrated config (plan.assembled config s)).statementsOn port =
        s.statementsOn port ++ toldOn port (plan.statements config.dbname) := by
    show toldOn port _ = toldOn port _ ++ _
    rw [statements_of_broughtUp, toldOn_append]
  refine ⟨?_, ?_, ?_, ?_, ⟨plan.statements config.dbname, statements_of_broughtUp,
    fun e => database_of_mem⟩, ?_, ?_, ?_⟩
  · rw [← port]
    rfl
  · show plan.workers.map config.identity = _
    rw [workers, List.map_map]
    rfl
  · show (plan.workers.map config.identity).map (·.port.toNat) = _
    rw [workers, List.map_map, List.map_map]
    refine List.map_congr_left fun i few => ?_
    show (UInt16.ofNat (a.basePort.toNat + (i + 1))).toNat = _
    rw [List.mem_range] at few
    rw [UInt16.toNat_ofNat', Nat.mod_eq_of_lt (Nat.lt_of_le_of_lt (by omega) enough)]
  · intro n hn
    have known : n ∈ (plan.nodes).map config.serving := hn
    obtain ⟨m, -, rfl⟩ := List.mem_map.1 known
    rfl
  · have some_worker : plan.workers = [] ↔ a.workers = 0 := by
      rw [workers, List.map_eq_nil_iff, List.range_eq_nil]
    rw [← port, told, toldOn_lead made, partitioning_of_ofArguments made]
    show _ = _ ++ (_ :: (plan.workers.map config.identity).map _ ++ _)
    rw [List.map_map]
    simp only [some_worker]
    rfl
  · intro i member
    obtain ⟨n, there, rfl⟩ := List.mem_map.1 member
    show _ = _ ++ _ :: if n.1 = "worker1" then _ else _
    have alike := head_iff made there
    rw [told]
    show _ ++ toldOn n.2 _ = _
    rw [toldOn_worker made there]
    simp only [alike]
  · intro port' other none_there
    rw [told, toldOn_other, List.append_nil]
    intro n member
    rcases List.mem_cons.1 member with rfl | worker
    · rw [port]
      exact other.symm
    · exact none_there (config.identity n) (List.mem_map_of_mem worker)

end Conclusion

/-- **Accepted plans are brought up.** A plan is made exactly if no port goes beyond the last one.
Every such plan is brought up in a new cluster of its size, where there is room for its nodes, the
engine is without faults and their ports are free, whatever happens meanwhile beside the engine and
the files. -/
theorem accepted_and_brought_up (a : Arguments) :
    ((∃ plan, ofArguments a = .ok plan) ↔ a.basePort.toNat + a.workers ≤ 65535) ∧
    ∀ (plan : Plan) (config : Config) (c : Cluster Process) (W : Type) (state : Part W Simulated)
      (files : Part W FileSystem) (w : W) (alarms : List (Alarm (Cluster Process × W))),
      ofArguments a = .ok plan → Cluster.create config = .ok c →
      config.plannedWorkers = a.workers → Apart state files → (state.get w).Faultless →
      (∀ n ∈ plan.nodes, (state.get w).isFree n.2) →
      plan.HasRoom config.baseDirectory (files.get w) →
      (∀ alarm ∈ alarms, ∀ p, Beside (Aside state files) p (alarm.ring p)) →
      ∃ c' w', (bringUp (host state files) plan).run.run alarms (c, w) =
          (some (.ok ()), c', w') ∧
        BroughtUp a config c' (state.get w) (state.get w') := by
  refine ⟨ofArguments_ok_iff.trans Nat.lt_succ_iff, ?_⟩
  intro plan config c W state files w alarms made created sized apart calm free room beside
  obtain ⟨template, rfl⟩ := Cluster.eq_of_create created
  obtain ⟨q, rooms⟩ := room.rooms made
  have awaits : (state.get w).Awaits config.baseDirectory q plan.nodes (files.get w) :=
    ⟨calm, rooms, free⟩
  -- the run comes to an end, and ends as the operation does
  have timed : (bringUp (host state files) plan).run.Timed := timed_bringUp Simulated.timed_host
  obtain ⟨r, ends⟩ := timed.run_ends alarms ({ config, template }, w)
  have led : Leads (Beside (Aside state files)) (bringUp (host state files) plan).run
      ({ config, template }, w) (some r)
      ((bringUp (host state files) plan).run.run alarms ({ config, template }, w)).2 :=
    Task.leads_of_run (fun _ => ⟨rfl, rfl⟩)
      (fun h h' => ⟨h'.1.trans h.1, h'.2.trans h.2⟩) beside ends
  have final := bringUp_succeeds apart made sized awaits rfl (some r) _ led
  generalize hp : (bringUp (host state files) plan).run.run alarms ({ config, template }, w) = p
    at ends final
  obtain ⟨_, c', w'⟩ := p
  obtain rfl := ends
  rcases r with e | _
  · exact final.elim
  obtain ⟨rfl, fs', shown⟩ := final
  refine ⟨_, w', rfl, ?_⟩
  rw [(Prod.mk.inj shown).1]
  exact broughtUp_formed made

lemma apart_terminal : Apart Terminal.simulatedPart (Terminal.machinePart.comp Machine.filesPart) :=
  ⟨fun _ _ => rfl, fun _ _ => rfl, fun _ _ => rfl, fun _ _ => rfl⟩

/-- the program's world on a machine with nothing in the default base directory -/
def vacantTerminal : Terminal where
  machine := { Machine.booted [] [] with
    files := ⟨[(Utf8.encode "tmp", .directory [(Utf8.encode "shardlord", .directory [])])], []⟩ }

/-- The program brings a coordinator and three workers up on the last four ports. -/
theorem last_ports_brought_up : ∃ plan c t, ofArguments { basePort := 65532 } = .ok plan ∧
    (bringUp ⟨Simulated.engine Terminal.simulatedPart Terminal.storage, Terminal.storage⟩
      plan).run.run [] (.ofDefaults, vacantTerminal) = (some (.ok ()), c, t) ∧
    BroughtUp { basePort := 65532 } (.ofEnvironment ⟨[]⟩) c {} t.simulated := by
  obtain ⟨plan, made⟩ := (accepted_and_brought_up { basePort := 65532 }).1.2 (by decide)
  have room : plan.HasRoom (Config.ofEnvironment ⟨[]⟩).baseDirectory
      vacantTerminal.machine.files := by
    refine ⟨⟨_, _, rfl, rfl, fun _ _ => rfl⟩, ?_⟩
    rw [nodes_of_ofArguments made]
    decide +kernel
  obtain ⟨c, t, ran, up⟩ := (accepted_and_brought_up { basePort := 65532 }).2 plan
    (.ofEnvironment ⟨[]⟩) .ofDefaults Terminal Terminal.simulatedPart
    (Terminal.machinePart.comp Machine.filesPart) vacantTerminal [] made Cluster.create_ofDefaults
    rfl apart_terminal ⟨rfl, rfl, rfl⟩ (fun _ _ => rfl) room nofun
  exact ⟨plan, c, t, made, ran, up⟩

end CommandLine.Plan

end ShardCluster
