import ShardCluster.CommandLine.Program
import ShardCluster.Proofs.Ledgers
import ShardCluster.Proofs.LodgedClusters
import ShardCluster.Proofs.PlannedClusters
import ShardCluster.Proofs.ScopedRuns

/-!
# Departures

What a run of the program leaves behind. A scoped run whose body keeps its cluster lodged ends with
nothing held, whatever the signal does (`Cluster.runScoped_lodged`), and so does a run of the
program (`runOn_lodged`). On the floor, where the estate is told by the ports in use, this means
that it leaves nothing behind (`Plan.LeftNothing`).
-/

namespace ShardCluster

open ShardCluster.Task (Ensures Assures Beside Keeps Leads)
open Node (Lodged)

namespace Task

lemma leads_owning_whole {W Y α : Type} {env : W → W → Prop} {t : Task (Y × W) α} {y : Y} {w : W}
    {r : Option (α × Y)} {w' : W} :
    Leads env (t.owning ⟨id, fun w _ => w⟩ y) w r w' ↔
      ∃ r' y', r = r'.map (·, y') ∧ Leads (Beside env) t (y, w) r' (y', w') := by
  induction t generalizing y w with
  | done a =>
    simp only [Task.owning, leads_done, Prod.mk.injEq]
    constructor
    · rintro ⟨rfl, rfl⟩
      exact ⟨_, y, rfl, rfl, rfl, rfl⟩
    · rintro ⟨_, _, rfl, rfl, rfl, rfl⟩
      exact ⟨rfl, rfl⟩
  | act effect next ih =>
    simp only [Task.owning, leads_act]
    exact ih (y, w)
  | pause delay wake next ih =>
    simp only [Task.owning, leads_pause]
    constructor
    · rintro (⟨rfl, rfl⟩ | ⟨w₁, he, hw, h⟩)
      · exact ⟨none, y, rfl, .inl ⟨rfl, rfl⟩⟩
      · obtain ⟨r', y', rfl, h'⟩ := ih.1 h
        exact ⟨r', y', rfl, .inr ⟨(y, w₁), ⟨rfl, he⟩, hw, h'⟩⟩
    · rintro ⟨r', y', rfl, ⟨rfl, h⟩ | ⟨⟨y₁, w₁⟩, ⟨rfl, he⟩, hw, h⟩⟩
      · cases h
        exact .inl ⟨rfl, rfl⟩
      · exact .inr ⟨w₁, he, hw, ih.2 ⟨r', y', rfl, h⟩⟩

lemma assures_lift {S α ε : Type} {env : S → S → Prop} {I : S → Prop} {Q : α → S → Prop}
    {E : ε → S → Prop} {t : Task S α} {s : S} :
    Assures env I Q E (ExceptT.lift t) s ↔ Ensures env I Q t s :=
  assures_liftM

end Task

/-! ### Scoped runs -/

namespace Cluster

variable {P W R : Type} [DecidableEq P] {env : W → W → Prop} {held : Estate P → W → Prop}
  {files : W → FileSystem} {host : Host P W} {fs₀ : FileSystem} {base : Path} {q : Place}
  {known : List Identity}

variable (premises : Premises env held files host fs₀ base q known)
include premises

lemma Lodges.others {p p' : Cluster P × Log P × W} (h : Lodges held files fs₀ base q known p)
    (he : Beside (Beside env) p p') : Lodges held files fs₀ base q known p' := by
  obtain ⟨c, l, w⟩ := p
  obtain ⟨c', l', w'⟩ := p'
  obtain ⟨rfl, rfl, others⟩ := he
  have same : files w' = files w := premises.works.others w w' others
  have lodged : Lodged files fs₀ q known (l', w') := Node.lodged_of_files h.lodged same
  have estate := premises.accounts.logged.kept _ (l', w) (l', w') h.order.estate ⟨rfl, others⟩
  exact ⟨h.toResident.still lodged, h.order.still estate⟩

/-- **Scoped runs** leave nothing held, if their bodies keep clusters lodged. -/
theorem runScoped_lodged {signal : Log P × W → HeldShutdown} {favoured : Log P × W → Bool}
    {body : ClusterAction P (Log P × W) R} {start p : Cluster P × Log P × W}
    {r : Except ClusterError (ScopeExit R)}
    (keeps : KeepsLodged env held files fs₀ base q known body)
    (h : Lodges held files fs₀ base q known start)
    (led : Leads (Beside (Beside env)) (runScoped host.logged signal favoured body) start (some r)
      p) :
    Host.Booked held 0 p.2 ∧ Lodged files fs₀ q known p.2 := by
  rcases leads_runScoped.1 led with ⟨none, -⟩ | ⟨outcome, s, t, part, torn, same⟩
  · cases none
  have lodges : Lodges held files fs₀ base q known s := by
    cases part with
    | skipped others _ => exact h.others premises others
    | forestalled others _ others' => exact (h.others premises others).others premises others'
    | ran begins ran =>
      obtain ⟨_, others, -, others', -⟩ := begins
      have begun := (h.others premises others).others premises others'
      cases ran.cut with
      | ended led => exact (keeps _ begun).holds led
      | givenUp led others'' _ => exact ((keeps _ begun).holds led).others premises others''
  have left := teardown_lodged premises lodges t p torn
  rcases t with _ | _ | _
  · cases same
  · exact left.elim
  · exact left

end Cluster

/-! ### Runs of the program -/

namespace CommandLine

open ShardCluster.Cluster (KeepsLodged Lodges)

variable {P W : Type} [DecidableEq P] {env : W → W → Prop} {held : Estate P → W → Prop}
  {files : W → FileSystem} {host : Host P W} {fs₀ : FileSystem} {config : Config} {plan : Plan}
  {q : Place} {signal : W → HeldShutdown} {print : String → Task W Unit}
  (premises : Premises env held files host fs₀ config.baseDirectory q
    (plan.nodes.map config.identity))
include premises

theorem Plan.bringUp_lodges : KeepsLodged env held files fs₀ config.baseDirectory q
    (plan.nodes.map config.identity) (bringUp host.logged plan) := by
  have member (n : String × UInt16) (there : n ∈ plan.nodes) :
      .under config.baseDirectory n.1 n.2 ∈ plan.nodes.map config.identity :=
    List.mem_map_of_mem (f := config.identity) there
  have join (n : String × UInt16) (planned : n ∈ plan.workers) :
      KeepsLodged env held files fs₀ config.baseDirectory q (plan.nodes.map config.identity)
        (do let _ ← Cluster.addWorker host.logged n.1 n.2) := by
    refine .bind ?_ fun _ => Cluster.keepsLodged_pure
    exact Cluster.addWorker_lodges premises (member n (.tail _ planned))
  unfold bringUp
  refine .bind (Cluster.bootstrap_lodges premises (member _ List.mem_cons_self)) fun _ => ?_
  refine .bind (.forM join) fun _ => ?_
  unfold demonstrate
  split
  · exact Cluster.keepsLodged_pure
  · refine .bind (Cluster.runOnNode_lodges premises) fun _ => ?_
    refine .bind (Cluster.runOnNode_lodges premises) fun _ => ?_
    exact .bind (Cluster.executeOnCoordinator_lodges premises) fun _ => Cluster.keepsLodged_pure

/-- Output that changes neither the estate nor the files. -/
structure Prints (env : W → W → Prop) (held : Estate P → W → Prop) (files : W → FileSystem)
    (print : String → Task W Unit) : Prop where
  neutral : ∀ text, Neutral env held (print text)
  files : ∀ text fs, Keeps env (files · = fs) (print text)

theorem body_lodges (prints : Prints env held files print) :
    KeepsLodged env held files fs₀ config.baseDirectory q (plan.nodes.map config.identity)
      (body host.logged (fun text => (print text).through (Part.second (Log P) W)) plan) := by
  refine .bind (Plan.bringUp_lodges premises) fun _ => ?_
  rintro ⟨c, l, w⟩ h
  simp only [Task.assures_bind, Cluster.assures_current, Task.assures_liftExcept]
  rcases reportText plan.json c.nodes with e | text
  · exact h
  have still (w' : W) (estate : held (c.estate + 0) w') (same : files w' = files w) :
      Lodges held files fs₀ config.baseDirectory q (plan.nodes.map config.identity)
        (c, l, w') := by
    have lodged : Lodged files fs₀ q (plan.nodes.map config.identity) (l, w') :=
      Node.lodged_of_files h.lodged same
    exact ⟨h.toResident.still lodged, h.order.still ⟨h.order.estate.1, estate⟩⟩
  have printed := (prints.neutral text _ w h.order.estate.2).and (prints.files text _ w rfl)
  refine Task.assures_lift.2 (Task.ensures_through.2 (Task.ensures_through.2
    (printed.mono (fun w' h' => still w' h'.1 h'.2) fun _ w' h' => Task.assures_lift.2 ?_)))
  -- what is left is a wait without an end
  refine Task.ensures_pause.2 ⟨still w' h'.1 h'.2, fun _ _ woken => ?_⟩
  simp at woken

/-- **A run of the program** leaves nothing held. -/
theorem runOn_lodged (prints : Prints env held files print) {w : W} {s : Log P × W}
    {outcome : Outcome} (start : held 0 w) (same : files w = fs₀)
    (led : Leads (Beside env) (runOn host.logged (fun s => signal s.2)
      (fun text => (print text).through (Part.second (Log P) W)) config plan) ([], w)
      (some outcome) s) :
    Host.Booked held 0 s ∧ Lodged files fs₀ q (plan.nodes.map config.identity) s := by
  subst same
  have estate : Host.Booked held 0 (([], w) : Log P × W) := ⟨rfl, start⟩
  unfold runOn at led
  rcases created : Cluster.create (P := P) config with e | c
  · rw [created] at led
    obtain ⟨-, rfl⟩ := Task.leads_done.1 led
    exact ⟨estate, .start⟩
  rw [created] at led
  obtain ⟨template, rfl⟩ := Cluster.eq_of_create created
  obtain ⟨result, s₁, ran, ends⟩ := Task.leads_bind_some.1 led
  obtain ⟨r, c', same, whole⟩ := Task.leads_owning_whole.1 ran
  have lodges : Lodges held files (files w) config.baseDirectory q (plan.nodes.map config.identity)
      (({ config, template } : Cluster P), [], w) :=
    ⟨⟨rfl, nofun, .start⟩, Cluster.inOrder_emptied (c := { config, template }) estate⟩
  rcases r with _ | r
  · cases same
  have left := Cluster.runScoped_lodged premises (body_lodges premises prints) lodges whole
  obtain rfl : s = s₁ := by
    obtain ⟨result, _⟩ := result
    rcases result with e | exit
    · exact (Task.leads_done.1 ends).2
    · exact (Task.leads_done.1 ends).2
  exact left

end CommandLine

/-! ### Runs on the floor -/

open Scenario (Floor)
open ShardCluster.Scenario.Floor (Ledger)

/-- **Nothing is altered** on the floor: neither has anything moved nor have files changed. -/
structure Scenario.Floor.Unaltered (f f' : Floor) : Prop extends f.Unmoved f' where
  files : f'.files = f.files

lemma Scenario.Floor.Unaltered.refl {f : Floor} : f.Unaltered f :=
  ⟨⟨rfl, rfl, rfl, fun _ there => there⟩, rfl⟩

lemma Scenario.Floor.Unaltered.trans {f f' f'' : Floor} (h : f.Unaltered f')
    (h' : f'.Unaltered f'') : f.Unaltered f'' where
  running := h'.running.trans h.running
  occupied := h'.occupied.trans h.occupied
  refusingStop := h'.refusingStop.trans h.refusingStop
  faults fault there := h.faults fault (h'.faults fault there)
  files := h'.files.trans h.files

namespace CommandLine.Plan

variable {config : Config} {plan : Plan} {q : Place} {fs : FileSystem} {f₀ f : Floor}
  {l : Log Simulated.Process} {a : Arguments}

/-- where a node of a plan has its directory, in a base directory at that place -/
def nodeHome (q : Place) (n : String × UInt16) : Place := q ++ [Utf8.encode n.1]

/-- **A plan on firm ground**: its base directory is there, it would be reached even without those
directories of the nodes that nothing is in, and none of these directories is a link. -/
structure Grounded (plan : Plan) (base : Path) (q : Place) (fs : FileSystem) : Prop where
  there : ∃ folder, fs.lookup q = some (.directory folder)
  reached : ∃ folder, (fs.withoutVacant (plan.nodes.map (nodeHome q))).find base .followed =
    .ok (q, .directory folder)
  no_link : ∀ n ∈ plan.nodes, ∀ target, fs.lookup (nodeHome q n) ≠ some (.link target)

lemma Grounded.ground (h : plan.Grounded config.baseDirectory q fs) :
    fs.Ground config.baseDirectory (plan.nodes.map config.identity) q := by
  obtain ⟨folder, there⟩ := h.there
  have directory : fs.layout q = some .directory := FileSystem.layout_of_lookup there
  obtain ⟨_, found⟩ := h.reached
  obtain ⟨n, route⟩ := FileSystem.reaches_of_find_followed found
  have children : ∀ home ∈ plan.nodes.map (nodeHome q), ∃ name, home = q ++ [name] := by
    rintro _ member
    obtain ⟨n, -, rfl⟩ := List.mem_map.1 member
    exact ⟨_, rfl⟩
  obtain ⟨fewer, hidden⟩ := FileSystem.layout_withoutVacant directory children
  refine ⟨⟨_, n, fewer, ?_, ?_⟩, directory, ?_⟩
  · rintro _ member vacant p below
    obtain ⟨n, planned, rfl⟩ := List.mem_map.1 member
    exact hidden _ (List.mem_map_of_mem planned) vacant p below
  · rwa [FileSystem.origin_congr FileSystem.workingDirectory_withoutVacant] at route
  · rintro _ member target link
    obtain ⟨n, planned, rfl⟩ := List.mem_map.1 member
    rw [FileSystem.layout_eq, Option.map_eq_some_iff] at link
    obtain ⟨entry, found, shape⟩ := link
    cases entry <;> cases shape
    exact h.no_link n planned _ found

/-- **What a run leaves behind**: no server that it started, and whatever else listened still does.
A directory that a node had taken over was vacant before and is gone. Every other one is as it was,
and in particular one that held something; and so is everything else. -/
structure LeftNothing (plan : Plan) (config : Config) (q : Place) (f₀ : Floor)
    (l : Log Simulated.Process) (f : Floor) : Prop where
  running : f.engine.running = f₀.engine.running
  occupied : f.engine.occupied = f₀.engine.occupied
  gone : ∀ n ∈ plan.nodes, .claimed (config.identity n).logDirectory ∈ l →
    f₀.files.layout.Vacant (nodeHome q n) ∧ ∀ p, nodeHome q n <+: p → f.files.layout p = none
  untouched : ∀ n ∈ plan.nodes, .claimed (config.identity n).logDirectory ∉ l →
    ∀ p, nodeHome q n <+: p → f.files.layout p = f₀.files.layout p
  kept : ∀ n ∈ plan.nodes, ¬ f₀.files.layout.Vacant (nodeHome q n) →
    ∀ p, nodeHome q n <+: p → f.files.layout p = f₀.files.layout p
  elsewhere : ∀ p, (∀ n ∈ plan.nodes, ¬ nodeHome q n <+: p) →
    f.files.layout p = f₀.files.layout p

lemma premises_floor (made : ofArguments a = .ok plan)
    (grounded : plan.Grounded config.baseDirectory q f₀.files) :
    Premises Floor.Unaltered (fun e => Ledger f₀ (e.1.map Simulated.Process.port)) Floor.files
      Floor.host f₀.files config.baseDirectory q (plan.nodes.map config.identity) where
  accounts := Scenario.Floor.accounts_ledger fun _ _ others => others.toUnmoved
  works := onFiles_floor fun _ _ others => others.files
  obliging p e w h := by
    have ledger : Ledger f₀ (p.port ::ₘ e.1.map Simulated.Process.port) w := by
      simpa [Estate.server] using h
    exact (Scenario.Floor.stop_ledger (fun _ _ others => others.toUnmoved) ledger).mono
      (fun _ _ => trivial) fun _ _ h => h.1
  named := by
    rintro _ member
    obtain ⟨⟨name, port⟩, planned, rfl⟩ := List.mem_map.1 member
    obtain ⟨one, short⟩ := isName_of_mem made planned
    exact ⟨rfl, one, short⟩
  ground := grounded.ground

/-- a plan for two workers -/
def pair : Plan where
  basePort := 5432
  workers := [("worker1", 5433), ("worker2", 5434)]
  partitioning := {
    replicationFactor := 2
    table := demoTable
    key := demoKey
    partitions := 4
    immediate := true }
  json := false

/-- the configuration for it, in that base directory -/
def pairIn (base : String) : Config :=
  configuration ⟨[]⟩ { workers := 2, baseDirectory := some (.ofString base) }

/-- a run of it that prints nothing -/
def runPair (base : String) : Task (Log Simulated.Process × Floor) Outcome :=
  runOn Floor.host.logged (fun s => s.2.shutdown)
    (fun _ => (Task.done ()).through (Part.second (Log Simulated.Process) Floor)) (pairIn base) pair

/-- gives the signal seven tenths of a second later -/
def interruptLater : Alarm (Log Simulated.Process × Floor) where
  wait := 700000000
  ring s := (s.1, { s.2 with shutdown := s.2.shutdown.trigger })

/-- Two ports are taken, the second worker's directory holds notes, and a start takes half a
second. -/
def busyFloor : Floor where
  files := ⟨[(Utf8.encode "base", .directory [(Utf8.encode "shardlord", .directory []),
    (Utf8.encode "worker2", .directory [(Utf8.encode "notes", .file (Utf8.encode "mine"))])])], []⟩
  engine := { running := [7000], occupied := [6000] }
  interference := { delays := [(.start, 500000000)] }

lemma grounded_busyFloor :
    pair.Grounded (pairIn "base").baseDirectory [Utf8.encode "base"] busyFloor.files := by
  refine ⟨⟨_, rfl⟩, ⟨_, rfl⟩, fun n member target link => ?_⟩
  have one_of : n = ("shardlord", 5432) ∨ n = ("worker1", 5433) ∨ n = ("worker2", 5434) := by
    simpa [nodes, pair, coordinatorName] using member
  rcases one_of with rfl | rfl | rfl
  · cases link
  · cases link
  · cases link

/-- The first worker's directory is there, with nothing in it. -/
def roundaboutFloor : Floor where
  files := ⟨[(Utf8.encode "x", .directory [(Utf8.encode "worker1", .directory [])])], []⟩

/-- Where the base directory is reached through the directory of a worker, that directory goes
before the others do, and they stay although they were taken over. -/
theorem coordinator_stays :
    roundaboutFloor.files.layout [Utf8.encode "x", Utf8.encode "shardlord"] = none ∧
    ((runPair "x/worker1/..").run [interruptLater] ([], roundaboutFloor)).2.2.files.layout
      [Utf8.encode "x", Utf8.encode "shardlord"] = some .directory := by
  decide +kernel

end CommandLine.Plan

end ShardCluster
