import Mathlib
import ShardCluster.Proofs.AcceptedPlans

/-!
# The order of joining

Workers that join a cluster on a simulated engine without faults leave the same behind in whatever
order they come. What a worker leaves is a subtree of its own in the files, a port of its own and
its own statements, and two such changes can be made in either order (`joinedFiles_comm`,
`insertPort_comm`). A worker that is half-way in when they come is released first, in either run
(`addWorkers_run_cleared`). `order_immaterial` compares two whole runs: only the list of the members
and the registrations with the coordinator tell the order.
-/

namespace ShardCluster

open ShardCluster.Task (Ensures Assures Beside Leads Quiet quiet_eq)
open Simulated (Apart Aside Faultless Process host toldOn)
open CommandLine (Terminal)

/-! ### Runs to the end -/

namespace Task

variable {W α β : Type}

lemma run_bind {t : Task W α} {f : α → Task W β} {w : W} : (t >>= f).run [] w =
    (t.run [] w).1.elim (none, (t.run [] w).2) fun a => (f a).run [] (t.run [] w).2 := by
  show (t.bind f).run [] w = _
  induction t generalizing w with
  | done a => rfl
  | act effect next ih => exact ih _
  | pause delay wake next ih =>
    rw [Task.bind, run_pause, run_pause]
    by_cases passes : (wake w || delay.isSome) = true
    · rw [if_pos passes, if_pos passes]
      exact ih
    · rw [if_neg passes, if_neg passes]
      rfl

/-- Nothing that comes later tells worlds apart where a task runs alike. -/
lemma run_bind_congr {t : Task W α} {f : α → Task W β} {w w₁ : W}
    (same : t.run [] w = t.run [] w₁) :
    (t >>= f).run [] w = (t >>= f).run [] w₁ := by
  rw [run_bind, run_bind, same]

end Task

lemma Task.run_of_assures {W ε α : Type} {env : W → W → Prop} {Q : α → W → Prop}
    {x : ExceptT ε (Task W) α} {w : W} {alarms : List (Alarm W)} (refl : ∀ w, env w w)
    (trans : ∀ {u v w}, env u v → env v w → env u w) (timed : x.run.Timed)
    (beside : ∀ alarm ∈ alarms, ∀ w, env w (alarm.ring w))
    (succeeds : Assures env (fun _ => True) Q (fun _ _ => False) x w) :
    ∃ a w', x.run.run alarms w = (some (.ok a), w') ∧ Q a w' := by
  obtain ⟨r, ends⟩ := timed.run_ends alarms w
  have led := Task.leads_of_run refl trans beside ends
  have final := succeeds (some r) _ led
  rcases r with e | a
  · exact final.elim
  · exact ⟨a, _, Prod.ext ends rfl, final⟩

/-! ### Changes in either order -/

namespace Simulated

lemma insertPort_comm (a b : UInt16) (ports : List UInt16) :
    insertPort a (insertPort b ports) = insertPort b (insertPort a ports) := by
  induction ports with
  | nil =>
    simp only [insertPort]
    grind
  | cons p rest ih =>
    simp only [insertPort]
    grind [insertPort]

end Simulated

namespace Cluster

variable {c : Cluster Process} {lead : Node Process} {q : Place} {m : Layout}
  {workers workers' : List (String × UInt16)} {s : Simulated}

lemma joinedFiles_comm {n n' : String × UInt16} (apart : n.1 ≠ n'.1) :
    c.joinedFiles lead q (c.joinedFiles lead q m n) n' =
      c.joinedFiles lead q (c.joinedFiles lead q m n') n := by
  have side {a b : String} (ne : a ≠ b) : ¬ q ++ [Utf8.encode a] <+: q ++ [Utf8.encode b] := by
    rw [List.prefix_append_right_inj]
    exact fun same => ne (Utf8.encode_injective (by simpa using same))
  exact Layout.graft_comm (side apart) (side apart.symm)

/-- **The files** do not tell in which order workers of different names have joined. -/
lemma joinedFiles_perm (perm : workers.Perm workers') (names : (workers.map Prod.fst).Nodup) :
    workers.foldl (c.joinedFiles lead q) m = workers'.foldl (c.joinedFiles lead q) m := by
  refine perm.foldl_eq' (fun n hn n' hn' m => ?_) m
  by_cases same : n = n'
  · rw [same]
  · exact joinedFiles_comm fun name => same (List.inj_on_of_nodup_map names hn hn' name)

lemma running_joined {config : Config} {lead : String × UInt16} :
    (workers.foldl (fun s n => config.joined lead n s) s).running =
      workers.foldl (fun ports n => Simulated.insertPort n.2 ports) s.running := by
  induction workers generalizing s with
  | nil => rfl
  | cons n rest ih =>
    rw [List.foldl_cons, ih]
    rfl

/-- **The ports** do not tell it either. -/
lemma running_perm {config : Config} {lead : String × UInt16} (perm : workers.Perm workers') :
    (workers.foldl (fun s n => config.joined lead n s) s).running =
      (workers'.foldl (fun s n => config.joined lead n s) s).running := by
  rw [running_joined, running_joined]
  exact perm.foldl_eq' (fun _ _ _ _ _ => Simulated.insertPort_comm ..) _

lemma statements_perm {config : Config} {lead : String × UInt16} {port : UInt16}
    (perm : workers.Perm workers') (other : lead.2 ≠ port) :
    (workers.foldl (fun s n => config.joined lead n s) s).statements.filter (·.port == port) =
      (workers'.foldl (fun s n => config.joined lead n s) s).statements.filter
        (·.port == port) := by
  have count : (workers.filter (·.2 == port)).length = (workers'.filter (·.2 == port)).length :=
    (perm.filter _).length_eq
  simp only [CommandLine.Plan.statements_joined, List.filter_append,
    CommandLine.Plan.filter_joining other, List.map_const', count]

lemma statementsOn_joined {config : Config} {lead : String × UInt16}
    (others : ∀ n ∈ workers, n.2 ≠ lead.2) :
    (workers.foldl (fun s n => config.joined lead n s) s).statementsOn lead.2 =
      s.statementsOn lead.2 ++ workers.map fun n => Sql.addNode (.reaching config.dbname n.2) := by
  show toldOn lead.2 _ = toldOn lead.2 _ ++ _
  rw [CommandLine.Plan.statements_joined, Simulated.toldOn_append,
    CommandLine.Plan.toldOn_registered others]

end Cluster

/-! ### Clearing the place -/

section Clearing

variable {W : Type} {state : Part W Simulated} {files : Part W FileSystem} {w w₁ : W}

/-- **Only servers have gone.** -/
structure Simulated.OnlyStops (s s' : Simulated) : Prop where
  failing : s'.failing = s.failing
  crashing : s'.crashing = s.crashing
  stalling : s'.stalling = s.stalling
  statements : s'.statements = s.statements

lemma Simulated.OnlyStops.refl {s : Simulated} : s.OnlyStops s := ⟨rfl, rfl, rfl, rfl⟩

lemma Simulated.onlyStops_shutDown {s : Simulated} {port : UInt16} :
    s.OnlyStops (s.shutDown port).2 := by
  unfold shutDown
  split
  · exact ⟨rfl, rfl, rfl, rfl⟩
  · exact ⟨rfl, rfl, rfl, rfl⟩

lemma Simulated.OnlyStops.calm {s s' : Simulated} (h : s.OnlyStops s') (calm : s.Faultless) :
    s'.Faultless :=
  ⟨h.failing.trans calm.failing, h.crashing.trans calm.crashing, h.stalling.trans calm.stalling⟩

lemma Simulated.ensures_perform_state (apart : Apart state files) {α : Type}
    {action : FileAction α} {Q : Simulated → Prop} (h : Q (state.get w)) :
    Ensures (Aside state files) (fun _ => True) (fun _ w' => Q (state.get w'))
      (Storage.perform files action) w := by
  unfold Storage.perform
  simp only [Task.ensures_bind, Task.ensures_atomic, Task.ensures_yield, Task.ensures_pure,
    true_and]
  intro w' aside
  have kept : state.get w' = state.get (files.put _ w) := (Prod.mk.inj aside).1
  rw [kept, apart.state_of_files]
  exact h

lemma Node.stop_onlyStops (apart : Apart state files) {n : Node Process} :
    Assures (Beside (Aside state files)) (fun _ => True)
      (fun _ p => (state.get w).OnlyStops (state.get p.2))
      (fun _ p => (state.get w).OnlyStops (state.get p.2))
      (Node.stop (host state files)) (n, w) := by
  unfold Node.stop
  simp only [Task.assures_bind, Node.assures_current, Task.assures_ite, Task.assures_pure]
  split
  · exact .refl
  split
  · rename_i process _
    rw [Task.assures_bind, Node.assures_attempt]
    show Ensures _ _ _ (Simulated.step state (Simulated.shutDown process.port)) w
    refine Task.ensures_atomic.2 ?_
    have shut : (state.get w).OnlyStops
        (state.get (state.put ((state.get w).shutDown process.port).2 w)) := by
      rw [apart.get_state]
      exact Simulated.onlyStops_shutDown
    rcases ((state.get w).shutDown process.port).1 with e | _
    · exact shut
    · exact Node.assures_change.2 shut
  · exact Node.assures_change.2 (Simulated.OnlyStops.refl (s := state.get w))

lemma Node.cleanup_onlyStops (apart : Apart state files) {n : Node Process} :
    Assures (Beside (Aside state files)) (fun _ => True)
      (fun _ p => (state.get w).OnlyStops (state.get p.2))
      (fun _ p => (state.get w).OnlyStops (state.get p.2))
      (Node.cleanup (host state files)) (n, w) := by
  unfold Node.cleanup
  simp only [Task.assures_bind, Node.assures_current, Task.assures_ite, Task.assures_pure]
  split
  · exact .refl
  refine (Node.stop_onlyStops apart).mono (fun _ h => h) (fun _ p stopped => ?_) fun _ _ h => h
  split
  · rw [Node.assures_outside]
    show Ensures _ _ _ (Storage.perform files (FileSystem.removeTree n.identity.dataDirectory)) p.2
    refine (Simulated.ensures_perform_state apart stopped).mono (fun _ h => h) fun r w' kept => ?_
    split
    · exact Node.assures_change.2 kept
    · exact Node.assures_change.2 kept
    · exact Task.assures_bind.2 (Task.assures_throw.2 kept)
  · exact Node.assures_change.2 stopped

lemma Cluster.releaseOnboarding_onlyStops (apart : Apart state files) {c : Cluster Process} :
    Assures (Beside (Aside state files)) (fun _ => True)
      (fun _ p => (state.get w).OnlyStops (state.get p.2)) (fun _ _ => False)
      (Cluster.releaseOnboarding (host state files)) (c, w) := by
  rcases there : c.onboarding with _ | old
  · exact (assures_releaseOnboarding_vacant there).2 .refl
  · exact assures_releaseOnboarding there (Node.cleanup_onlyStops apart)

end Clearing

/-! ### Two runs -/

namespace Cluster

/-- adds workers one after another -/
def addWorkers {P W : Type} (host : Host P W) (workers : List (String × UInt16)) :
    ClusterAction P W Unit :=
  workers.forM fun n => do let _ ← addWorker host n.1 n.2

/-- **Workers to join** a cluster: it is sized for them, their names and ports differ from each
other and from those of the coordinator, nothing listens on the ports, and the base directory has no
entry of their names. -/
structure CanTake (c : Cluster Process) (lead : Node Process) (s : Simulated) (fs : FileSystem)
    (workers : List (String × UInt16)) : Prop where
  sized : c.membership.workers.length + workers.length ≤ c.config.plannedWorkers
  plain : ∀ n ∈ workers, Path.IsName n.1
  names : (lead.name :: workers.map Prod.fst).Nodup
  ports : (lead.port :: workers.map Prod.snd).Nodup
  free : ∀ n ∈ workers, s.isFree n.2 = true
  vacant : ∃ place folder,
    fs.find c.config.baseDirectory .followed = .ok (place, .directory folder) ∧
    fs.lookup place = some (.directory folder) ∧
    ∀ n ∈ workers, folder.lookup (Utf8.encode n.1) = none

/-- **Workers that fit** into a cluster: no name and no path of a file is longer than names and
paths may be, and no node that the cluster holds has a name, a port or a directory in common with
them. -/
structure Fits (c : Cluster Process) (workers : List (String × UInt16)) : Prop where
  short : ∀ n ∈ workers, (Utf8.encode n.1).length ≤ FileSystem.nameLimit
  deep : ∀ n ∈ workers, FileSystem.admissible
    (((c.config.baseDirectory.child n.1).child "data").child "postgresql.conf") = .ok ()
  unlike : ∀ m ∈ c.allocated, ∀ n ∈ workers, ¬ m.identity.Shares (c.config.identity n)

/-- **A cluster with more workers**, which has registered them with its coordinator one after
another. -/
structure Extended (c : Cluster Process) (lead : Node Process) (s : Simulated)
    (workers : List (String × UInt16)) (c' : Cluster Process) (s' : Simulated) : Prop where
  membership : c'.membership =
    { c.membership with workers := c.membership.workers ++ workers.map c.config.identity }
  nodes : c'.workers = c.workers ++ workers.map c.config.serving
  registered : s'.statementsOn lead.port = s.statementsOn lead.port ++
    workers.map fun n => Sql.addNode (.reaching c.config.dbname n.2)

/-- **Two ends alike**: servers run on the same ports and have been given the same statements, but
for that of the coordinator, the files are the same, and so are the nodes that a cluster could not
release. -/
structure Alike (lead : Node Process) (c₁ c₂ : Cluster Process) (s₁ s₂ : Simulated)
    (fs₁ fs₂ : FileSystem) : Prop where
  running : s₁.running = s₂.running
  files : fs₁.layout = fs₂.layout
  onServers : ∀ port, lead.port ≠ port →
    s₁.statements.filter (·.port == port) = s₂.statements.filter (·.port == port)
  coordinator : c₁.coordinator = c₂.coordinator
  halfWay : c₁.onboarding = c₂.onboarding
  stranded : c₁.stranded = c₂.stranded

variable {c : Cluster Process} {lead : Node Process} {s : Simulated} {fs : FileSystem}
  {workers workers' : List (String × UInt16)}

lemma CanTake.perm (h : c.CanTake lead s fs workers) (perm : workers.Perm workers') :
    c.CanTake lead s fs workers' := by
  have member {n : String × UInt16} (hn : n ∈ workers') : n ∈ workers := perm.mem_iff.2 hn
  obtain ⟨place, folder, found, there, vacant⟩ := h.vacant
  refine ⟨perm.length_eq ▸ h.sized, fun n hn => h.plain n (member hn),
    ((perm.map _).cons _).nodup_iff.1 h.names, ((perm.map _).cons _).nodup_iff.1 h.ports,
    fun n hn => h.free n (member hn), place, folder, found, there,
    fun n hn => vacant n (member hn)⟩

lemma Fits.perm (h : c.Fits workers) (perm : workers.Perm workers') : c.Fits workers' := by
  have member {n : String × UInt16} (hn : n ∈ workers') : n ∈ workers := perm.mem_iff.2 hn
  exact ⟨fun n hn => h.short n (member hn), fun n hn => h.deep n (member hn),
    fun m hm n hn => h.unlike m hm n (member hn)⟩

lemma CanTake.distinct (h : c.CanTake lead s fs workers) :
    workers.Pairwise fun m n =>
      (m.1 ≠ n.1 ∧ m.2 ≠ n.2) ∧ ¬ (c.config.identity m).Shares (c.config.identity n) := by
  have names := List.pairwise_map.1 h.names.of_cons
  have ports := List.pairwise_map.1 h.ports.of_cons
  refine (names.and ports).imp_of_mem ?_
  intro m n hm hn apart
  exact ⟨apart, Identity.not_shares_under (h.plain m hm) (h.plain n hn) apart.1 apart.2⟩

lemma CanTake.awaits (h : c.CanTake lead s fs workers) (fits : c.Fits workers)
    (calm : s.Faultless) : ∃ q, s.Awaits c.config.baseDirectory q workers fs := by
  obtain ⟨q, folder, found, there, vacant⟩ := h.vacant
  refine ⟨q, calm, fun n hn => ?_, h.free⟩
  exact FileSystem.room_of_vacant found there (h.plain n hn) (fits.short n hn) (vacant n hn)
    (fits.deep n hn)

section Runs

variable {W : Type} {state : Part W Simulated} {files : Part W FileSystem} {w w₁ : W}
  {c₁ : Cluster Process} {q : Place}

/-- **All workers are added**, one after another, to a cluster where none is half-way in. -/
theorem addWorkers_run (apart : Apart state files) (boot : c.Bootstrapped lead)
    (vacant : c.onboarding = none) (listening : lead.port ∈ (state.get w).running)
    (joins : c.CanTake lead (state.get w) (files.get w) workers) (fits : c.Fits workers)
    (awaits : (state.get w).Awaits c.config.baseDirectory q workers (files.get w)) :
    ∃ w', (addWorkers (host state files) workers).run.run [] (c, w) =
        (some (.ok ()), c.joinedBy workers, w') ∧
      state.get w' =
        workers.foldl (fun s n => c.config.joined (lead.name, lead.port) n s) (state.get w) ∧
      (files.get w').layout = workers.foldl (c.joinedFiles lead q) (files.get w).layout := by
  have timed : (addWorkers (host state files) workers).run.Timed :=
    Task.timed_run_forM fun n _ => Task.timed_run_bind
      (timed_addWorker Simulated.timed_host) fun _ => Task.timed_run_pure
  have succeeds := addWorkers_succeed apart boot vacant joins.sized fits.unlike joins.distinct
    awaits listening rfl
  obtain ⟨⟨⟩, ⟨_, w'⟩, ran, rfl, fs', ⟨-, placed⟩, -, shown⟩ := Task.run_of_assures
    (fun _ => ⟨rfl, rfl⟩) (fun h h' => ⟨h'.1.trans h.1, h'.2.trans h.2⟩) timed
    (fun alarm (ha : alarm ∈ []) => nomatch ha) succeeds
  obtain ⟨engine, rfl⟩ := Prod.mk.inj shown
  exact ⟨w', ran, engine, placed⟩

/-- **The first worker to be added clears the place**, and all goes on from there. -/
lemma addWorkers_run_cleared {host : Host Process W} (timed : host.Timed) {recorded : Identity}
    (admits : c.Admits recorded) (some_come : workers ≠ [])
    (cleared : (releaseOnboarding host).run.run [] (c, w) = (some (.ok ()), c₁, w₁)) :
    (addWorkers host workers).run.run [] (c, w) =
      (addWorkers host workers).run.run [] (c₁, w₁) := by
  obtain ⟨n, rest, rfl⟩ := List.exists_cons_of_ne_nil some_come
  have quiet : Quiet (Beside (X := Cluster Process) fun w w' : W => w' = w) := quiet_eq.beside
  have first : (addWorker host n.1 n.2).run.run [] (c, w) =
      (addWorker host n.1 n.2).run.run [] (c₁, w₁) := by
    obtain ⟨r, ends⟩ := (timed_addWorker timed).run_ends [] (c, w)
    obtain ⟨none, -⟩ | ⟨p, released, added⟩ :=
      (leads_addWorker admits).1 (Task.leads_of_quiet_run quiet ends)
    · cases none
    · have there := released.quiet_run quiet
      rw [cleared] at there
      obtain rfl := (Prod.mk.inj there).2
      rw [added.quiet_run quiet]
      exact Prod.ext ends rfl
  exact Task.run_bind_congr (Task.run_bind_congr first)

/-- The members of a cluster that its workers have joined once the place for them was cleared. -/
lemma extended_joinedBy {s₁ : Simulated} (same : c.SameMembers c₁) (stops : s.OnlyStops s₁)
    (others : ∀ n ∈ workers, n.2 ≠ lead.port) :
    c.Extended lead s workers (c₁.joinedBy workers)
      (workers.foldl (fun s n => c₁.config.joined (lead.name, lead.port) n s) s₁) := by
  refine ⟨?_, ?_, ?_⟩
  · rw [joinedBy, same.membership, same.config]
  · rw [joinedBy, same.workers, same.config]
  · rw [statementsOn_joined others, same.config]
    unfold Simulated.statementsOn
    rw [stops.statements]

/-- **The order of joining is immaterial.** Workers that may join a bootstrapped cluster and that
fit into it are all added in whatever order they come, where the worker that is half-way in, if
there is one, is released first. Only the list of the members and the registrations with the
coordinator tell in the end which of the orders it was. -/
theorem order_immaterial (apart : Apart state files) (boot : c.Bootstrapped lead)
    (calm : (state.get w).Faultless)
    (cleared : (releaseOnboarding (host state files)).run.run [] (c, w) = (some (.ok ()), c₁, w₁))
    (listening : lead.port ∈ (state.get w₁).running)
    (joins : c₁.CanTake lead (state.get w₁) (files.get w₁) workers) (fits : c₁.Fits workers)
    (perm : workers.Perm workers') :
    ∃ c' c'' w' w'',
      (addWorkers (host state files) workers).run.run [] (c, w) = (some (.ok ()), c', w') ∧
      (addWorkers (host state files) workers').run.run [] (c, w) = (some (.ok ()), c'', w'') ∧
      c.Extended lead (state.get w) workers c' (state.get w') ∧
      c.Extended lead (state.get w) workers' c'' (state.get w'') ∧
      Alike lead c' c'' (state.get w') (state.get w'') (files.get w') (files.get w'') := by
  -- nothing is done where nobody joins
  rcases eq_or_ne workers [] with rfl | some_come
  · obtain rfl := List.nil_perm.1 perm
    refine ⟨c, c, w, w, rfl, rfl, ?_, ?_, rfl, rfl, fun _ _ => rfl, rfl, rfl, rfl⟩
    · exact ⟨by simp, by simp, by simp⟩
    · exact ⟨by simp, by simp, by simp⟩
  have some_come' : workers' ≠ [] := fun none => some_come (by simpa [none] using perm)
  have settled : Leads (Beside (Aside state files)) (releaseOnboarding (host state files)).run
      (c, w) (some (.ok ())) (c₁, w₁) := by
    have led : Leads (Beside (Aside state files)) (releaseOnboarding (host state files)).run
        (c, w) (some (.ok ())) ((releaseOnboarding (host state files)).run.run [] (c, w)).2 :=
      Task.leads_of_run (fun _ => ⟨rfl, rfl⟩) (fun h h' => ⟨h'.1.trans h.1, h'.2.trans h.2⟩)
        (fun alarm (ha : alarm ∈ []) => nomatch ha) (congrArg Prod.fst cleared)
    rwa [cleared] at led
  obtain ⟨same, vacant⟩ := releaseOnboarding_keeps _ _ settled
  have stops := releaseOnboarding_onlyStops apart _ _ settled
  have boot₁ : c₁.Bootstrapped lead :=
    ⟨(congrArg _ same.membership).trans boot.recorded, same.coordinator.trans boot.there,
      boot.phase⟩
  have admits : c.Admits lead.identity := by
    refine ⟨boot.recorded, ?_⟩
    have sized := joins.sized
    have some_new := List.length_pos_iff.2 some_come
    rw [same.membership, same.config] at sized
    omega
  have others : ∀ n ∈ workers, n.2 ≠ lead.port := fun n hn port =>
    (List.nodup_cons.1 joins.ports).1 (List.mem_map.2 ⟨n, hn, port⟩)
  -- both runs go on from the cleared place
  obtain ⟨q, awaits⟩ := joins.awaits fits (stops.calm calm)
  have awaits' : (state.get w₁).Awaits c₁.config.baseDirectory q workers' (files.get w₁) :=
    ⟨awaits.calm, fun n hn => awaits.room n (perm.mem_iff.2 hn),
      fun n hn => awaits.free n (perm.mem_iff.2 hn)⟩
  obtain ⟨w', ran, engine, left⟩ := addWorkers_run apart boot₁ vacant listening joins fits awaits
  obtain ⟨w'', ran', engine', left'⟩ := addWorkers_run apart boot₁ vacant listening
    (joins.perm perm) (fits.perm perm) awaits'
  rw [← addWorkers_run_cleared Simulated.timed_host admits some_come cleared] at ran
  rw [← addWorkers_run_cleared Simulated.timed_host admits some_come' cleared] at ran'
  refine ⟨_, _, w', w'', ran, ran', ?_, ?_, ?_, ?_, fun port other => ?_, rfl, rfl, rfl⟩
  · rw [engine]
    exact extended_joinedBy same stops others
  · rw [engine']
    exact extended_joinedBy same stops fun n hn => others n (perm.mem_iff.2 hn)
  · rw [engine, engine']
    exact running_perm perm
  · rw [left, left']
    exact joinedFiles_perm perm joins.names.of_cons
  · rw [engine, engine']
    exact statements_perm perm other

end Runs

/-! ### Runs of the program -/

/-- a cluster with the default settings and a coordinator -/
def led : Cluster Process :=
  formed (.ofEnvironment ⟨[]⟩) ofDefaults.template ("Lord", 5432) []

/-- its coordinator -/
def lord : Node Process := led.config.serving ("Lord", 5432)

/-- such a cluster where adding a worker was given up before the worker was registered -/
def halfJoined : Cluster Process := led.withNewcomer (led.config.serving ("W1", 5433))

/-- the program's world on a machine with these nodes in the default base directory -/
def hosting (nodes : List (String × UInt16)) : Terminal where
  machine := { Machine.booted [] [] with
    files := ⟨[(Utf8.encode "tmp", .directory [(Utf8.encode "shardlord", .directory
      (nodes.map fun n =>
        (Utf8.encode n.1, .directory [(Utf8.encode "data", .directory [])])))])], []⟩ }
  simulated := { running := nodes.map Prod.snd }

/-- the program's host -/
abbrev terminalHost : Host Process Terminal :=
  host Terminal.simulatedPart (Terminal.machinePart.comp Machine.filesPart)

lemma halfJoined_cleared :
    (releaseOnboarding terminalHost).run.run []
        (halfJoined, hosting [("Lord", 5432), ("W1", 5433)]) =
      (some (.ok ()), led, hosting [("Lord", 5432)]) := by
  cbv

/-- With the default settings, up to three workers may join a coordinator on its own. -/
lemma canTake_lord {c : Cluster Process} {workers : List (String × UInt16)}
    (config : c.config = .ofEnvironment ⟨[]⟩)
    (few : c.membership.workers.length + workers.length ≤ 3)
    (plain : ∀ n ∈ workers, Path.IsName n.1) (names : ("Lord" :: workers.map Prod.fst).Nodup)
    (ports : (5432 :: workers.map Prod.snd).Nodup) :
    c.CanTake lord (hosting [("Lord", 5432)]).simulated (hosting [("Lord", 5432)]).machine.files
      workers := by
  have planned : c.config.plannedWorkers = 3 := by
    rw [config]
    decide +kernel
  refine ⟨by omega, plain, names, ports, fun n hn => ?_,
    [Utf8.encode "tmp", Utf8.encode "shardlord"],
    [(Utf8.encode "Lord", .directory [(Utf8.encode "data", .directory [])])], ?_, rfl,
    fun n hn => ?_⟩
  · have other : n.2 ≠ 5432 := fun same =>
      (List.nodup_cons.1 ports).1 (List.mem_map.2 ⟨n, hn, same⟩)
    simp [Simulated.isFree, hosting, other]
  · rw [config]
    rfl
  · have other : n.1 ≠ "Lord" := fun same =>
      (List.nodup_cons.1 names).1 (List.mem_map.2 ⟨n, hn, same⟩)
    have unlike : (Utf8.encode n.1 == Utf8.encode "Lord") = false :=
      beq_eq_false_iff_ne.2 fun same => other (Utf8.encode_injective same)
    rw [List.lookup_cons, unlike]
    rfl

/-- Two workers join in either order while one of them is half-way in. -/
theorem pair_in_either_order : ∃ c' c'' t' t'',
    (addWorkers terminalHost [("W1", 5433), ("W2", 5434)]).run.run []
      (halfJoined, hosting [("Lord", 5432), ("W1", 5433)]) = (some (.ok ()), c', t') ∧
    (addWorkers terminalHost [("W2", 5434), ("W1", 5433)]).run.run []
      (halfJoined, hosting [("Lord", 5432), ("W1", 5433)]) = (some (.ok ()), c'', t'') ∧
    halfJoined.Extended lord (hosting [("Lord", 5432), ("W1", 5433)]).simulated
      [("W1", 5433), ("W2", 5434)] c' t'.simulated ∧
    halfJoined.Extended lord (hosting [("Lord", 5432), ("W1", 5433)]).simulated
      [("W2", 5434), ("W1", 5433)] c'' t''.simulated ∧
    Alike lord c' c'' t'.simulated t''.simulated t'.machine.files t''.machine.files := by
  have joins : led.CanTake lord (hosting [("Lord", 5432)]).simulated
      (hosting [("Lord", 5432)]).machine.files [("W1", 5433), ("W2", 5434)] :=
    canTake_lord rfl (by decide) (by decide +kernel) (by decide +kernel) (by decide)
  have fits : led.Fits [("W1", 5433), ("W2", 5434)] := by
    refine ⟨by decide +kernel, by decide +kernel, fun m hm n hn => ?_⟩
    obtain rfl : m = lord := List.mem_singleton.1 hm
    refine Identity.conflictsWith_eq_false.1 ?_
    revert n
    decide +kernel
  exact order_immaterial CommandLine.Plan.apart_terminal ⟨rfl, rfl, rfl⟩ ⟨rfl, rfl, rfl⟩
    halfJoined_cleared (by decide) joins fits (.swap _ _ _)

/-- Whether a worker that may join the cluster, for all that is on the machine, is turned away. -/
def TurnsAway (c : Cluster Process) (n : String × UInt16) : Prop :=
  c.Bootstrapped lord ∧ (hosting [("Lord", 5432)]).simulated.Faultless ∧
    c.CanTake lord (hosting [("Lord", 5432)]).simulated
      (hosting [("Lord", 5432)]).machine.files [n] ∧
    ((addWorkers terminalHost [n]).run.run [] (c, hosting [("Lord", 5432)])).1.map Except.toBool =
      some false

/-- **A name may be too long, or taken.** A cluster turns a worker away for a name of 256 letters,
and for the name of a member that has lost its directory and its server. -/
theorem turned_away : led.TurnsAway (String.ofList (List.replicate 256 'W'), 5433) ∧
    (led.joinedBy [("W1", 5433)]).TurnsAway ("W1", 5434) := by
  refine ⟨⟨⟨rfl, rfl, rfl⟩, ⟨rfl, rfl, rfl⟩, ?_, by decide +kernel⟩,
    ⟨rfl, rfl, rfl⟩, ⟨rfl, rfl, rfl⟩, ?_, by decide +kernel⟩
  · exact canTake_lord rfl (by decide) (by decide +kernel) (by decide +kernel) (by decide)
  · exact canTake_lord rfl (by decide) (by decide +kernel) (by decide +kernel) (by decide)

end Cluster

end ShardCluster
