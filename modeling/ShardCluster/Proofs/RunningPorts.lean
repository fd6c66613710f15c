import ShardCluster.Proofs.FileHosts
import ShardCluster.Proofs.Fleets

/-!
# Running ports

A fleet on the simulated engine: who holds a server and which ports count as listening are kept
apart, and handles may compete for a port. `Floor.Tally` relates the two from where one handle
stands: the ports are its own and those of the others. The host serves every node with that
(`Floor.serves_tally`), so a step of a handle keeps it, and `Fleet.running_ports` follows for every
run of the fleet: the ports that count as listening are those of the running nodes, without any port
twice.
-/

namespace ShardCluster

open ShardCluster.Task (Obeys Leaves)

variable {W X Y α β ε : Type}

/-! ### Tasks that leave something alone -/

namespace Task

section Leaving

variable {env : X × W → X × W → Prop} {J : X × W → Prop}

lemma leaves_pure {a : α} : Leaves env J (pure a) := fun _ h => h

lemma leaves_bind {t : Task W α} {f : α → Task W β} (ht : Leaves env J t)
    (hf : ∀ a, Leaves env J (f a)) : Leaves env J (t >>= f) :=
  fun p hp => obeys_bind.2 ((ht p hp).mono (fun _ h => h) fun a p hp => hf a p hp)

lemma leaves_read {f : W → α} : Leaves env J (read f) :=
  fun _ hp => (obeys_read fun _ => trivial).2 hp

lemma leaves_update {f : W → W} (keeps : ∀ x w, J (x, w) → J (x, f w)) :
    Leaves env J (update f) := fun p hp => ⟨trivial, keeps p.1 p.2 hp⟩

lemma leaves_atomic {f : W → α × W} (keeps : ∀ x w, J (x, w) → J (x, (f w).2)) :
    Leaves env J (atomic f) :=
  fun p hp => (obeys_atomic fun _ => trivial).2 ⟨trivial, keeps p.1 p.2 hp⟩

lemma leaves_run_pure {a : α} : Leaves env J (pure a : ExceptT ε (Task W) α).run := fun _ h => h

lemma leaves_run_throw {e : ε} : Leaves env J (throw e : ExceptT ε (Task W) α).run := fun _ h => h

lemma leaves_run_bind {x : ExceptT ε (Task W) α} {f : α → ExceptT ε (Task W) β}
    (hx : Leaves env J x.run) (hf : ∀ a, Leaves env J (f a).run) :
    Leaves env J (x >>= f).run := by
  rw [ExceptT.run_bind]
  refine leaves_bind hx fun r => ?_
  cases r with
  | error e => exact leaves_pure
  | ok a => exact hf a

lemma Leaves.follows {x : ExceptT ε (Task W) α} {p : X × W} (h : Leaves env J x.run) (hp : J p) :
    Follows env (fun _ _ => True) J (fun _ => J) (fun _ => J) x p := by
  refine Obeys.mono (h p hp) (fun _ h => h) ?_
  rintro (e | a) p hp <;> exact hp

variable (stable : ∀ p p', J p → env p p' → J p')
include stable

lemma leaves_yield : Leaves env J (yield : Task W Unit) :=
  fun _ hp => ⟨hp, fun _ he _ => stable _ _ hp he⟩

lemma leaves_sleep {nanos : Nat} : Leaves env J (sleep nanos : Task W Unit) := by
  unfold sleep
  split
  · exact leaves_pure
  · exact fun _ hp => ⟨hp, fun _ he _ => stable _ _ hp he⟩

end Leaving

end Task

namespace Scenario.Floor

/-! ### What leaves the ports alone -/

/-- **Nothing has moved** on the floor: the same ports are taken, no server is about to refuse its
stop that was not before, and no fault has come up. -/
structure Unmoved (f f' : Floor) : Prop where
  running : f'.engine.running = f.engine.running
  occupied : f'.engine.occupied = f.engine.occupied
  refusingStop : f'.engine.refusingStop = f.engine.refusingStop
  faults : ∀ fault ∈ f'.interference.faults, fault ∈ f.interference.faults

lemma unmoved_files {f : Floor} {fs : FileSystem} : f.Unmoved { f with files := fs } :=
  ⟨rfl, rfl, rfl, fun _ h => h⟩

lemma unmoved_runStatement {f : Floor} {port : UInt16} {database statement : String} : f.Unmoved
    { f with engine := (Simulated.runStatement port database statement f.engine).2 } := by
  unfold Simulated.runStatement
  split
  · exact ⟨rfl, rfl, rfl, fun _ h => h⟩
  · exact ⟨rfl, rfl, rfl, fun _ h => h⟩

lemma unmoved_takeFault {f : Floor} {call : EngineCall} {site : String} : f.Unmoved
    { f with interference := (f.interference.takeFault call site).2 } := by
  refine ⟨rfl, rfl, rfl, fun fault there => ?_⟩
  unfold Interference.takeFault at there
  split at there
  · exact List.mem_of_mem_eraseP there
  · exact there

lemma fault_of_takeFault {i : Interference} {call : EngineCall} {site : String}
    (found : (i.takeFault call site).1.isSome) : ∃ fault ∈ i.faults, fault.call = call := by
  unfold Interference.takeFault at found
  split at found
  · rename_i fault there
    have applies := List.find?_some there
    simp only [Interference.Fault.applies, Bool.and_eq_true, decide_eq_true_eq] at applies
    exact ⟨fault, List.mem_of_find?_eq_some there, applies.1⟩
  · cases found

section Ports

variable {env : X × Floor → X × Floor → Prop} {J : X × Floor → Prop}
  (stable : ∀ p p', J p → env p p' → J p')
  (same : ∀ x f f', f.Unmoved f' → J (x, f) → J (x, f'))
include stable same

lemma leaves_perform (action : FileAction α) :
    Leaves env J (Storage.perform filesPart action) :=
  Task.leaves_bind (Task.leaves_atomic fun x f => same x f _ unmoved_files) fun _ =>
    Task.leaves_bind (Task.leaves_yield stable) fun _ => Task.leaves_pure

omit same in
lemma leaves_ask (question : FileSystem → Except IoError α) :
    Leaves env J (Storage.ask filesPart question) :=
  Task.leaves_bind Task.leaves_read fun _ =>
    Task.leaves_bind (Task.leaves_yield stable) fun _ => Task.leaves_pure

lemma leaves_append (path : Path) (content : Bytes) :
    Leaves env J (storage.append path content) := by
  refine Task.leaves_bind (leaves_perform stable same _) fun r => ?_
  cases r with
  | error e => exact Task.leaves_pure
  | ok place =>
    exact Task.leaves_bind (Task.leaves_update fun x f => same x f _ unmoved_files) fun _ =>
      Task.leaves_bind (Task.leaves_yield stable) fun _ => Task.leaves_pure

omit stable same in
lemma leaves_stored {t : Task Floor (Except IoError α)} (h : Leaves env J t) :
    Leaves env J (Simulated.stored t).run := by
  refine Task.leaves_run_bind ?_ fun r => ?_
  · exact Task.leaves_bind h fun _ => Task.leaves_pure
  · cases r with
    | error e => exact Task.leaves_run_throw
    | ok a => exact Task.leaves_run_pure

lemma leaves_populate (directory : Path) :
    Leaves env J (Simulated.populate storage directory).run := by
  have write (path : Path) (content : Bytes) :
      Leaves env J (Simulated.stored (storage.writeFile path content)).run :=
    leaves_stored (leaves_perform stable same (FileSystem.writeFile path content))
  unfold Simulated.populate
  refine Task.leaves_run_bind (leaves_stored (leaves_ask stable (·.pathExists _))) fun found => ?_
  split
  · exact fun _ hp => hp
  refine Task.leaves_run_bind ?_ fun _ => ?_
  · exact leaves_stored (leaves_perform stable same (FileSystem.createDirectories directory))
  · exact Task.leaves_run_bind (write _ _) fun _ => write _ _

omit stable same in
lemma obeys_step {I : X × Floor → Prop} {Q : α → X × Floor → Prop} {x : X} {f : Floor}
    {g : Simulated → α × Simulated} :
    Obeys env (fun _ _ => True) I Q (Simulated.step enginePart g) (x, f) ↔
      Q (g f.engine).1 (x, { f with engine := (g f.engine).2 }) :=
  (Task.obeys_atomic fun _ => trivial).trans (and_iff_right trivial)

omit stable in
lemma leaves_runStatement (port : UInt16) (database statement : String) : Leaves env J
    (Simulated.step enginePart (Simulated.runStatement port database statement)) :=
  Task.leaves_atomic fun x f => same x f _ unmoved_runStatement

/-- A call under interference that leaves something alone is first held up, and may fail if there is
a fault for such a call. -/
lemma obeys_guarded {Q : Except EngineError α → X × Floor → Prop} {call : EngineCall}
    {site : String} {t : Task Floor (Except EngineError α)} {p : X × Floor} (hp : J p)
    (fails : ∀ e p, J p →
      (∃ p, J p ∧ ∃ fault ∈ p.2.interference.faults, fault.call = call) → Q (.error e) p)
    (goes : ∀ p, J p → Obeys env (fun _ _ => True) J Q t p) :
    Obeys env (fun _ _ => True) J Q (Interference.guarded interferencePart call site t) p := by
  unfold Interference.guarded
  rw [Task.obeys_bind]
  refine (Task.leaves_read p hp).mono (fun _ h => h) fun nanos p hp => ?_
  rw [Task.obeys_bind]
  refine (Task.leaves_sleep stable p hp).mono (fun _ h => h) fun _ p hp => ?_
  rw [Task.obeys_bind]
  obtain ⟨x, f⟩ := p
  refine Task.Obeys.mono (Q := fun fault p => J p ∧ (fault.isSome → ∃ p, J p ∧
    ∃ fault ∈ p.2.interference.faults, fault.call = call)) ?_ (fun _ h => h) ?_
  · refine (Task.obeys_atomic fun _ => trivial).2 ⟨trivial, same x f _ unmoved_takeFault hp, ?_⟩
    exact fun found => ⟨(x, f), hp, fault_of_takeFault found⟩
  · rintro (_ | e) p ⟨hp, source⟩
    · exact goes p hp
    · exact fails e p hp (source rfl)

lemma leaves_guarded {call : EngineCall} {site : String} {t : Task Floor (Except EngineError α)}
    (ht : Leaves env J t) : Leaves env J (Interference.guarded interferencePart call site t) :=
  fun _ hp => obeys_guarded stable same hp (fun _ _ h _ => h) ht

lemma leaves_execute (port : UInt16) (database statement : String) :
    Leaves env J (host.engine.execute port database statement) := by
  refine leaves_guarded stable same (Task.leaves_bind ?_ fun r => ?_)
  · exact leaves_runStatement same port database statement
  · cases r with
    | error e => exact Task.leaves_pure
    | ok text => exact Task.leaves_bind Task.leaves_read fun _ => Task.leaves_pure

lemma leaves_init (directory : Path) : Leaves env J (host.engine.init directory) :=
  leaves_guarded stable same (leaves_populate stable same directory)

/-- A start that gets its port puts a server there, and any other leaves the ports alone. -/
lemma obeys_start {started : Simulated.Process → X × Floor → Prop} {launch : Launch} {p : X × Floor}
    (launched : ∀ x f, J (x, f) → f.engine.isFree launch.port → started ⟨launch.port⟩
      (x, { f with engine :=
        { f.engine with running := Simulated.insertPort launch.port f.engine.running } }))
    (hp : J p) :
    Obeys env (fun _ _ => True) J (fun r => r.casesOn (fun _ => J) started)
      (host.engine.start launch) p := by
  have goes (p : X × Floor) (hp : J p) : Task.Follows env (fun _ _ => True) J started (fun _ => J)
      (Simulated.startServer enginePart storage launch) p := by
    unfold Simulated.startServer
    rw [Task.follows_bind]
    refine ((leaves_stored (leaves_ask stable (·.pathExists _))).follows hp).mono (fun _ h => h) ?_
      fun _ _ h => h
    intro populated p hp
    rw [Task.follows_ite]
    split
    · exact hp
    obtain ⟨x, f⟩ := p
    rw [Task.follows_bind, Task.follows_liftM]
    refine obeys_step.2 ?_
    rcases outcome : Simulated.launch launch.port f.engine with ⟨r, s⟩
    unfold Simulated.launch at outcome
    split_ifs at outcome with crashing taken stalling
    · cases outcome
      exact hp
    · cases outcome
      exact hp
    · cases outcome
      rw [Task.follows_bind, Task.follows_liftM]
      exact Task.leaves_sleep stable (x, f) hp
    · cases outcome
      exact launched x f hp (by simpa using taken)
  refine obeys_guarded stable same hp (fun _ _ h _ => h) fun p hp => ?_
  refine Obeys.mono (goes p hp) (fun _ h => h) ?_
  rintro (e | server) p hp <;> exact hp

end Ports

/-! ### The tally -/

/-- what a handle with that server has of the ports -/
def share : Option Simulated.Process → Multiset UInt16
  | none => 0
  | some process => {process.port}

/-- **The tally** of a handle: in ascending order, the ports are its share of them and the ports of
the others, and its server is on its port. -/
structure Tally (i : Identity) (process : Option Simulated.Process)
    (p : Multiset UInt16 × Floor) : Prop where
  ascending : p.2.engine.running.Pairwise (· < ·)
  total : (p.2.engine.running : Multiset UInt16) = share process + p.1
  port : ∀ server ∈ process, server.port = i.port

/-- What others do keeps the ports in order, and whatever they do not have. -/
def Others (p p' : Multiset UInt16 × Floor) : Prop :=
  p'.2.engine.running.Pairwise (· < ·) ∧
    ∀ own, (p.2.engine.running : Multiset UInt16) = own + p.1 →
      (p'.2.engine.running : Multiset UInt16) = own + p'.1

section Tallies

variable {i : Identity} {process : Option Simulated.Process} {p p' : Multiset UInt16 × Floor}
  {x : Multiset UInt16} {f f' : Floor}

lemma Tally.kept (h : Tally i process p) (others : Others p p') : Tally i process p' :=
  ⟨others.1, others.2 _ h.total, h.port⟩

lemma Tally.others (h : Tally i process p) (h' : Tally i process p') : Others p p' := by
  refine ⟨h'.ascending, fun own total => ?_⟩
  obtain rfl : share process = own := add_right_cancel (h.total.symm.trans total)
  exact h'.total

lemma Tally.same (same : f'.engine.running = f.engine.running) (h : Tally i process (x, f)) :
    Tally i process (x, f') where
  ascending := (congrArg (List.Pairwise _) same).mpr h.ascending
  total := (congrArg _ same).trans h.total
  port := h.port

end Tallies

end Scenario.Floor

/-! ### Ports in order -/

namespace Simulated

variable {port : UInt16} {ports : List UInt16}

lemma insertPort_perm (new : port ∉ ports) : (insertPort port ports).Perm (port :: ports) := by
  induction ports with
  | nil => rfl
  | cons p rest ih =>
    obtain ⟨other, new⟩ := not_or.1 (List.mem_cons.not.1 new)
    unfold insertPort
    split
    · rfl
    · exact ((ih new).cons p).trans (List.Perm.swap port p rest)

lemma insertPort_ascending (ascending : ports.Pairwise (· < ·)) (new : port ∉ ports) :
    (insertPort port ports).Pairwise (· < ·) := by
  induction ports with
  | nil => exact List.pairwise_singleton _ _
  | cons p rest ih =>
    obtain ⟨other, new⟩ := not_or.1 (List.mem_cons.not.1 new)
    obtain ⟨least, ascending'⟩ := List.pairwise_cons.1 ascending
    unfold insertPort
    split
    · rename_i below
      refine List.pairwise_cons.2 ⟨fun q hq => ?_, ascending⟩
      rcases List.mem_cons.1 hq with rfl | hq
      · exact below
      · exact UInt16.lt_trans below (least q hq)
    · rename_i not_below
      refine List.pairwise_cons.2 ⟨fun q hq => ?_, ih ascending' new⟩
      rcases List.mem_cons.1 ((insertPort_perm new).mem_iff.1 hq) with rfl | hq
      · exact UInt16.lt_of_le_of_ne (UInt16.not_lt.1 not_below) (Ne.symm other)
      · exact least q hq

lemma nodup_of_ascending (ascending : ports.Pairwise (· < ·)) : ports.Nodup :=
  ascending.imp UInt16.ne_of_lt

lemma coe_insertPort (new : port ∉ ports) :
    (insertPort port ports : Multiset UInt16) = port ::ₘ ↑ports :=
  Multiset.coe_eq_coe.2 (insertPort_perm new)

/-- Ports in order are left as they are, without the one that is taken out. -/
lemma coe_filter_ne (ascending : ports.Pairwise (· < ·)) :
    (ports.filter (· != port) : Multiset UInt16) = (ports : Multiset UInt16).erase port := by
  rw [← (nodup_of_ascending ascending).erase_eq_filter, ← Multiset.coe_erase]

lemma notMem_of_isFree {s : Simulated} (free : s.isFree port = true) : port ∉ s.running := by
  intro taken
  simp [isFree, taken] at free

end Simulated

namespace Scenario.Floor

section Serving

variable {i : Identity} {process : Option Simulated.Process} {server : Simulated.Process}
  {x : Multiset UInt16} {f : Floor}

lemma Tally.launched (h : Tally i none (x, f)) (free : f.engine.isFree i.port) :
    Tally i (some ⟨i.port⟩) (x, { f with engine :=
      { f.engine with running := Simulated.insertPort i.port f.engine.running } }) := by
  have new := Simulated.notMem_of_isFree free
  refine ⟨Simulated.insertPort_ascending h.ascending new, ?_, fun server hs => ?_⟩
  · show (↑(Simulated.insertPort i.port f.engine.running) : Multiset UInt16) = {i.port} + x
    rw [Simulated.coe_insertPort new, Multiset.singleton_add,
      show (f.engine.running : Multiset UInt16) = x by simpa [share] using h.total]
  · cases hs
    rfl

/-- Where a server is taken off its port, the others have all that is left. -/
lemma Tally.shut (h : Tally i (some server) (x, f)) :
    Tally i none (x, { f with engine :=
      { f.engine with running := f.engine.running.filter (· != server.port) } }) := by
  have total : (f.engine.running : Multiset UInt16) = server.port ::ₘ x := h.total
  refine ⟨h.ascending.filter _, ?_, nofun⟩
  show (↑(f.engine.running.filter (· != server.port)) : Multiset UInt16) = 0 + x
  rw [Simulated.coe_filter_ne h.ascending, total, Multiset.erase_cons_head, zero_add]

/-- **The simulated engine serves every node** with its tally. -/
theorem serves_tally (i : Identity) : host.Serves Others i (Tally i) (Tally i none) := by
  have stable (process : Option Simulated.Process) (p p' : Multiset UInt16 × Floor)
      (h : Tally i process p) (others : Others p p') : Tally i process p' := h.kept others
  have same (process : Option Simulated.Process) (x : Multiset UInt16) (f f' : Floor)
      (unmoved : f.Unmoved f') (h : Tally i process (x, f)) : Tally i process (x, f') :=
    h.same unmoved.running
  have removal (path : Path) : Leaves Others (Tally i none) (storage.removeTree path) :=
    leaves_perform (stable none) (same none) (FileSystem.removeTree path)
  constructor
  case start =>
    intro launch p at_port hp
    have goes : Obeys Others (fun _ _ => True) (Tally i none)
        (fun r => r.casesOn (fun _ => Tally i none) fun server => Tally i (some server))
        (host.engine.start launch) p := by
      refine obeys_start (stable none) (same none) (fun x f h free => ?_) hp
      rw [at_port] at free ⊢
      exact h.launched free
    refine goes.mono (fun _ h => h) ?_
    rintro (e | server) p hp <;> exact hp
  case stop =>
    intro server p hp
    refine obeys_guarded (stable _) (same _) hp (fun _ _ h _ => h) fun p hp => ?_
    obtain ⟨x, f⟩ := p
    show Obeys _ _ _ _ (Simulated.step enginePart (Simulated.shutDown server.port)) _
    refine obeys_step.2 ?_
    rcases outcome : Simulated.shutDown server.port f.engine with ⟨r, s⟩
    unfold Simulated.shutDown at outcome
    split_ifs at outcome
    · cases outcome
      exact hp.same (f := f) rfl
    · cases outcome
      exact hp.shut
  case execute =>
    exact fun server port database statement =>
      leaves_execute (stable _) (same _) port database statement
  case init => exact fun process d => leaves_init (stable process) (same process) d
  case portAvailable => exact fun _ _ => Task.leaves_read
  case pathExists => exact fun process path => leaves_ask (stable process) (·.pathExists path)
  case namesIn => exact fun process path => leaves_ask (stable process) (·.namesIn path)
  case createDirectories => exact fun process _ => leaves_perform (stable process) (same process) _
  case append => exact fun process _ _ => leaves_append (stable process) (same process) _ _
  case removeTree => exact removal
  case removeLast => exact removal

end Serving

end Scenario.Floor

/-! ### Fleets -/

open Scenario (Floor)

/-- Nobody but the handles starts or stops a server. -/
def Scenario.Floor.PortsKept (f f' : Floor) : Prop := f'.engine.running = f.engine.running

namespace Fleet

/-- the ports of the running nodes of a fleet -/
def runningPorts (hs : List (Handle Simulated.Process Floor)) : List UInt16 :=
  (hs.filter (·.node.phase = .running)).map (·.node.port)

/-- what the handles of a fleet have of the ports -/
def shares (hs : List (Handle Simulated.Process Floor)) : Multiset UInt16 :=
  (hs.map (Floor.share ·.node.process)).sum

/-- **A fleet in tune** with the floor: its handles are sound, and the ports that count as listening
are theirs. -/
structure InTune (hs : List (Handle Simulated.Process Floor)) (f : Floor) : Prop where
  sound : ∀ h ∈ hs, h.Sound Floor.Others Floor.Tally
  port : ∀ h ∈ hs, ∀ server ∈ h.node.process, server.port = h.node.port
  ascending : f.engine.running.Pairwise (· < ·)
  total : (f.engine.running : Multiset UInt16) = shares hs

variable {before after hs hs' : List (Handle Simulated.Process Floor)}
  {h : Handle Simulated.Process Floor} {f f₀ f' : Floor}

lemma shares_append : shares (before ++ h :: after) =
    Floor.share h.node.process + (shares before + shares after) := by
  simp only [shares, List.map_append, List.map_cons, List.sum_append, List.sum_cons]
  exact add_left_comm _ _ _

lemma InTune.tally (tune : InTune (before ++ h :: after) f) :
    Floor.Tally h.node.identity h.node.process (shares before + shares after, f) where
  ascending := tune.ascending
  total := tune.total.trans shares_append
  port := tune.port h (by simp)

/-- **What happens in a fleet** keeps it in tune. -/
theorem InTune.step (tune : InTune hs f)
    (step : Fleet.Step Floor.PortsKept Floor.host (hs, f) (hs', f')) : InTune hs' f' := by
  cases step with
  | joins identity timeout =>
    refine ⟨?_, ?_, tune.ascending, ?_⟩
    · exact List.forall_mem_append.2 ⟨tune.sound, List.forall_mem_singleton.2 Handle.sound_create⟩
    · exact List.forall_mem_append.2 ⟨tune.port, List.forall_mem_singleton.2 nofun⟩
    · have nothing : shares hs = shares (hs ++ [{ node := .create identity timeout }]) := by
        simp [shares, Node.create, Floor.share]
      exact tune.total.trans nothing
  | @acts before after h h' _ _ step =>
    have tally := tune.tally
    obtain ⟨sound, identity, tally'⟩ := step.sound Floor.serves_tally
      (fun _ _ _ _ => Floor.Tally.others) (tune.sound h (by simp)) tally
    obtain ⟨sound₁, -, sound₂⟩ := by
      simpa only [List.forall_mem_append, List.forall_mem_cons] using tune.sound
    obtain ⟨port₁, -, port₂⟩ := by
      simpa only [List.forall_mem_append, List.forall_mem_cons] using tune.port
    refine ⟨?_, ?_, tally'.ascending, tally'.total.trans shares_append.symm⟩
    · exact List.forall_mem_append.2 ⟨sound₁, List.forall_mem_cons.2 ⟨sound, sound₂⟩⟩
    · exact List.forall_mem_append.2 ⟨port₁, List.forall_mem_cons.2 ⟨tally'.port, port₂⟩⟩
  | meanwhile kept =>
    have same : f'.engine.running = f.engine.running := kept
    exact ⟨tune.sound, tune.port, same ▸ tune.ascending, same ▸ tune.total⟩

lemma shares_eq (sound : ∀ h ∈ hs, h.node.Sound)
    (port : ∀ h ∈ hs, ∀ server ∈ h.node.process, server.port = h.node.port) :
    shares hs = (runningPorts hs : Multiset UInt16) := by
  induction hs with
  | nil => rfl
  | cons h hs ih =>
    obtain ⟨sound, sound'⟩ := List.forall_mem_cons.1 sound
    obtain ⟨port, port'⟩ := List.forall_mem_cons.1 port
    have head : shares (h :: hs) = Floor.share h.node.process + shares hs := rfl
    rw [head, ih sound' port']
    rcases serving : h.node.process with _ | server
    · have idle : ¬ h.node.phase = .running := by simpa [serving] using sound.serving.not
      simp [runningPorts, idle, Floor.share]
    · have running : h.node.phase = .running := by simpa [serving] using sound.serving
      have at_port : server.port = h.node.port := port server serving
      simp [runningPorts, running, Floor.share, at_port]

/-- **Handles and engine agree**: whatever happens in a fleet on the simulated engine, the ports
that count as listening are those of the running nodes, in ascending order and without any twice. -/
theorem running_ports (idle : f₀.engine.running = [])
    (run : Relation.ReflTransGen (Fleet.Step Floor.PortsKept Floor.host) ([], f₀) (hs, f)) :
    f.engine.running = (runningPorts hs).mergeSort (· ≤ ·) ∧ (runningPorts hs).Nodup := by
  have tune : InTune hs f := by
    generalize reached : (hs, f) = s at run
    induction run generalizing hs f with
    | refl =>
      cases reached
      exact ⟨nofun, nofun, idle ▸ .nil, congrArg _ idle⟩
    | @tail s _ _ step ih =>
      cases reached
      exact (ih rfl).step step
  have same : f.engine.running.Perm (runningPorts hs) :=
    Multiset.coe_eq_coe.1 (tune.total.trans
      (shares_eq (fun h known => (tune.sound h known).sound) tune.port))
  refine ⟨?_, same.nodup (Simulated.nodup_of_ascending tune.ascending)⟩
  have ascending : f.engine.running.Pairwise (· ≤ ·) := tune.ascending.imp UInt16.le_of_lt
  have sorted : ((runningPorts hs).mergeSort (· ≤ ·)).Pairwise (· ≤ ·) := by
    have sorted := @List.pairwise_mergeSort UInt16 (· ≤ ·)
      (by simpa using fun a b c => UInt16.le_trans) (by simpa using UInt16.le_total)
      (runningPorts hs)
    simpa using sorted
  exact (same.trans (List.mergeSort_perm _ _).symm).eq_of_pairwise
    (fun _ _ _ _ => UInt16.le_antisymm) ascending sorted

/-- A call that runs to its end in virtual time while the other handles rest. -/
lemma run {n : Node Simulated.Process} (before after : List (Handle Simulated.Process Floor))
    (call : NodeCall) (ends : ((call.task Floor.host).run [] (n, f)).1 = some ()) :
    Relation.ReflTransGen (Fleet.Step Floor.PortsKept Floor.host)
      (before ++ { node := n } :: after, f)
      (before ++ { node := ((call.task Floor.host).run [] (n, f)).2.1 } :: after,
        ((call.task Floor.host).run [] (n, f)).2.2) :=
  Fleet.calls before after call (Task.leads_of_run (fun _ => ⟨rfl, rfl⟩)
    (fun first last => ⟨last.1.trans first.1, last.2.trans first.2⟩) (by simp) ends)

/-- Of two nodes that have been set up on one port, the one that is started last does not get it. -/
theorem one_port_for_two : ∃ hs f,
    Relation.ReflTransGen (Fleet.Step Floor.PortsKept Floor.host) ([], .empty) (hs, f) ∧
    hs.map (fun h => (h.node.port, h.node.phase)) =
      [(5433, .running), (5433, .initialized), (5432, .running)] ∧
    f.engine.running = [5432, 5433] := by
  let node (name : String) (port : UInt16) : Node Simulated.Process :=
    .create (.under Cluster.ofDefaults.config.baseDirectory name port) (.ofSeconds 60)
  obtain ⟨⟨hs, f⟩, steps, phases, ports⟩ : ∃ s : List (Handle Simulated.Process Floor) × Floor,
      Relation.ReflTransGen (Fleet.Step Floor.PortsKept Floor.host) ([], .empty) s ∧
      s.1.map (fun h => (h.node.port, h.node.phase)) =
        [(5433, .running), (5433, .initialized), (5432, .running)] ∧
      runningPorts s.1 = [5433, 5432] := by
    have joined : Relation.ReflTransGen (Fleet.Step Floor.PortsKept Floor.host) ([], .empty)
        ([{ node := node "W1" 5433 }, { node := node "W2" 5433 }, { node := node "M" 5432 }],
          .empty) :=
      .tail (.tail (.tail .refl (.joins _ _)) (.joins _ _)) (.joins _ _)
    have steps := joined.trans (run [] [_, _] .init (by decide +kernel))
    have steps := steps.trans (run [_] [_] .init (by decide +kernel))
    have steps := steps.trans (run [_, _] [] .init (by decide +kernel))
    have steps := steps.trans (run [] [_, _] .start (by decide +kernel))
    have steps := steps.trans (run [_] [_] .start (by decide +kernel))
    have steps := steps.trans (run [_, _] [] .start (by decide +kernel))
    exact ⟨_, steps, by decide +kernel, by decide +kernel⟩
  obtain ⟨agree, -⟩ := running_ports rfl steps
  simp only at phases ports
  refine ⟨hs, f, steps, phases, ?_⟩
  rw [agree, ports]
  simp [List.mergeSort, List.MergeSort.Internal.splitInTwo]

end Fleet

end ShardCluster
