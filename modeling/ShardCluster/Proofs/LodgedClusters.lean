import ShardCluster.Proofs.Lodgers
import ShardCluster.Proofs.SetUpRules
import ShardCluster.Proofs.Teardown

/-!
# Lodged clusters

A cluster lodges (`Lodges`) if it is in order, all its nodes are known, and the lodging is kept.
Every call that brings up a plan leaves it lodged, wherever it waits and however it ends
(`bootstrap_lodges`, `addWorker_lodges`, `executeOnCoordinator_lodges`, `runOnNode_lodges`); and the
teardown of a lodged cluster succeeds, after which no node holds anything (`teardown_lodged`).
-/

namespace ShardCluster

open ShardCluster.Task (Ensures Assures Beside Keeps)
open FileSystem (Ground)
open Node (Lodged)

/-- **The premises** of nodes: they are named in a base directory that stays reached, on a host on
files that accounts for the estate and can always stop its servers. -/
structure Premises {P W : Type} (env : W → W → Prop) (held : Estate P → W → Prop)
    (files : W → FileSystem) (host : Host P W) (fs₀ : FileSystem) (base : Path) (q : Place)
    (known : List Identity) : Prop where
  accounts : host.Accounts env held
  works : host.OnFiles env files
  obliging : host.Obliging env held
  named : ∀ i ∈ known, i.NamedIn base
  ground : fs₀.Ground base known q

namespace Cluster

variable {P W : Type} [DecidableEq P]

/-- **Residents**: all nodes of the cluster are known, and the lodging is kept. -/
structure Resident (files : W → FileSystem) (fs₀ : FileSystem) (base : Path) (q : Place)
    (known : List Identity) (p : Cluster P × Log P × W) : Prop where
  home : p.1.config.baseDirectory = base
  nodes : ∀ n ∈ p.1.allocated, n.identity ∈ known
  lodged : Lodged files fs₀ q known p.2

/-- **A lodged cluster** is in order besides. -/
structure Lodges (held : Estate P → W → Prop) (files : W → FileSystem) (fs₀ : FileSystem)
    (base : Path) (q : Place) (known : List Identity) (p : Cluster P × Log P × W) : Prop
    extends Resident files fs₀ base q known p where
  order : p.1.InOrder (Host.Booked held) 0 p.2

/-- **An operation that keeps clusters lodged**, wherever it waits and however it ends. -/
def KeepsLodged {α : Type} (env : W → W → Prop) (held : Estate P → W → Prop)
    (files : W → FileSystem) (fs₀ : FileSystem) (base : Path) (q : Place) (known : List Identity)
    (x : ClusterAction P (Log P × W) α) : Prop :=
  ∀ p, Lodges held files fs₀ base q known p →
    Assures (Beside (Beside env)) (Lodges held files fs₀ base q known)
      (fun _ => Lodges held files fs₀ base q known) (fun _ => Lodges held files fs₀ base q known)
      x p

variable {env : W → W → Prop} {held : Estate P → W → Prop} {files : W → FileSystem}
  {host : Host P W} {fs₀ : FileSystem} {base : Path} {q : Place} {known : List Identity}
  {c : Cluster P} {s s' : Log P × W} {n : Node P} {i : Identity} {rest : Estate P} {name : String}
  {port : UInt16} {α : Type}

lemma Resident.still (h : Resident files fs₀ base q known (c, s))
    (lodged : Lodged files fs₀ q known s') : Resident files fs₀ base q known (c, s') :=
  ⟨h.home, h.nodes, lodged⟩

/-- **A lodger**: a node in hand where the lodging is kept. -/
structure Lodger (held : Estate P → W → Prop) (files : W → FileSystem) (fs₀ : FileSystem)
    (q : Place) (known : List Identity) (i : Identity) (rest : Estate P)
    (p : Node P × Log P × W) : Prop where
  inHand : p.1.InHand (Host.Booked held) i rest p.2
  lodged : Lodged files fs₀ q known p.2

lemma Lodger.placed {c' : Cluster P} (h : Lodger held files fs₀ q known i rest (n, s'))
    (member : i ∈ known) (resident : Resident files fs₀ base q known (c, s))
    (same : c'.config = c.config) (perm : c'.allocated.Perm (n :: c.allocated)) :
    Resident files fs₀ base q known (c', s') := by
  refine ⟨same ▸ resident.home, fun m there => ?_, h.lodged⟩
  rcases List.mem_cons.1 (perm.subset there) with rfl | before
  · rwa [h.inHand.identity]
  · exact resident.nodes m before

lemma Lodger.still (h : Lodger held files fs₀ q known i rest (n, s))
    (estate : Host.Booked held (n.estate + rest) s' ∧ Lodged files fs₀ q known s') :
    Lodger held files fs₀ q known i rest (n, s') :=
  ⟨h.inHand.still estate.1, estate.2⟩

lemma keepsLodged_of {x : ClusterAction P (Log P × W) α}
    (spec : ∀ c s, c.InOrder (Host.Booked held) 0 s →
      Assures (Beside (Beside env)) (Order (Host.Booked held) 0)
        (fun _ => Order (Host.Booked held) 0) (fun _ => Order (Host.Booked held) 0) x (c, s))
    (resident : ∀ c s, Lodges held files fs₀ base q known (c, s) →
      Assures (Beside (Beside env)) (Resident files fs₀ base q known)
        (fun _ => Resident files fs₀ base q known) (fun _ => Resident files fs₀ base q known)
        x (c, s)) :
    KeepsLodged env held files fs₀ base q known x := by
  rintro ⟨c, s⟩ h
  exact ((spec c s h.order).and (resident c s h)).mono (fun _ h => ⟨h.2, h.1⟩)
    (fun _ _ h => ⟨h.2, h.1⟩) fun _ _ h => ⟨h.2, h.1⟩

lemma KeepsLodged.bind {β : Type} {x : ClusterAction P (Log P × W) α}
    {f : α → ClusterAction P (Log P × W) β} (hx : KeepsLodged env held files fs₀ base q known x)
    (hf : ∀ a, KeepsLodged env held files fs₀ base q known (f a)) :
    KeepsLodged env held files fs₀ base q known (x >>= f) := fun p h =>
  Task.assures_bind.2 ((hx p h).mono (fun _ h => h) (fun a p h => hf a p h) fun _ _ h => h)

lemma keepsLodged_pure {a : α} :
    KeepsLodged env held files fs₀ base q known (pure a : ClusterAction P (Log P × W) α) :=
  fun _ h => Task.assures_pure.2 h

lemma KeepsLodged.forM {β : Type} {l : List β} {f : β → ClusterAction P (Log P × W) PUnit}
    (hf : ∀ b ∈ l, KeepsLodged env held files fs₀ base q known (f b)) :
    KeepsLodged env held files fs₀ base q known (l.forM f) := by
  induction l with
  | nil => exact keepsLodged_pure
  | cons b rest ih =>
    rw [List.forall_mem_cons] at hf
    exact hf.1.bind fun _ => ih hf.2

variable (premises : Premises env held files host fs₀ base q known)
include premises

/-! ### Nodes of a cluster -/

section Lodgers

variable {p : Node P × Log P × W}

lemma prepare_lodger {settings : String} {timeout : Duration} (member : i ∈ known)
    (estate : Host.Booked held rest s) (lodged : Lodged files fs₀ q known s) :
    Assures (Beside (Beside env)) (Lodger held files fs₀ q known i rest)
      (fun _ => Lodger held files fs₀ q known i rest)
      (fun _ => Lodger held files fs₀ q known i rest) (prepare host.logged settings)
      (.create i timeout, s) := by
  obtain ⟨l, w⟩ := s
  have hn : (Node.create i timeout : Node P).InHand (Host.Booked held) i rest (l, w) :=
    .create estate
  exact ((Node.prepare_spec premises.accounts.logged hn rfl rfl).and
    (Node.prepare_lodged premises.works premises.named member premises.ground lodged)).mono
      (fun _ h => ⟨h.1, h.2⟩) (fun _ _ h => ⟨h.1.1, h.2⟩) fun _ _ h => ⟨h.1, h.2⟩

lemma keeps_executing {port : UInt16} {database statement : String} :
    Keeps (Beside env) (Lodged files fs₀ q known)
      (host.logged.engine.execute port database statement) := by
  rintro ⟨l, w⟩ lodged
  have same (w' : W) (same : files w' = files w) : Lodged files fs₀ q known (l, w') :=
    Node.lodged_of_files lodged same
  exact ensures_noting_iff.2
    ((premises.works.execute port database statement (files w) w rfl).mono same fun _ => same)

lemma keeps_lodger {e : Estate P} {port : UInt16} {database statement : String} :
    Keeps (Beside env) (fun s => Host.Booked held e s ∧ Lodged files fs₀ q known s)
      (host.logged.engine.execute port database statement) := fun s h =>
  (premises.accounts.logged.execute port database statement e s h.1).and
    (keeps_executing premises s h.2)

lemma dismisses_lodger {place : Cluster P → Node P → Cluster P} {e : ClusterError}
    (resident : Resident files fs₀ base q known (c, s)) (same : ∀ n, (place c n).config = c.config)
    (perm : ∀ n, (place c n).allocated.Perm (n :: c.allocated)) (member : i ∈ known)
    (lodger : Lodger held files fs₀ q known i rest p) :
    Dismisses (Beside env) host.logged place (Resident files fs₀ base q known)
      (fun _ => Resident files fs₀ base q known) c e p := by
  obtain ⟨n, l, w⟩ := p
  have spec := Node.cleanup_spec premises.accounts.logged lodger.inHand
  have keeps := Node.cleanup_lodged premises.works premises.named member premises.ground
    premises.obliging lodger.inHand lodger.lodged
  refine (spec.and keeps).mono ?_ (fun _ _ h => resident.still h.2) fun _ _ h => h.2.elim
  rintro p ⟨settled, lodged⟩
  exact Lodger.placed ⟨settled.toInHand, lodged⟩ member resident (same p.1) (perm p.1)

end Lodgers

/-! ### The coordinator -/

/-- **Bootstrapping** keeps a cluster lodged. -/
theorem bootstrap_lodges (member : .under base name port ∈ known) :
    KeepsLodged env held files fs₀ base q known (bootstrap host.logged name port) := by
  refine keepsLodged_of (fun _ _ => bootstrap_spec premises.accounts.logged) fun c s h => ?_
  have resident := h.toResident
  rcases vacant : c.coordinator with _ | lead
  swap
  · unfold bootstrap
    simpa [vacant] using resident
  rcases checked : c.checkIdentity (.under c.config.baseDirectory name port) with e | _
  · exact assures_bootstrap_refused vacant checked resident
  have member : .under c.config.baseDirectory name port ∈ known := by
    rwa [show c.config.baseDirectory = base from resident.home]
  have perm (n : Node P) : (c.withLead n).allocated.Perm (n :: c.allocated) := by
    rw [allocated_withLead vacant]
  refine assures_bootstrap vacant checked ((prepare_lodger premises member h.order.estate
    resident.lodged).mono (fun p lodger => lodger.placed member resident rfl (perm p.1)) ?_
    fun _ p => dismisses_lodger premises resident (fun _ => rfl) perm member)
  rintro - ⟨n, s₁⟩ lodger
  refine Node.installExtension_keeps (keeps_lodger premises)
    ⟨lodger.inHand.estate, lodger.lodged⟩ (fun s₂ estate => ?_) (fun s₂ estate => ?_)
    fun _ s₂ estate => ?_
  · exact (lodger.still estate).placed member resident rfl (perm n)
  · exact (lodger.still estate).placed member resident rfl (perm n)
  · exact dismisses_lodger premises resident (fun _ => rfl) perm member (lodger.still estate)

/-! ### Workers -/

omit [DecidableEq P] premises in
lemma allocated_enrolled {membership : Membership} :
    ({ c with membership, workers := c.workers ++ [n] } : Cluster P).allocated.Perm
      (n :: c.allocated) := by
  simp only [allocated, List.append_assoc, List.singleton_append]
  rw [← List.append_assoc, ← List.append_assoc c.coordinator.toList]
  exact List.perm_middle

lemma releaseOnboarding_lodges (h : Lodges held files fs₀ base q known (c, s))
    (led : c.membership.coordinator ≠ none) :
    Assures (Beside (Beside env)) (Resident files fs₀ base q known)
      (fun _ p => Lodges held files fs₀ base q known p ∧ p.1.onboarding = none ∧
        c.SameMembers p.1) (fun _ _ => False) (releaseOnboarding host.logged) (c, s) := by
  have resident : Assures (Beside (Beside env)) (Resident files fs₀ base q known)
      (fun _ => Resident files fs₀ base q known) (fun _ _ => True) (releaseOnboarding host.logged)
      (c, s) := by
    rcases there : c.onboarding with _ | n
    · exact (assures_releaseOnboarding_vacant there).2 h.toResident
    have perm (m : Node P) : (c.withNewcomer m).allocated.Perm
        (m :: ({ c with onboarding := none } : Cluster P).allocated) :=
      allocated_withNewcomer (c := { c with onboarding := none }) rfl
    have whole : c.withNewcomer n = c := by
      cases c
      cases there
      rfl
    have mine : c.allocated.Perm (n :: ({ c with onboarding := none } : Cluster P).allocated) :=
      whole ▸ perm n
    obtain ⟨-, hn⟩ := h.order.take mine h.order.agrees.withoutNewcomer
    have rest : Resident files fs₀ base q known (({ c with onboarding := none } : Cluster P), s) :=
      ⟨h.home, fun m other => h.nodes m (mine.symm.subset (.tail _ other)), h.lodged⟩
    have dismissal : Dismisses (Beside env) host.logged withNewcomer
        (Resident files fs₀ base q known) (fun _ => Resident files fs₀ base q known)
        { c with onboarding := none } default (n, s) :=
      dismisses_lodger premises rest (fun _ => rfl) perm
        (h.nodes n (mine.symm.subset List.mem_cons_self)) ⟨hn, h.lodged⟩
    exact assures_releaseOnboarding there dismissal
  exact (((releaseOnboarding_spec premises.accounts.logged h.order led).and
    releaseOnboarding_keeps).and resident).mono (fun _ h => h.2)
      (fun _ _ h => ⟨⟨h.2, h.1.1.1⟩, h.1.2.2, h.1.2.1⟩) fun _ _ h => h.1.2

/-- **Adding a worker** keeps a cluster lodged. -/
theorem addWorker_lodges (member : .under base name port ∈ known) :
    KeepsLodged env held files fs₀ base q known (addWorker host.logged name port) := by
  refine keepsLodged_of (fun _ _ => addWorker_spec premises.accounts.logged) fun c s h => ?_
  by_cases admits : ∃ recorded, c.Admits recorded
  swap
  · unfold addWorker
    simp only [Task.assures_bind, assures_current]
    rcases led : c.membership.coordinator with _ | recorded
    · simpa using h.toResident
    · have full : c.config.plannedWorkers ≤ c.membership.workers.length :=
        not_lt.1 fun room => admits ⟨recorded, led, room⟩
      simpa [full] using h.toResident
  obtain ⟨recorded, admits⟩ := admits
  rw [assures_addWorker_cleared admits]
  refine (releaseOnboarding_lodges premises h (by simp [admits.led])).of_infallible ?_
  rintro - ⟨c', s'⟩ ⟨h', vacant, same⟩
  simp only at h' vacant same
  have resident := h'.toResident
  have admits' := admits.same same
  obtain ⟨lead, there, -⟩ := h'.order.agrees.led recorded admits'.led
  rcases checked : c'.checkIdentity (.under c'.config.baseDirectory name port) with e | _
  · exact assures_addWorker_refused admits' vacant checked resident
  have member : .under c'.config.baseDirectory name port ∈ known := by
    rwa [show c'.config.baseDirectory = base from resident.home]
  have perm (n : Node P) : (c'.withNewcomer n).allocated.Perm (n :: c'.allocated) :=
    allocated_withNewcomer vacant
  refine assures_addWorker admits' there vacant checked ((prepare_lodger premises member
    h'.order.estate resident.lodged).mono
    (fun p lodger => lodger.placed member resident rfl (perm p.1)) ?_
    fun _ p => dismisses_lodger premises resident (fun _ => rfl) perm member)
  rintro - ⟨n, s₁⟩ lodger
  refine Node.installExtension_keeps (keeps_lodger premises)
    ⟨lodger.inHand.estate, lodger.lodged⟩ (fun s₂ estate => ?_) (fun s₂ estate => ?_)
    fun _ s₂ estate => ?_
  · exact (lodger.still estate).placed member resident rfl (perm n)
  · have lodger := lodger.still estate
    refine Node.runSql_keeps (keeps_lodger premises) ⟨lodger.inHand.estate, lodger.lodged⟩
      (fun s₃ estate => ?_) (fun _ s₃ estate => ?_) fun _ s₃ estate => ?_
    · exact (lodger.still estate).placed member resident rfl (perm n)
    · exact (lodger.still estate).placed member resident rfl allocated_enrolled
    · exact dismisses_lodger premises resident (fun _ => rfl) perm member (lodger.still estate)
  · exact dismisses_lodger premises resident (fun _ => rfl) perm member (lodger.still estate)

/-! ### Statements -/

section Statements

variable {statement : String}

lemma runSql_resident {database : String} (h : Resident files fs₀ base q known (c, s)) :
    Assures (Beside env) (fun s => Resident files fs₀ base q known (c, s))
      (fun _ s => Resident files fs₀ base q known (c, s))
      (fun _ s => Resident files fs₀ base q known (c, s))
      (n.runSql host.logged database statement) s :=
  Node.runSql_keeps (keeps_executing premises) h.lodged (fun _ => h.still) (fun _ _ => h.still)
    fun _ _ => h.still

theorem executeOnCoordinator_lodges :
    KeepsLodged env held files fs₀ base q known (executeOnCoordinator host.logged statement) := by
  refine keepsLodged_of (fun _ _ => executeOnCoordinator_spec premises.accounts.logged)
    fun c s h => ?_
  unfold executeOnCoordinator
  simp only [Task.assures_bind, assures_current, Task.assures_ite]
  split
  · simpa using h.toResident
  rcases c.coordinator with _ | lead
  · simpa using h.toResident
  · exact assures_outside.2 (runSql_resident premises h.toResident)

theorem runOnNode_lodges :
    KeepsLodged env held files fs₀ base q known (runOnNode host.logged name statement) := by
  refine keepsLodged_of (fun _ _ => runOnNode_spec premises.accounts.logged) fun c s h => ?_
  unfold runOnNode
  simp only [Task.assures_bind, assures_current]
  split
  · exact assures_outside.2 (runSql_resident premises h.toResident)
  · exact Task.assures_throw.2 h.toResident

end Statements

/-! ### Teardowns -/

/-- **Releasing nodes one after another** succeeds. -/
lemma releaseAll_lodged {nodes : List (Node P)} (sound : ∀ n ∈ nodes, n.Sound)
    (present : ∀ n ∈ nodes, n.phase ≠ .cleanedUp) (member : ∀ n ∈ nodes, n.identity ∈ known)
    (estate : Host.Booked held (.ofNodes nodes) s) (lodged : Lodged files fs₀ q known s) :
    Ensures (Beside (Beside env)) (fun _ => True)
      (fun failures p => failures = [] ∧ Host.Booked held 0 p.2 ∧ Lodged files fs₀ q known p.2)
      (releaseAll host.logged nodes) (c, s) := by
  induction nodes generalizing s with
  | nil => exact Task.ensures_pure.2 ⟨rfl, estate, lodged⟩
  | cons n rest ih =>
    rw [List.forall_mem_cons] at sound present member
    have hn : n.InHand (Host.Booked held) n.identity (.ofNodes rest) s :=
      ⟨rfl, sound.1, present.1, by rwa [Estate.ofNodes_cons] at estate⟩
    obtain ⟨l, w⟩ := s
    have spec := Node.cleanup_spec premises.accounts.logged hn
    have keeps := Node.cleanup_lodged premises.works premises.named member.1 premises.ground
      premises.obliging hn lodged
    unfold releaseAll release
    refine Task.ensures_bind.2 (Task.ensures_bind.2 (Task.ensures_owning.2
      (Ensures.mono (spec.and keeps) (fun _ _ => trivial) ?_)))
    rintro (e | _) ⟨n', s'⟩ h
    · exact h.2.elim
    · refine Task.ensures_pure.2 (Task.ensures_bind.2 ((ih sound.2 present.2 member.2 h.1.2.2
        h.2).mono (fun _ h => h) ?_))
      rintro _ p ⟨rfl, left⟩
      exact Task.ensures_pure.2 ⟨rfl, left⟩

/-- **The teardown of a lodged cluster** succeeds, and nothing is held any more. -/
theorem teardown_lodged (h : Lodges held files fs₀ base q known (c, s)) :
    Assures (Beside (Beside env)) (fun _ => True)
      (fun _ p => Host.Booked held 0 p.2 ∧ Lodged files fs₀ q known p.2) (fun _ _ => False)
      (teardown host.logged) (c, s) := by
  have there (n : Node P) : n ∈ c.toRelease ↔ n ∈ c.allocated := toRelease_perm.mem_iff
  have estate : Host.Booked held (.ofNodes c.toRelease) s := by
    rw [Estate.ofNodes_perm toRelease_perm, ← add_zero (Estate.ofNodes _)]
    exact h.order.estate
  unfold teardown
  simp only [Task.assures_bind, Task.assures_liftM, Task.ensures_atomic]
  refine (releaseAll_lodged premises (fun n hn => h.order.tidy.sound n ((there n).1 hn))
    (fun n hn => h.order.tidy.present n ((there n).1 hn))
    (fun n hn => h.nodes n ((there n).1 hn)) estate h.lodged).mono (fun _ h => h) ?_
  rintro _ p ⟨rfl, left⟩
  exact Task.assures_pure.2 left

end Cluster

end ShardCluster
