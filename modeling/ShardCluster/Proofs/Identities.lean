import ShardCluster.Proofs.History

/-!
# What stays known of a cluster

No operation changes the identity of a node (`Node.Steady`), so that what is known of the identities
of the nodes of a cluster is known wherever a call waits and however it ends (`Cluster.Recalls`), as
long as it holds of the nodes that the call brings in. `History.knows` says so of whole histories.
-/

namespace ShardCluster

open ShardCluster.Task (Ensures Assures Beside Leads)

variable {P W α : Type}

/-! ### Identities stay -/

namespace Node

variable {env : W → W → Prop} {host : Host P W} {ε : Type} {β : Type}

/-- The identity of the node stays the same wherever the operation waits and however it ends. -/
def Steady (env : W → W → Prop) (x : NodeAction P W α) : Prop :=
  ∀ n w, Assures (Beside env) (·.1.identity = n.identity) (fun _ p => p.1.identity = n.identity)
    (fun _ p => p.1.identity = n.identity) x (n, w)

lemma Steady.bind {x : NodeAction P W α} {f : α → NodeAction P W β} (hx : Steady env x)
    (hf : ∀ a, Steady env (f a)) : Steady env (x >>= f) := by
  intro n w
  refine Task.assures_bind.2 ((hx n w).mono (fun _ h => h) (fun a p same => ?_) fun _ _ h => h)
  have next := hf a p.1 p.2
  rwa [same] at next

lemma steady_pure {a : α} : Steady env (pure a : NodeAction P W α) :=
  fun _ _ => Task.assures_pure.2 rfl

lemma steady_throw {e : ClusterError} : Steady env (throw e : NodeAction P W α) :=
  fun _ _ => Task.assures_throw.2 rfl

lemma steady_current : Steady env (current : NodeAction P W (Node P)) :=
  fun _ _ => assures_current.2 rfl

lemma steady_change {f : Node P → Node P} (h : ∀ n, (f n).identity = n.identity) :
    Steady env (change f : NodeAction P W Unit) :=
  fun n _ => assures_change.2 (h n)

lemma steady_outside {t : Task W α} : Steady env (outside t : NodeAction P W α) :=
  fun _ _ => assures_outside.2 (Task.ensures_of_forall (fun _ => rfl) fun _ _ => rfl)

lemma steady_attempt {meaning : ε → ClusterError} {t : Task W (Except ε α)} :
    Steady env (attempt meaning t : NodeAction P W α) := by
  refine steady_outside.bind fun r => ?_
  cases r
  · exact steady_throw
  · exact steady_pure

lemma steady_ite {c : Prop} [Decidable c] {x y : NodeAction P W α} (hx : Steady env x)
    (hy : Steady env y) : Steady env (if c then x else y) := by
  split
  · exact hx
  · exact hy

lemma steady_guard {c : Prop} [Decidable c] {e : ClusterError} {f : PUnit → NodeAction P W α}
    (h : Steady env (f ⟨⟩)) : Steady env (if c then throw e >>= f else f ⟨⟩) := by
  split
  · exact fun _ _ => Task.assures_bind.2 (Task.assures_throw.2 rfl)
  · exact h

lemma steady_checkVacant {m : Node P} : Steady env (checkVacant host m) := by
  unfold checkVacant
  refine steady_attempt.bind fun found => steady_ite ?_ steady_pure
  exact steady_attempt.bind fun names => steady_ite steady_throw steady_pure

lemma steady_init : Steady env (init host) := by
  unfold init
  refine steady_current.bind fun n => steady_guard ?_
  refine steady_checkVacant.bind fun _ => steady_outside.bind fun free => steady_guard ?_
  refine Steady.bind (steady_change ?_) fun _ => steady_attempt.bind fun _ =>
    steady_attempt.bind fun _ => steady_change ?_
  · exact fun _ => rfl
  · exact fun _ => rfl

lemma steady_appendConfig {text : String} : Steady env (appendConfig host text) := by
  unfold appendConfig
  exact steady_current.bind fun n => steady_guard steady_attempt

lemma steady_start : Steady env (start host) := by
  unfold start
  refine steady_current.bind fun n => steady_guard ?_
  exact steady_attempt.bind fun p => steady_change fun _ => rfl

/-- **Setting up** keeps the identity. -/
lemma steady_prepare {settings : String} : Steady env (Cluster.prepare host settings) :=
  steady_init.bind fun _ => steady_appendConfig.bind fun _ => steady_start

lemma steady_stop : Steady env (stop host) := by
  unfold stop
  refine steady_current.bind fun n => steady_ite steady_pure ?_
  have set_down : Steady env (change fun n : Node P =>
      { n with process := none, phase := .stopped } : NodeAction P W Unit) :=
    steady_change fun _ => rfl
  dsimp only
  split
  · exact steady_attempt.bind fun _ => set_down
  · exact set_down

/-- **Cleaning up** keeps the identity. -/
lemma steady_cleanup : Steady env (cleanup host) := by
  unfold cleanup
  refine steady_current.bind fun n => steady_ite steady_pure (steady_stop.bind fun _ => ?_)
  have set_gone : Steady env (change fun n : Node P => { n with phase := .cleanedUp } :
      NodeAction P W Unit) := steady_change fun _ => rfl
  refine steady_ite (steady_outside.bind fun r => ?_) set_gone
  split
  · exact set_gone
  · exact set_gone
  · exact steady_throw.bind fun _ => set_gone

end Node

/-! ### What is known -/

namespace Cluster

/-- **What is known of a cluster**: its configuration, and something of the identity of each of its
nodes. -/
structure Knows (R : Identity → Prop) (config : Config) (c : Cluster P) : Prop where
  config : c.config = config
  nodes : ∀ n ∈ c.allocated, R n.identity

section Knows

variable {R : Identity → Prop} {config : Config} {c c' : Cluster P} {n : Node P}

lemma Knows.fewer (h : c.Knows R config) (same : c'.config = c.config)
    (sub : c'.allocated ⊆ c.allocated) : c'.Knows R config :=
  ⟨same.trans h.config, fun n hn => h.nodes n (sub hn)⟩

lemma Knows.more (h : c.Knows R config) (hn : R n.identity) (same : c'.config = c.config)
    (sub : c'.allocated ⊆ n :: c.allocated) : c'.Knows R config :=
  ⟨same.trans h.config, fun m hm => by
    rcases List.mem_cons.1 (sub hm) with rfl | hm
    · exact hn
    · exact h.nodes m hm⟩

lemma Knows.withLead (h : c.Knows R config) (hn : R n.identity) : (c.withLead n).Knows R config :=
  h.more hn rfl fun m hm => by
    simp only [allocated, Cluster.withLead, List.mem_append, Option.mem_toList,
      List.mem_cons] at hm ⊢
    grind

lemma Knows.withNewcomer (h : c.Knows R config) (hn : R n.identity) :
    (c.withNewcomer n).Knows R config :=
  h.more hn rfl fun m hm => by
    simp only [allocated, Cluster.withNewcomer, List.mem_append, Option.mem_toList,
      List.mem_cons] at hm ⊢
    grind

lemma Knows.settle (h : c.Knows R config) (hn : R n.identity) :
    (settle n false c).Knows R config :=
  h.more hn rfl fun m hm => by
    simp only [allocated, Cluster.settle, List.mem_append, Option.mem_toList,
      List.mem_cons] at hm ⊢
    grind

end Knows

section Recalls

variable {env : W → W → Prop} {host : Host P W} {R : Identity → Prop} {config : Config} {β : Type}

/-- What is known of the cluster, whatever becomes of the world. -/
abbrev Known (R : Identity → Prop) (config : Config) (p : Cluster P × W) : Prop :=
  p.1.Knows R config

/-- What is known of the cluster is known wherever the operation waits and however it ends. -/
def Recalls (env : W → W → Prop) (R : Identity → Prop) (config : Config) (x : ClusterAction P W α) :
    Prop :=
  ∀ c w, c.Knows R config → Assures (Beside env) (Known R config) (fun _ => Known R config)
    (fun _ => Known R config) x (c, w)

lemma recalls_pure {a : α} : Recalls env R config (pure a : ClusterAction P W α) :=
  fun _ _ h => Task.assures_pure.2 h

lemma recalls_throw {e : ClusterError} : Recalls env R config (throw e : ClusterAction P W α) :=
  fun _ _ h => Task.assures_throw.2 h

lemma Recalls.bind {x : ClusterAction P W α} {f : α → ClusterAction P W β}
    (hx : Recalls env R config x) (hf : ∀ a, Recalls env R config (f a)) :
    Recalls env R config (x >>= f) := fun c w h =>
  Task.assures_bind.2 ((hx c w h).mono (fun _ h => h) (fun a p h => hf a p.1 p.2 h) fun _ _ h => h)

lemma Recalls.tryCatch {x : ClusterAction P W α} {f : ClusterError → ClusterAction P W α}
    (hx : Recalls env R config x) (hf : ∀ e, Recalls env R config (f e)) :
    Recalls env R config (tryCatch x f) := fun c w h =>
  Task.assures_tryCatch.2
    ((hx c w h).mono (fun _ h => h) (fun _ _ h => h) fun e p h => hf e p.1 p.2 h)

lemma recalls_current {f : Cluster P → ClusterAction P W α}
    (hf : ∀ c, c.Knows R config → Recalls env R config (f c)) :
    Recalls env R config (current >>= f) := fun c w h =>
  Task.assures_bind.2 (assures_current.2 (hf c h c w h))

lemma recalls_change {f : Cluster P → Cluster P}
    (hf : ∀ c, c.Knows R config → (f c).Knows R config) :
    Recalls env R config (change f : ClusterAction P W Unit) :=
  fun c _ h => assures_change.2 (hf c h)

lemma recalls_outside {x : ExceptT ClusterError (Task W) α} :
    Recalls env R config (outside x : ClusterAction P W α) := by
  intro c w h
  refine assures_outside.2 (Task.ensures_of_forall (fun _ => h) ?_)
  rintro (_ | _) w
  · exact h
  · exact h

lemma recalls_liftExcept {x : Except ClusterError α} :
    Recalls env R config (liftM x : ClusterAction P W α) := by
  intro c w h
  refine Task.assures_liftExcept.2 ?_
  cases x
  · exact h
  · exact h

lemma recalls_guard {b : Prop} [Decidable b] {e : ClusterError} {f : PUnit → ClusterAction P W α}
    (h : Recalls env R config (f ⟨⟩)) :
    Recalls env R config (if b then throw e >>= f else f ⟨⟩) := by
  split
  · exact fun _ _ h => Task.assures_bind.2 (Task.assures_throw.2 h)
  · exact h

lemma recalls_within (place : Cluster P → Option (Node P))
    (put : Node P → Cluster P → Cluster P)
    (place_put : ∀ n c, place (put n c) = some n) (put_put : ∀ m n c, put n (put m c) = put n c)
    (put_same : ∀ n c, place c = some n → put n c = c)
    (held : ∀ n c, place c = some n → n ∈ c.allocated)
    (known : ∀ n c, c.Knows R config → R n.identity → (put n c).Knows R config)
    {x : NodeAction P W α} (hx : Node.Steady env x) :
    Recalls env R config (liftM (x.run.within (fun s : Cluster P × W => (place s.1).map (·, s.2))
      (fun p s => (put p.1 s.1, p.2))) : ClusterAction P W (Option (Except ClusterError α))) := by
  intro c w h
  refine Task.assures_liftM.2 ?_
  rcases there : place c with _ | n
  · exact Task.ensures_within_missing there (fun _ => h) fun _ _ => h
  have hn : R n.identity := h.nodes n (held n c there)
  refine (Task.ensures_within place put place_put (fun m n c => put_put m n c) there
    (put_same n c there)).2 (Ensures.mono (hx n w) ?_ ?_)
  · exact fun p same => known _ _ h (same ▸ hn)
  · rintro (_ | _) p same
    · exact known _ _ h (same ▸ hn)
    · exact known _ _ h (same ▸ hn)

lemma recalls_onCoordinator {x : NodeAction P W α} (hx : Node.Steady env x) :
    Recalls env R config (onCoordinator x) := by
  refine Recalls.bind (recalls_within Cluster.coordinator
    (fun n c => c.withLead n) (fun _ _ => rfl) (fun _ _ _ => rfl) ?_ ?_ ?_ hx) fun r => ?_
  · rintro n ⟨⟩ rfl
    rfl
  · exact fun n c there => by simp [allocated, there]
  · exact fun n c h hn => h.withLead hn
  · rcases r with _ | _ | _
    · exact recalls_throw
    · exact recalls_throw
    · exact recalls_pure

lemma recalls_onOnboarding {x : NodeAction P W α} (hx : Node.Steady env x) :
    Recalls env R config (onOnboarding x) := by
  refine Recalls.bind (recalls_within Cluster.onboarding
    (fun n c => c.withNewcomer n) (fun _ _ => rfl) (fun _ _ _ => rfl) ?_ ?_ ?_ hx)
    fun r => ?_
  · rintro n ⟨⟩ rfl
    rfl
  · exact fun n c there => by simp [allocated, there]
  · exact fun n c h hn => h.withNewcomer hn
  · rcases r with _ | _ | _
    · exact recalls_throw
    · exact recalls_throw
    · exact recalls_pure

lemma recalls_releaseCoordinator : Recalls env R config (releaseCoordinator host) := by
  unfold releaseCoordinator
  refine recalls_current fun c _ => ?_
  split
  · refine Recalls.bind (Recalls.tryCatch ?_ fun _ => recalls_pure) fun released =>
      recalls_change fun c h => ?_
    · exact (recalls_onCoordinator Node.steady_cleanup).bind fun _ => recalls_pure
    · split
      · rename_i n there
        have hn : R n.identity := h.nodes n (by simp [allocated, there])
        have rest : Knows R config { c with coordinator := none } :=
          h.fewer rfl fun m hm => by simp_all [allocated]
        cases released
        · exact rest.settle hn
        · exact rest
      · exact h
  · exact recalls_pure

lemma recalls_releaseOnboarding : Recalls env R config (releaseOnboarding host) := by
  unfold releaseOnboarding
  refine recalls_current fun c _ => ?_
  split
  · refine Recalls.bind (Recalls.tryCatch ?_ fun _ => recalls_pure) fun released =>
      recalls_change fun c h => ?_
    · exact (recalls_onOnboarding Node.steady_cleanup).bind fun _ => recalls_pure
    · split
      · rename_i n there
        have hn : R n.identity := h.nodes n (by simp [allocated, there])
        have rest : Knows R config { c with onboarding := none } :=
          h.fewer rfl fun m hm => by
            simp only [allocated, List.mem_append, Option.mem_toList] at hm ⊢
            grind
        cases released
        · exact rest.settle hn
        · exact rest
      · exact h
  · exact recalls_pure

lemma recalls_bringUpCoordinator : Recalls env R config (bringUpCoordinator host) := by
  unfold bringUpCoordinator
  refine recalls_current fun c _ => ?_
  split
  · refine (recalls_onCoordinator Node.steady_prepare).bind fun _ => recalls_current fun c _ => ?_
    split
    · exact recalls_outside
    · exact recalls_throw
  · exact recalls_throw

variable (hR : ∀ name port, R (.under config.baseDirectory name port))
include hR

/-- **Bootstrapping** brings in a node below the base directory. -/
lemma recalls_bootstrap {name : String} {port : UInt16} :
    Recalls env R config (bootstrap host name port) := by
  unfold bootstrap
  refine recalls_current fun c hc => recalls_guard ?_
  refine recalls_liftExcept.bind fun _ => (recalls_change fun c' h => ?_).bind fun _ => ?_
  · rw [hc.config]
    exact h.withLead (hR name port)
  refine Recalls.bind (recalls_bringUpCoordinator.tryCatch fun e => ?_) fun _ =>
    recalls_current fun c _ => ?_
  · exact recalls_releaseCoordinator.bind fun _ => recalls_throw
  split
  · exact Recalls.bind (recalls_change fun c h => h.fewer rfl fun _ hm => hm) fun _ => recalls_pure
  · exact recalls_throw

omit hR in
lemma recalls_onboard {connection : ConnectionString} :
    Recalls env R config (onboard host connection) := by
  unfold onboard
  refine recalls_current fun c _ => ?_
  split
  · refine recalls_guard ?_
    refine (recalls_onOnboarding Node.steady_prepare).bind fun _ => recalls_current fun c _ => ?_
    split
    · refine recalls_outside.bind fun _ => recalls_current fun c _ => ?_
      split
      · exact recalls_outside.bind fun _ => recalls_pure
      · exact recalls_throw
    · exact recalls_throw
  · exact recalls_throw

/-- **Adding a worker** brings in a node below the base directory. -/
lemma recalls_addWorker {name : String} {port : UInt16} :
    Recalls env R config (addWorker host name port) := by
  unfold addWorker
  refine recalls_current fun c hc => ?_
  split
  · refine recalls_guard ?_
    refine recalls_releaseOnboarding.bind fun _ => recalls_current fun c' _ => ?_
    refine (recalls_liftExcept.tryCatch fun _ => recalls_throw).bind fun _ =>
      (recalls_change fun c' h => ?_).bind fun _ => ?_
    · rw [hc.config]
      exact h.withNewcomer (hR name port)
    refine Recalls.bind (recalls_onboard.tryCatch fun e => ?_) fun _ =>
      recalls_current fun c hc => ?_
    · exact recalls_releaseOnboarding.bind fun _ => recalls_throw
    split
    · rename_i worker there
      have hn : R worker.identity := hc.nodes worker (by simp [allocated, there])
      refine Recalls.bind (recalls_change fun c h => h.more hn rfl fun m hm => ?_) fun _ =>
        recalls_pure
      simp only [allocated, List.mem_append, Option.mem_toList, List.mem_cons] at hm ⊢
      grind
    · exact recalls_throw
  · exact recalls_throw

omit hR in
lemma recalls_executeOnCoordinator {statement : String} :
    Recalls env R config (executeOnCoordinator host statement) := by
  unfold executeOnCoordinator
  refine recalls_current fun c _ => recalls_guard ?_
  split
  · exact recalls_outside
  · exact recalls_throw

omit hR in
lemma recalls_runOnNode {name statement : String} :
    Recalls env R config (runOnNode host name statement) := by
  unfold runOnNode
  refine recalls_current fun c _ => ?_
  split
  · exact recalls_outside
  · exact recalls_throw

omit hR in
lemma knows_releaseAll {nodes : List (Node P)} {c : Cluster P} {w : W} (h : c.Knows R config)
    (hn : ∀ n ∈ nodes, R n.identity) :
    Ensures (Beside env) (Known R config) (fun _ => Known R config) (releaseAll host nodes)
      (c, w) := by
  induction nodes generalizing c w with
  | nil => exact Task.ensures_pure.2 h
  | cons n rest ih =>
    rw [List.forall_mem_cons] at hn
    unfold releaseAll release
    refine Task.ensures_bind.2 (Task.ensures_bind.2 (Task.ensures_owning.2
      (Ensures.mono (Node.steady_cleanup n w) (fun _ _ => h) ?_)))
    have next {failure : Option ClusterError} {c : Cluster P} {w : W} (h : c.Knows R config) :
        Ensures (Beside env) (Known R config) (fun _ => Known R config) (do
          return failure.toList ++ (← releaseAll host rest)) (c, w) :=
      Task.ensures_bind.2 ((ih h hn.2).mono (fun _ h => h) fun _ _ h => Task.ensures_pure.2 h)
    rintro (e | _) ⟨n', w'⟩ same
    · exact Task.ensures_bind.2 (Task.ensures_update.2 (Task.ensures_pure.2
        (next (h.settle (same ▸ hn.1)))))
    · exact Task.ensures_pure.2 (next h)

omit hR in
/-- **A teardown** brings nothing new. -/
lemma recalls_teardown : Recalls env R config (teardown host) := by
  intro c w h
  unfold teardown
  simp only [Task.assures_bind, Task.assures_liftM, Task.ensures_atomic]
  have empty : c.emptied.Knows R config := ⟨h.config, fun _ hn => by cases hn⟩
  refine (knows_releaseAll empty fun n hn => h.nodes n (toRelease_perm.subset hn)).mono
    (fun _ h => h) ?_
  rintro (_ | ⟨e, failures⟩) p h
  · exact Task.assures_pure.2 h
  · exact Task.assures_throw.2 h

/-- **What every call recalls.** -/
theorem recalls_call (call : Call) {c : Cluster P} {w : W} (h : c.Knows R config) :
    Ensures (Beside env) (Known R config) (fun _ => Known R config) (call.task host) (c, w) := by
  have kept {α : Type} {x : ClusterAction P W α} (hx : Recalls env R config x) :
      Ensures (Beside env) (Known R config) (fun _ => Known R config) (discard x.run) (c, w) :=
    ensures_discard (hx c w h) fun _ _ h => h
  cases call with
  | bootstrap name port => exact kept (recalls_bootstrap hR)
  | addWorker name port => exact kept (recalls_addWorker hR)
  | partitionTable partitioning => exact kept recalls_executeOnCoordinator
  | execute statement => exact kept recalls_executeOnCoordinator
  | runOnNode name statement => exact kept recalls_runOnNode
  | teardown => exact kept recalls_teardown

end Recalls

end Cluster

/-- **After any history** the same is known, if it holds of all nodes with directories below the
base directory. -/
lemma History.knows {env : W → W → Prop} {host : Host P W} {R : Identity → Prop} {config : Config}
    {s s' : Cluster P × W} {events : List Event}
    (hR : ∀ name port, R (.under config.baseDirectory name port))
    (h : History env host s events s') (hs : s.1.Knows R config) : s'.1.Knows R config := by
  induction h with
  | start => exact hs
  | ended call _ led ih => exact Cluster.recalls_call hR call ih _ _ led
  | givenUp call _ led ih => exact Cluster.recalls_call hR call ih _ _ led
  | meanwhile _ _ ih => exact ih

lemma Cluster.knows_create {R : Identity → Prop} {config : Config} {c : Cluster P}
    (created : Cluster.create config = .ok c) : c.Knows R config := by
  unfold create at created
  rcases ht : config.template with e | template <;> rw [ht] at created <;> cases created
  exact ⟨rfl, fun n hn => by cases hn⟩

end ShardCluster
