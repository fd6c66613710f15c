import ShardCluster.Proofs.Order

/-!
# Setting nodes up keeps a cluster in order

`bootstrap_spec` and `addWorker_spec`: wherever they wait and however they end, the cluster is in
order. A node that could not be set up is released again; one that could not be released is
stranded.
-/

namespace ShardCluster

open ShardCluster.Task (Ensures Assures Beside)

namespace Cluster

variable {P W α : Type}

/-- The cluster is in order, with something extra in the estate. -/
abbrev Order (held : Estate P → W → Prop) (extra : Estate P) (p : Cluster P × W) : Prop :=
  p.1.InOrder held extra p.2

section Specs

variable {env : W → W → Prop} {held : Estate P → W → Prop} {host : Host P W} {extra : Estate P}
  {c : Cluster P} {i : Identity} {n : Node P} {w : W} {name : String} {port : UInt16}

/-! ### Releasing a node -/

variable (acc : host.Accounts env held)
include acc

theorem releaseCoordinator_spec (h : c.InOrder held extra w)
    (unrecorded : c.membership.coordinator = none) :
    Assures (Beside env) (Order held extra) (fun _ => Order held extra) (fun _ _ => False)
      (releaseCoordinator host) (c, w) := by
  rcases there : c.coordinator with _ | n
  · unfold releaseCoordinator
    simpa [there] using h
  · obtain ⟨awaits, hn⟩ := h.take (c := { c with coordinator := none }) (n := n)
      (by simp [allocated, there]) (h.agrees.withoutLead unrecorded)
    refine assures_releaseCoordinator there ((Node.cleanup_spec acc hn).mono ?_ ?_ ?_)
    · exact fun p hp => awaits.placeLead rfl hp.toInHand
    · exact fun _ p hp => awaits.inOrder hp.2.2
    · exact fun _ p hp => awaits.strand hp

/-- The new worker is gone or stranded in the end, whatever happens, and its place is free. -/
theorem releaseOnboarding_spec (h : c.InOrder held extra w)
    (led : c.membership.coordinator ≠ none) :
    Assures (Beside env) (Order held extra)
      (fun _ p => p.1.InOrder held extra p.2 ∧ p.1.onboarding = none ∧
        p.1.membership = c.membership ∧ p.1.workers = c.workers ∧ p.1.config = c.config)
      (fun _ _ => False) (releaseOnboarding host) (c, w) := by
  rcases there : c.onboarding with _ | n
  · unfold releaseOnboarding
    simpa [there] using h
  · have whole : ({ c with onboarding := none } : Cluster P).withNewcomer n = c := by
      cases c
      cases there
      rfl
    obtain ⟨awaits, hn⟩ := h.take (c := { c with onboarding := none }) (n := n)
      (by rw [← whole]; exact allocated_withNewcomer rfl) h.agrees.withoutNewcomer
    refine assures_releaseOnboarding there ((Node.cleanup_spec acc hn).mono ?_ ?_ ?_)
    · exact fun p hp => awaits.placeNewcomer rfl led hp.toInHand
    · exact fun _ p hp => ⟨awaits.inOrder hp.2.2, rfl, rfl, rfl, rfl⟩
    · exact fun _ p hp => ⟨awaits.strand hp, rfl, rfl, rfl, rfl⟩

/-! ### The coordinator -/

theorem bringUpCoordinator_spec (awaits : c.Awaits i) (vacant : c.coordinator = none)
    (hn : n.InHand held i (c.estate + extra) w) (fresh : n.phase = .created)
    (unclaimed : n.claimed = false) :
    Assures (Beside env) (Order held extra)
      (fun _ p => ∃ n', p.1 = c.withLead n' ∧ n'.phase = .running ∧
        n'.InHand held i (c.estate + extra) p.2)
      (fun _ p => ∃ n', p.1 = c.withLead n' ∧ n'.InHand held i (c.estate + extra) p.2)
      (bringUpCoordinator host) (c.withLead n, w) := by
  unfold bringUpCoordinator
  simp only [Task.assures_bind, assures_current, withLead_coordinator]
  refine assures_onCoordinator ((Node.prepare_spec acc hn fresh unclaimed).mono ?_ ?_ ?_)
  · exact fun p hp => awaits.placeLead vacant hp
  · rintro - ⟨n', w'⟩ ⟨hn', running⟩
    simp only [assures_current, withLead_coordinator, assures_outside]
    exact Node.installExtension_keeps (acc.execute _ _ _ _) hn'.estate
      (fun w h => awaits.placeLead vacant (hn'.still h))
      (fun w h => ⟨n', rfl, running, hn'.still h⟩) fun _ w h => ⟨n', rfl, hn'.still h⟩
  · exact fun _ p hp => ⟨p.1, rfl, hp⟩

/-- **Bootstrapping** keeps the cluster in order. -/
theorem bootstrap_spec (h : c.InOrder held extra w) :
    Assures (Beside env) (Order held extra) (fun _ => Order held extra) (fun _ => Order held extra)
      (bootstrap host name port) (c, w) := by
  unfold bootstrap
  simp only [Task.assures_bind, assures_current, Task.assures_ite]
  rcases vacant : c.coordinator with _ | _
  · simp only [Option.isSome_none, Bool.false_eq_true, if_false, Task.assures_liftExcept]
    rcases checked : c.checkIdentity (.under c.config.baseDirectory name port) with _ | _
    · exact h
    · have awaits := h.awaits ((checkIdentity_eq_ok h.tidy).1 checked)
      have unrecorded : c.membership.coordinator = none := by
        by_contra hi
        obtain ⟨i, hi⟩ := Option.ne_none_iff_exists'.1 hi
        obtain ⟨n, hn, -⟩ := h.agrees.led i hi
        rw [vacant] at hn
        cases hn
      simp only [assures_change, Task.assures_tryCatch]
      refine (bringUpCoordinator_spec acc awaits vacant (.create h.estate) rfl rfl).mono
        (fun _ hp => hp) ?_ ?_
      · rintro - ⟨_, w'⟩ ⟨n, rfl, running, hn⟩
        simp only [Task.assures_bind, assures_current, withLead_coordinator, assures_change,
          Task.assures_pure]
        exact awaits.record vacant hn running
      · rintro e ⟨_, w'⟩ ⟨n, rfl, hn⟩
        refine Task.assures_bind.2 ((releaseCoordinator_spec acc
          (awaits.placeLead vacant hn) unrecorded).mono (fun _ hp => hp) ?_ fun _ _ => False.elim)
        exact fun _ p hp => Task.assures_throw.2 hp
  · simpa using h

/-! ### Workers -/

theorem onboard_spec {connection : ConnectionString} (awaits : c.Awaits i)
    (vacant : c.onboarding = none) (led : c.membership.coordinator ≠ none)
    (hn : n.InHand held i (c.estate + extra) w) (fresh : n.phase = .created)
    (unclaimed : n.claimed = false) :
    Assures (Beside env) (Order held extra)
      (fun _ p => ∃ n', p.1 = c.withNewcomer n' ∧ n'.phase = .running ∧
        n'.InHand held i (c.estate + extra) p.2)
      (fun _ p => ∃ n', p.1 = c.withNewcomer n' ∧ n'.InHand held i (c.estate + extra) p.2)
      (onboard host connection) (c.withNewcomer n, w) := by
  unfold onboard
  simp only [Task.assures_bind, assures_current, withNewcomer_onboarding, Task.assures_ite]
  split
  · simp only [Task.assures_throw]
    exact ⟨n, rfl, hn⟩
  · refine assures_onOnboarding ((Node.prepare_spec acc hn fresh unclaimed).mono ?_ ?_ ?_)
    · exact fun p hp => awaits.placeNewcomer vacant led hp
    · rintro - ⟨n', w'⟩ ⟨hn', running⟩
      simp only [Task.assures_bind, assures_current, withNewcomer_onboarding, assures_outside]
      have waiting : ∀ w, held (n'.estate + (c.estate + extra)) w →
          Order held extra (c.withNewcomer n', w) := fun w h =>
        awaits.placeNewcomer vacant led (hn'.still h)
      refine Node.installExtension_keeps (acc.execute _ _ _ _) hn'.estate waiting (fun w h => ?_)
        fun _ w h => ⟨n', rfl, hn'.still h⟩
      split
      · simp only [Task.assures_bind, assures_outside]
        refine Node.runSql_keeps (acc.execute _ _ _ _) h waiting (fun _ w h => ?_)
          fun _ w h => ⟨n', rfl, hn'.still h⟩
        exact Task.assures_pure.2 ⟨n', rfl, running, hn'.still h⟩
      · exact Task.assures_throw.2 ⟨n', rfl, hn'.still h⟩
    · exact fun _ p hp => ⟨p.1, rfl, hp⟩

/-- **Adding a worker** keeps the cluster in order. -/
theorem addWorker_spec (h : c.InOrder held extra w) :
    Assures (Beside env) (Order held extra) (fun _ => Order held extra) (fun _ => Order held extra)
      (addWorker host name port) (c, w) := by
  unfold addWorker
  simp only [Task.assures_bind, assures_current]
  rcases led : c.membership.coordinator with _ | lead
  · simpa using h
  have recorded : c.membership.coordinator ≠ none := by simp [led]
  simp only [Task.assures_bind, Task.assures_ite]
  split
  · simpa using h
  rename_i sized
  refine (releaseOnboarding_spec acc h recorded).mono (fun _ hp => hp) ?_ fun _ _ => False.elim
  rintro - ⟨c', w'⟩ ⟨h', vacant, members, workers, config⟩
  simp only at h' vacant members workers config
  simp only [assures_current, Task.assures_tryCatch, Task.assures_liftExcept]
  rcases checked : c'.checkIdentity (.under c.config.baseDirectory name port) with _ | _
  · exact Task.assures_throw.2 h'
  have awaits := h'.awaits ((checkIdentity_eq_ok h'.tidy).1 checked)
  have recorded' : c'.membership.coordinator ≠ none := by rwa [members]
  have room : c'.workers.length < c'.config.plannedWorkers := by
    rw [h.agrees.enrolled, List.length_map] at sized
    rw [workers, config]
    omega
  simp only [assures_change]
  refine (onboard_spec acc awaits vacant recorded' (.create h'.estate) rfl rfl).mono
    (fun _ hp => hp) ?_ ?_
  · rintro - ⟨_, w''⟩ ⟨n, rfl, running, hn⟩
    simp only [Task.assures_bind, assures_current, withNewcomer_onboarding, assures_change,
      Task.assures_pure]
    exact awaits.enrol vacant recorded' room hn running
  · rintro e ⟨_, w''⟩ ⟨n, rfl, hn⟩
    refine Task.assures_bind.2 ((releaseOnboarding_spec acc
      (awaits.placeNewcomer vacant recorded' hn) recorded').mono (fun _ hp => hp) ?_
      fun _ _ => False.elim)
    exact fun _ p hp => Task.assures_throw.2 hp.1

/-! ### Statements -/

theorem executeOnCoordinator_spec {statement : String} (h : c.InOrder held extra w) :
    Assures (Beside env) (Order held extra) (fun _ => Order held extra) (fun _ => Order held extra)
      (executeOnCoordinator host statement) (c, w) := by
  unfold executeOnCoordinator
  simp only [Task.assures_bind, assures_current, Task.assures_ite]
  split
  · simpa using h
  · rcases c.coordinator with _ | lead
    · simpa using h
    · simp only [assures_outside]
      exact Node.runSql_keeps (acc.execute _ _ _ _) h.estate (fun _ => h.still)
        (fun _ _ => h.still) fun _ _ => h.still

theorem runOnNode_spec {statement : String} (h : c.InOrder held extra w) :
    Assures (Beside env) (Order held extra) (fun _ => Order held extra) (fun _ => Order held extra)
      (runOnNode host name statement) (c, w) := by
  unfold runOnNode
  simp only [Task.assures_bind, assures_current]
  split
  · simp only [assures_outside]
    exact Node.runSql_keeps (acc.execute _ _ _ _) h.estate (fun _ => h.still) (fun _ _ => h.still)
      fun _ _ => h.still
  · exact Task.assures_throw.2 h

end Specs

end Cluster

end ShardCluster
