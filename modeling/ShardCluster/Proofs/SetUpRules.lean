import ShardCluster.Proofs.FailedSetUps

/-!
# How set-ups go

One rule for each of the two calls that bring up a node: what such a call guarantees follows from
what setting the node up guarantees, from its last steps, and from the release of the node where one
of them fails (`assures_bootstrap`, `assures_addWorker`). A call that adds a worker first clears the
place for it, and then goes on as it would have begun there (`leads_addWorker`).
-/

namespace ShardCluster

open ShardCluster.Task (Ensures Assures Beside Leads)

namespace Task

variable {S α : Type} {env : S → S → Prop}

lemma leads_exists (t : Task S α) (s : S) : ∃ r s', Leads env t s r s' := by
  induction t generalizing s with
  | done a => exact ⟨_, _, .done a s⟩
  | act effect next ih =>
    obtain ⟨r, s', led⟩ := ih s (effect s)
    exact ⟨r, s', .act led⟩
  | pause delay wake next => exact ⟨_, _, .wait delay wake next s⟩

section Operations

variable {ε : Type} {I : S → Prop} {Q Q' : α → S → Prop} {E E' : ε → S → Prop}
  {x : ExceptT ε (Task S) α} {s : S}

lemma assures_congr {K : α → S → Prop} {F : ε → S → Prop}
    (known : Assures env (fun _ => True) K F x s) (hQ : ∀ a s, K a s → (Q a s ↔ Q' a s))
    (hE : ∀ e s, F e s → (E e s ↔ E' e s)) : Assures env I Q E x s ↔ Assures env I Q' E' x s := by
  constructor
  · exact fun h => (known.and h).mono (fun _ h => h.2) (fun a s h => (hQ a s h.1).1 h.2)
      fun e s h => (hE e s h.1).1 h.2
  · exact fun h => (known.and h).mono (fun _ h => h.2) (fun a s h => (hQ a s h.1).2 h.2)
      fun e s h => (hE e s h.1).2 h.2

lemma leads_iff_of_assures {C : Option (Except ε α) → S → Prop} {r : Option (Except ε α)} {s' : S}
    (h : ∀ R : Option (Except ε α) → S → Prop,
      Assures env (R none) (fun a => R (some (.ok a))) (fun e => R (some (.error e))) x s ↔
        ∀ r s', C r s' → R r s') :
    Leads env x.run s r s' ↔ C r s' := by
  constructor
  · intro led
    have := (h C).2 (fun _ _ here => here) r s' led
    rcases r with _ | _ | _
    · exact this
    · exact this
    · exact this
  · exact (h (Leads env x.run s)).1 assures_leads r s'

end Operations

end Task

namespace Cluster

variable {P W : Type} {env : W → W → Prop} {host : Host P W} {I : Cluster P × W → Prop}
  {Q : Identity → Cluster P × W → Prop} {E : ClusterError → Cluster P × W → Prop} {c : Cluster P}
  {n : Node P} {w : W} {name : String} {port : UInt16}

/-- The node in a place of the cluster is released there after an error, and kept elsewhere if that
fails. -/
def Dismisses (env : W → W → Prop) (host : Host P W) (place : Cluster P → Node P → Cluster P)
    (I : Cluster P × W → Prop) (E : ClusterError → Cluster P × W → Prop) (c : Cluster P)
    (e : ClusterError) (p : Node P × W) : Prop :=
  Assures (Beside env) (fun p => I (place c p.1, p.2)) (fun _ p => E e (c, p.2))
    (fun _ p => E e (settle p.1 false c, p.2)) (Node.cleanup host) p

/-! ### The coordinator -/

lemma assures_bringUpCoordinator {Q : Unit → Cluster P × W → Prop}
    (h : Assures (Beside env) (fun p => I (c.withLead p.1, p.2))
      (fun _ p => Assures env (fun w => I (c.withLead p.1, w)) (fun _ w => Q () (c.withLead p.1, w))
        (fun e w => E e (c.withLead p.1, w)) (installExtension host p.1 c.config.dbname) p.2)
      (fun e p => E e (c.withLead p.1, p.2))
      (prepare host (c.template.render .coordinator n.identity
        (n.identity.connectionString c.config.dbname))) (n, w)) :
    Assures (Beside env) I Q E (bringUpCoordinator host) (c.withLead n, w) := by
  unfold bringUpCoordinator
  simp only [Task.assures_bind, assures_current, withLead_coordinator]
  refine assures_onCoordinator (h.mono (fun _ h => h) ?_ fun _ _ h => h)
  rintro - ⟨n', w'⟩ h
  simp only [assures_current, withLead_coordinator, assures_outside]
  exact h

lemma assures_bootstrap_refused {e : ClusterError} (vacant : c.coordinator = none)
    (refused : c.checkIdentity (.under c.config.baseDirectory name port) = .error e)
    (h : E e (c, w)) : Assures (Beside env) I Q E (bootstrap host name port) (c, w) := by
  unfold bootstrap
  simp only [Task.assures_bind, assures_current, vacant, Option.isSome_none, Bool.false_eq_true,
    if_false, Task.assures_liftExcept, refused]
  exact h

/-- **What bootstrapping guarantees**, where the place is free and so is the identity. -/
theorem assures_bootstrap (vacant : c.coordinator = none)
    (free : c.checkIdentity (.under c.config.baseDirectory name port) = .ok ())
    (h : Assures (Beside env) (fun p => I (c.withLead p.1, p.2))
      (fun _ p => Assures env (fun w => I (c.withLead p.1, w))
        (fun _ w => Q p.1.identity ({ c.withLead p.1 with
          membership := { c.membership with coordinator := some p.1.identity } }, w))
        (fun e w => Dismisses env host withLead I E c e (p.1, w))
        (installExtension host p.1 c.config.dbname) p.2)
      (Dismisses env host withLead I E c)
      (prepare host (c.template.render .coordinator (.under c.config.baseDirectory name port)
        (Identity.connectionString (.under c.config.baseDirectory name port) c.config.dbname)))
      (.create (.under c.config.baseDirectory name port) c.config.startTimeout, w)) :
    Assures (Beside env) I Q E (bootstrap host name port) (c, w) := by
  have dismissed {Q : Unit → Cluster P × W → Prop} (e : ClusterError) (p : Node P × W)
      (h : Dismisses env host withLead I E c e p) :
      Assures (Beside env) I (fun _ => Assures (Beside env) I Q E (throw e)) E
        (releaseCoordinator host) (c.withLead p.1, p.2) := by
    refine assures_releaseCoordinator rfl (h.mono (fun _ h => h) ?_ ?_)
    · intro _ p h
      rw [withLead_vacant vacant]
      exact Task.assures_throw.2 h
    · intro _ p h
      rw [withLead_vacant vacant]
      exact Task.assures_throw.2 h
  unfold bootstrap
  simp only [Task.assures_bind, assures_current, vacant, Option.isSome_none, Bool.false_eq_true,
    if_false, Task.assures_liftExcept, free, assures_change, Task.assures_tryCatch]
  refine assures_bringUpCoordinator (n := .create _ _) (h.mono (fun _ h => h) ?_ dismissed)
  rintro - ⟨n, w'⟩ h
  refine h.mono (fun _ h => h) (fun _ w h => ?_) fun e w h => dismissed e (n, w) h
  simp only [Task.assures_bind, assures_current, withLead_coordinator, assures_change,
    Task.assures_pure]
  exact h

/-! ### Workers -/

/-- What is checked before the place for a new worker is cleared: a coordinator is recorded, and
there is room. -/
structure Admits (c : Cluster P) (lead : Identity) : Prop where
  led : c.membership.coordinator = some lead
  room : c.membership.workers.length < c.config.plannedWorkers

lemma Admits.not_full {lead : Identity} (h : c.Admits lead) :
    ¬ c.membership.workers.length ≥ c.config.plannedWorkers :=
  not_le.2 h.room

lemma assures_releaseOnboarding_vacant {Q : Unit → Cluster P × W → Prop}
    (vacant : c.onboarding = none) :
    Assures (Beside env) I Q E (releaseOnboarding host) (c, w) ↔ Q () (c, w) := by
  unfold releaseOnboarding
  simp only [Task.assures_bind, assures_current, vacant, Option.isSome_none, Bool.false_eq_true,
    if_false, Task.assures_pure]

lemma releaseOnboarding_keeps :
    Assures (Beside env) (fun _ => True)
      (fun _ p => c.SameMembers p.1 ∧ p.1.onboarding = none) (fun _ _ => False)
      (releaseOnboarding host) (c, w) := by
  rcases there : c.onboarding with _ | old
  · exact (assures_releaseOnboarding_vacant there).2 ⟨⟨rfl, rfl, rfl, rfl, rfl⟩, there⟩
  · refine assures_releaseOnboarding there (Task.assures_of_forall (fun _ => trivial) ?_ ?_)
    · exact fun _ _ => ⟨⟨rfl, rfl, rfl, rfl, rfl⟩, rfl⟩
    · exact fun _ _ => ⟨⟨rfl, rfl, rfl, rfl, rfl⟩, rfl⟩

lemma Admits.same {c' : Cluster P} {lead : Identity} (h : c.Admits lead) (same : c.SameMembers c') :
    c'.Admits lead := by
  refine ⟨?_, ?_⟩
  · rw [same.membership]
    exact h.led
  · rw [same.membership, same.config]
    exact h.room

/-- **Adding a worker first clears the place**, and goes on from there as it would have begun. -/
theorem assures_addWorker_cleared {lead : Identity} (admits : c.Admits lead) :
    Assures (Beside env) I Q E (addWorker host name port) (c, w) ↔
      Assures (Beside env) I (fun _ p => Assures (Beside env) I Q E (addWorker host name port) p)
        (fun _ _ => False) (releaseOnboarding host) (c, w) := by
  conv_lhs => unfold addWorker
  simp only [Task.assures_bind, assures_current, admits.led, if_neg admits.not_full]
  refine Task.assures_congr releaseOnboarding_keeps ?_ fun _ _ => False.elim
  rintro - ⟨c', w'⟩ ⟨same, vacant⟩
  simp only at same vacant
  have led' := (admits.same same).led
  have full' := (admits.same same).not_full
  rw [same.config] at full'
  -- begun in the cleared place, the call has nothing to release
  unfold addWorker
  simp only [Task.assures_bind, assures_current, led', same.config, if_neg full',
    assures_releaseOnboarding_vacant vacant]

theorem leads_addWorker {lead : Identity} (admits : c.Admits lead)
    {r : Option (Except ClusterError Identity)} {s' : Cluster P × W} :
    Leads (Beside env) (addWorker host name port).run (c, w) r s' ↔
      r = none ∧ Leads (Beside env) (releaseOnboarding host).run (c, w) none s' ∨
      ∃ s₁, Leads (Beside env) (releaseOnboarding host).run (c, w) (some (.ok ())) s₁ ∧
        Leads (Beside env) (addWorker host name port).run s₁ r s' := by
  refine Task.leads_iff_of_assures
    (C := fun r s' => r = none ∧ Leads (Beside env) (releaseOnboarding host).run (c, w) none s' ∨
      ∃ s₁, Leads (Beside env) (releaseOnboarding host).run (c, w) (some (.ok ())) s₁ ∧
        Leads (Beside env) (addWorker host name port).run s₁ r s') fun R => ?_
  rw [assures_addWorker_cleared admits]
  constructor
  · rintro h r s' (⟨rfl, waits⟩ | ⟨s₁, cleared, led⟩)
    · exact h _ _ waits
    · have := h _ _ cleared r s' led
      rcases r with _ | _ | _
      · exact this
      · exact this
      · exact this
  · intro h
    refine (Task.assures_leads.and releaseOnboarding_keeps).mono ?_ ?_ fun _ _ h => h.2
    · exact fun s' waits => h none s' (.inl ⟨rfl, waits.1⟩)
    · rintro ⟨⟩ s₁ ⟨cleared, -⟩
      exact Task.assures_leads.mono (fun s' led => h _ s' (.inr ⟨s₁, cleared, led⟩))
        (fun _ s' led => h _ s' (.inr ⟨s₁, cleared, led⟩))
        fun _ s' led => h _ s' (.inr ⟨s₁, cleared, led⟩)

lemma assures_onboard {Q : Unit → Cluster P × W → Prop} {lead : Node P}
    {connection : ConnectionString} (there : c.coordinator = some lead)
    (h : Assures (Beside env) (fun p => I (c.withNewcomer p.1, p.2))
      (fun _ p => Assures env (fun w => I (c.withNewcomer p.1, w))
        (fun _ w => Assures env (fun w => I (c.withNewcomer p.1, w))
          (fun _ w => Q () (c.withNewcomer p.1, w)) (fun e w => E e (c.withNewcomer p.1, w))
          (lead.runSql host c.config.dbname
            (Sql.addNode (p.1.identity.connectionString c.config.dbname))) w)
        (fun e w => E e (c.withNewcomer p.1, w)) (installExtension host p.1 c.config.dbname) p.2)
      (fun e p => E e (c.withNewcomer p.1, p.2))
      (prepare host (c.template.render .worker n.identity connection)) (n, w)) :
    Assures (Beside env) I Q E (onboard host connection) (c.withNewcomer n, w) := by
  have stays (n : Node P) : (c.withNewcomer n).coordinator = some lead := there
  unfold onboard
  simp only [Task.assures_bind, assures_current, withNewcomer_onboarding, stays,
    Option.isNone_some, Bool.false_eq_true, if_false]
  refine assures_onOnboarding (h.mono (fun _ h => h) ?_ fun _ _ h => h)
  rintro - ⟨n', w'⟩ h
  simp only [Task.assures_bind, assures_current, withNewcomer_onboarding, stays, assures_outside,
    Task.assures_pure]
  exact h

/-- An identity that is in conflict with a node is refused once the place is clear. -/
lemma assures_addWorker_refused {lead : Identity} {e : ClusterError} (admits : c.Admits lead)
    (vacant : c.onboarding = none)
    (refused : c.checkIdentity (.under c.config.baseDirectory name port) = .error e)
    (h : E (.addWorker name e) (c, w)) :
    Assures (Beside env) I Q E (addWorker host name port) (c, w) := by
  unfold addWorker
  simp only [Task.assures_bind, assures_current, admits.led, if_neg admits.not_full,
    assures_releaseOnboarding_vacant vacant, Task.assures_tryCatch, Task.assures_liftExcept,
    refused, Task.assures_throw]
  exact h

/-- **What adding a worker guarantees**, where the place is free and so is the identity. -/
theorem assures_addWorker {recorded : Identity} {lead : Node P} (admits : c.Admits recorded)
    (there : c.coordinator = some lead) (vacant : c.onboarding = none)
    (free : c.checkIdentity (.under c.config.baseDirectory name port) = .ok ())
    (h : Assures (Beside env) (fun p => I (c.withNewcomer p.1, p.2))
      (fun _ p => Assures env (fun w => I (c.withNewcomer p.1, w))
        (fun _ w => Assures env (fun w => I (c.withNewcomer p.1, w))
          (fun _ w => Q p.1.identity ({ c with
            membership := c.membership.addWorker p.1.identity, workers := c.workers ++ [p.1] }, w))
          (fun e w => Dismisses env host withNewcomer I (fun e => E (.addWorker name e)) c e
            (p.1, w))
          (lead.runSql host c.config.dbname
            (Sql.addNode (p.1.identity.connectionString c.config.dbname))) w)
        (fun e w => Dismisses env host withNewcomer I (fun e => E (.addWorker name e)) c e (p.1, w))
        (installExtension host p.1 c.config.dbname) p.2)
      (Dismisses env host withNewcomer I (fun e => E (.addWorker name e)) c)
      (prepare host (c.template.render .worker (.under c.config.baseDirectory name port)
        (recorded.connectionString c.config.dbname)))
      (.create (.under c.config.baseDirectory name port) c.config.startTimeout, w)) :
    Assures (Beside env) I Q E (addWorker host name port) (c, w) := by
  have dismissed {Q : Unit → Cluster P × W → Prop} (e : ClusterError) (p : Node P × W)
      (h : Dismisses env host withNewcomer I (fun e => E (.addWorker name e)) c e p) :
      Assures (Beside env) I (fun _ => Assures (Beside env) I Q E (throw (.addWorker name e))) E
        (releaseOnboarding host) (c.withNewcomer p.1, p.2) := by
    refine assures_releaseOnboarding rfl (h.mono (fun _ h => h) ?_ ?_)
    · intro _ p h
      rw [withNewcomer_vacant vacant]
      exact Task.assures_throw.2 h
    · intro _ p h
      rw [withNewcomer_vacant vacant]
      exact Task.assures_throw.2 h
  unfold addWorker
  simp only [Task.assures_bind, assures_current, admits.led, if_neg admits.not_full,
    assures_releaseOnboarding_vacant vacant, Task.assures_tryCatch, Task.assures_liftExcept, free,
    assures_change]
  refine assures_onboard (n := .create _ _) there (h.mono (fun _ h => h) ?_ dismissed)
  rintro - ⟨n, w'⟩ h
  refine h.mono (fun _ h => h) (fun _ w h => ?_) fun e w h => dismissed e (n, w) h
  refine h.mono (fun _ h => h) (fun _ w h => ?_) fun e w h => dismissed e (n, w) h
  simp only [Task.assures_bind, assures_current, withNewcomer_onboarding, assures_change,
    Task.assures_pure]
  have gone : ({ c.withNewcomer n with
      onboarding := none
      membership := c.membership.addWorker n.identity
      workers := c.workers ++ [n] } : Cluster P) =
      { c with membership := c.membership.addWorker n.identity, workers := c.workers ++ [n] } := by
    rw [← vacant]
    rfl
  exact gone ▸ h

end Cluster

end ShardCluster
