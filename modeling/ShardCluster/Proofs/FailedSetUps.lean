import ShardCluster.Proofs.Dismissals

/-!
# Failed set-ups

A coordinator or a worker that cannot be set up leaves the cluster as it was. `bootstrap_fails` and
`addWorker_fails` say how a call that fails has gone: either it was refused as a whole, or the place
it uses was cleared, the new node was set up in vain there and has been dismissed.
`History.failed_set_ups` draws the conclusion for every cluster that can come about: its members are
the same and so is what they have out there, the place is free again, and a node whose clean-up has
failed as well is the last of the stranded ones.
-/

namespace ShardCluster

open ShardCluster.Task (Ensures Assures Beside Leads)

variable {P W : Type} {env : W → W → Prop} {host : Host P W}

namespace Cluster

/-- **A cleared place for a new worker**: it was free, or the worker that an earlier call had left
there has been dismissed. -/
inductive Vacated (env : W → W → Prop) (host : Host P W) (c : Cluster P) (w : W) :
    Cluster P × W → Prop
  | vacant : c.onboarding = none → Vacated env host c w (c, w)
  | leftover {old n' : Node P} {outcome : Except ClusterError Unit} {w' : W} :
      c.onboarding = some old → Node.Dismissed env host w old w outcome n' w' →
      Vacated env host c w (settle n' outcome.toBool { c with onboarding := none }, w')

/-- **A failed set-up** of a node of that identity in a place of the cluster: the identity was
refused, or the node was set up in vain and has been dismissed, and kept if that failed. -/
inductive SetUpFails (env : W → W → Prop) (host : Host P W)
    (place : Cluster P → Node P → Cluster P) (setUp : ClusterAction P W Unit) (i : Identity)
    (c : Cluster P) (w : W) (e : ClusterError) : Cluster P × W → Prop
  | refused : c.checkIdentity i = .error e → SetUpFails env host place setUp i c w e (c, w)
  | vain {n n' : Node P} {outcome : Except ClusterError Unit} {w₁ w' : W} :
      Leads (Beside env) setUp.run (place c (.create i c.config.startTimeout), w)
        (some (.error e)) (place c n, w₁) →
      n.identity = i → Node.Dismissed env host w n w₁ outcome n' w' →
      SetUpFails env host place setUp i c w e (settle n' outcome.toBool c, w')

/-- The cluster is the same but for the place of a new worker and the stranded nodes. -/
structure SameMembers (c c' : Cluster P) : Prop where
  config : c'.config = c.config
  template : c'.template = c.template
  membership : c'.membership = c.membership
  coordinator : c'.coordinator = c.coordinator
  workers : c'.workers = c.workers

/-- **What a failed call leaves behind**: the members as they were, with all that they have out
there, and nothing in the place that it used. A precondition that does not hold changes nothing. -/
structure Failed (env : W → W → Prop) (host : Host P W) (place : Cluster P → Option (Node P))
    (c : Cluster P) (w : W) (e : ClusterError) (c' : Cluster P) (w' : W) : Prop where
  members : c.SameMembers c'
  refused : e.isPrecondition = true → (c', w') = (c, w)
  cleared : e.isPrecondition = false → place c' = none
  estate : ∀ held lost, host.Accounts env held → held (c.estate + lost) w →
    held (c'.estate + lost) w'

section Specs

variable {J : W → Prop} {c : Cluster P} {n : Node P} {w : W} {i : Identity} {extra : Estate P}
  {name dbname : String} {port : UInt16}

lemma sameMembers_settle {released : Bool} : c.SameMembers (settle n released c) := by
  cases released <;> exact ⟨rfl, rfl, rfl, rfl, rfl⟩

lemma SameMembers.trans {c₁ c₂ : Cluster P} (h : c.SameMembers c₁) (h' : c₁.SameMembers c₂) :
    c.SameMembers c₂ where
  config := h'.config.trans h.config
  template := h'.template.trans h.template
  membership := h'.membership.trans h.membership
  coordinator := h'.coordinator.trans h.coordinator
  workers := h'.workers.trans h.workers

lemma Vacated.sameMembers {c' : Cluster P} {w' : W} (h : Vacated env host c w (c', w')) :
    c.SameMembers c' ∧ c'.onboarding = none := by
  cases h with
  | vacant vacant => exact ⟨⟨rfl, rfl, rfl, rfl, rfl⟩, vacant⟩
  | @leftover _ _ outcome _ _ _ =>
    have same : c.SameMembers { c with onboarding := none } := ⟨rfl, rfl, rfl, rfl, rfl⟩
    refine ⟨same.trans sameMembers_settle, ?_⟩
    cases outcome <;> rfl

lemma SetUpFails.sameMembers {place : Cluster P → Node P → Cluster P}
    {setUp : ClusterAction P W Unit} {e : ClusterError} {c' : Cluster P} {w' : W}
    (h : SetUpFails env host place setUp i c w e (c', w')) :
    c.SameMembers c' ∧ c'.onboarding = c.onboarding := by
  cases h with
  | refused _ => exact ⟨⟨rfl, rfl, rfl, rfl, rfl⟩, rfl⟩
  | @vain _ _ outcome _ _ _ _ _ =>
    refine ⟨sameMembers_settle, ?_⟩
    cases outcome <;> rfl

lemma withLead_vacant (vacant : c.coordinator = none) :
    { c.withLead n with coordinator := none } = c := by
  cases c
  cases vacant
  rfl

lemma withNewcomer_vacant (vacant : c.onboarding = none) :
    { c.withNewcomer n with onboarding := none } = c := by
  cases c
  cases vacant
  rfl

lemma bringUpCoordinator_vain (kept : host.KeptByAsking env J) (hJ : J w) :
    Assures (Beside env) (fun _ => True) (fun _ _ => True)
      (fun e p => ∃ n', p.1 = c.withLead n' ∧ Node.Vain J e (n', p.2))
      (bringUpCoordinator host) (c.withLead n, w) := by
  unfold bringUpCoordinator
  simp only [Task.assures_bind, assures_current, withLead_coordinator]
  refine assures_onCoordinator ((Node.prepare_vain kept hJ).mono (fun _ _ => trivial) ?_
    fun _ p h => ⟨p.1, rfl, h⟩)
  rintro - ⟨n', w'⟩ claimed
  simp only [assures_current, withLead_coordinator, assures_outside]
  refine Node.installExtension_keeps Task.keeps_true trivial (fun _ _ => trivial)
    (fun _ _ => trivial) fun _ w _ => ⟨n', rfl, rfl, fun unclaimed => ?_⟩
  rw [show n'.claimed = true from claimed] at unclaimed
  cases unclaimed

lemma onboard_vain {connection : ConnectionString} (kept : host.KeptByAsking env J) (hJ : J w) :
    Assures (Beside env) (fun _ => True) (fun _ _ => True)
      (fun e p => ∃ n', p.1 = c.withNewcomer n' ∧ Node.Vain J e (n', p.2))
      (onboard host connection) (c.withNewcomer n, w) := by
  unfold onboard
  simp only [Task.assures_bind, assures_current, withNewcomer_onboarding, Task.assures_ite]
  split
  · exact Task.assures_throw.2 ⟨n, rfl, rfl, fun _ => hJ⟩
  refine assures_onOnboarding ((Node.prepare_vain kept hJ).mono (fun _ _ => trivial) ?_
    fun _ p h => ⟨p.1, rfl, h⟩)
  rintro - ⟨n', w'⟩ claimed
  have failed {e : ClusterError} {w : W} (h : e.isPrecondition = false) :
      ∃ m, c.withNewcomer n' = c.withNewcomer m ∧ Node.Vain J e (m, w) := by
    refine ⟨n', rfl, h, fun unclaimed => ?_⟩
    rw [show n'.claimed = true from claimed] at unclaimed
    cases unclaimed
  simp only [Task.assures_bind, assures_current, withNewcomer_onboarding, assures_outside]
  refine Node.installExtension_keeps Task.keeps_true trivial (fun _ _ => trivial)
    (fun w _ => ?_) fun _ w _ => failed rfl
  split
  · simp only [Task.assures_bind, assures_outside]
    exact Node.runSql_keeps Task.keeps_true trivial (fun _ _ => trivial)
      (fun _ _ _ => Task.assures_pure.2 trivial) fun _ w _ => failed rfl
  · exact Task.assures_throw.2 (failed rfl)

lemma checkIdentity_error {e : ClusterError} (h : c.checkIdentity i = .error e) :
    e.isPrecondition = false := by
  unfold checkIdentity at h
  split at h <;> cases h
  rfl

/-- **Bootstrapping that fails** was refused as a whole, or the set-up of the coordinator has
failed. -/
theorem bootstrap_fails (h : c.InOrder (fun _ _ => True) extra w) :
    Assures (Beside env) (fun _ => True) (fun _ _ => True)
      (fun e p => e.isPrecondition = true ∧ p = (c, w) ∨
        e.isPrecondition = false ∧ c.coordinator = none ∧
          SetUpFails env host withLead (bringUpCoordinator host)
            (.under c.config.baseDirectory name port) c w e p)
      (bootstrap host name port) (c, w) := by
  unfold bootstrap
  simp only [Task.assures_bind, assures_current, Task.assures_ite]
  split
  · exact Task.assures_throw.2 (.inl ⟨rfl, rfl⟩)
  rename_i lacking
  have vacant : c.coordinator = none := by simpa using lacking
  simp only [Task.assures_liftExcept]
  rcases checked : c.checkIdentity (.under c.config.baseDirectory name port) with e | _
  · exact .inr ⟨checkIdentity_error checked, vacant, .refused checked⟩
  have awaits := h.awaits ((checkIdentity_eq_ok h.tidy).1 checked)
  have hn : Node.InHand (fun _ _ => True) _ (c.estate + extra)
      (.create (.under c.config.baseDirectory name port) c.config.startTimeout) w := .create trivial
  simp only [assures_change, Task.assures_tryCatch]
  refine (Task.assures_leads.and (bringUpCoordinator_spec (accounts_nothing env host) awaits vacant
    hn rfl rfl)).mono (fun _ _ => trivial) ?_ ?_
  · rintro - ⟨_, w'⟩ ⟨-, n, rfl, -⟩
    simp only [Task.assures_bind, assures_current, withLead_coordinator, assures_change,
      Task.assures_pure]
  · rintro e ⟨_, w'⟩ ⟨led, n, rfl, hn⟩
    have vain {J : W → Prop} (kept : host.KeptByAsking env J) (hJ : J w) :
        Node.Vain J e (n, w') := by
      obtain ⟨m, same, hm⟩ := bringUpCoordinator_vain kept hJ _ _ led
      obtain rfl : n = m := Option.some.inj (congrArg coordinator same)
      exact hm
    refine Task.assures_bind.2 (assures_releaseCoordinator rfl ((Node.dismissed hn.sound hn.present
      fun unclaimed J kept hJ => (vain kept hJ).2 unclaimed).mono (fun _ _ => trivial) ?_ ?_))
    · rintro - p gone
      rw [withLead_vacant vacant]
      exact Task.assures_throw.2
        (.inr ⟨(vain Host.keptByAsking_true trivial).1, vacant, .vain led hn.identity gone⟩)
    · rintro _ p stranded
      rw [withLead_vacant vacant]
      exact Task.assures_throw.2
        (.inr ⟨(vain Host.keptByAsking_true trivial).1, vacant, .vain led hn.identity stranded⟩)

lemma releaseOnboarding_vacates (tidy : Tidy c.allocated) :
    Assures (Beside env) (fun _ => True) (fun _ p => Vacated env host c w p) (fun _ _ => False)
      (releaseOnboarding host) (c, w) := by
  rcases there : c.onboarding with _ | old
  · unfold releaseOnboarding
    simp only [Task.assures_bind, assures_current, there, Option.isSome_none, Bool.false_eq_true,
      if_false, Task.assures_pure]
    exact .vacant there
  · have kept : old ∈ c.allocated := by simp [allocated, there]
    refine assures_releaseOnboarding there ((Node.dismissed (tidy.sound old kept)
      (tidy.present old kept) fun _ _ _ hJ => hJ).mono (fun _ _ => trivial) ?_ ?_)
    · exact fun _ p gone => .leftover there gone
    · exact fun _ p stranded => .leftover there stranded

/-- **Adding a worker that fails** was refused as a whole, or the set-up of the worker has failed in
its cleared place. -/
theorem addWorker_fails (h : c.InOrder (fun _ _ => True) extra w) :
    Assures (Beside env) (fun _ => True) (fun _ _ => True)
      (fun e p => e.isPrecondition = true ∧ p = (c, w) ∨
        ∃ lead cause c₁ w₁, e = .addWorker name cause ∧ c.membership.coordinator = some lead ∧
          Vacated env host c w (c₁, w₁) ∧
          SetUpFails env host withNewcomer (onboard host (lead.connectionString c.config.dbname))
            (.under c.config.baseDirectory name port) c₁ w₁ cause p)
      (addWorker host name port) (c, w) := by
  unfold addWorker
  simp only [Task.assures_bind, assures_current]
  rcases led : c.membership.coordinator with _ | lead
  · exact Task.assures_throw.2 (.inl ⟨rfl, rfl⟩)
  have recorded : c.membership.coordinator ≠ none := by simp [led]
  simp only [Task.assures_bind, Task.assures_ite]
  split
  · exact Task.assures_throw.2 (.inl ⟨rfl, rfl⟩)
  refine ((releaseOnboarding_vacates h.tidy).and
    (releaseOnboarding_spec (accounts_nothing env host) h recorded)).mono (fun _ _ => trivial) ?_
    fun _ _ no => no.1.elim
  rintro - ⟨c₁, w₁⟩ ⟨vacated, h₁, vacant, members, -, config⟩
  simp only at h₁ vacant members config
  simp only [assures_current, Task.assures_tryCatch, Task.assures_liftExcept]
  rcases checked : c₁.checkIdentity (.under c.config.baseDirectory name port) with e | _
  · exact Task.assures_throw.2 (.inr ⟨lead, e, c₁, w₁, rfl, rfl, vacated, .refused checked⟩)
  have awaits := h₁.awaits ((checkIdentity_eq_ok h₁.tidy).1 checked)
  have hn : Node.InHand (fun _ _ => True) _ (c₁.estate + extra)
      (.create (.under c.config.baseDirectory name port) c₁.config.startTimeout) w₁ :=
    .create trivial
  simp only [assures_change]
  refine (Task.assures_leads.and (onboard_spec (accounts_nothing env host) awaits vacant
    (members ▸ recorded) hn rfl rfl)).mono (fun _ _ => trivial) ?_ ?_
  · rintro - ⟨_, w'⟩ ⟨-, n, rfl, -⟩
    simp only [Task.assures_bind, assures_current, withNewcomer_onboarding, assures_change,
      Task.assures_pure]
  · rintro e ⟨_, w'⟩ ⟨ended, n, rfl, hn⟩
    have asked (unclaimed : n.claimed = false) (J : W → Prop) (kept : host.KeptByAsking env J)
        (hJ : J w₁) : J w' := by
      obtain ⟨m, same, hm⟩ := onboard_vain kept hJ _ _ ended
      obtain rfl : n = m := Option.some.inj (congrArg onboarding same)
      exact hm.2 unclaimed
    refine Task.assures_bind.2 (assures_releaseOnboarding rfl ((Node.dismissed hn.sound hn.present
      asked).mono (fun _ _ => trivial) ?_ ?_))
    · rintro - p gone
      rw [withNewcomer_vacant vacant]
      exact Task.assures_throw.2
        (.inr ⟨lead, e, c₁, w₁, rfl, rfl, vacated, .vain ended hn.identity gone⟩)
    · rintro _ p stranded
      rw [withNewcomer_vacant vacant]
      exact Task.assures_throw.2
        (.inr ⟨lead, e, c₁, w₁, rfl, rfl, vacated, .vain ended hn.identity stranded⟩)

end Specs

end Cluster

/-- **Failed set-ups**, after any history and whatever the host does. When a worker cannot be added,
the place of a new worker has been cleared, and the identity was refused there or the node was set
up in vain and dismissed; when no coordinator can be set up, the same is true of its place. Unless
it is dismissed without failure, the node is the last of the stranded ones. -/
theorem History.failed_set_ups {config : Config} {c₀ c : Cluster P} {w₀ w : W}
    {events : List Event} (created : Cluster.create config = .ok c₀)
    (h : History env host (c₀, w₀) events (c, w)) (name : String) (port : UInt16) :
    (∀ e c' w', Leads (Beside env) (Cluster.addWorker host name port).run (c, w)
        (some (.error e)) (c', w') →
      c.Failed env host Cluster.onboarding w e c' w' ∧
      (e.isPrecondition = false → ∃ lead cause c₁ w₁, e = .addWorker name cause ∧
        c.membership.coordinator = some lead ∧ Cluster.Vacated env host c w (c₁, w₁) ∧
        Cluster.SetUpFails env host Cluster.withNewcomer
          (Cluster.onboard host (lead.connectionString c.config.dbname))
          (.under c.config.baseDirectory name port) c₁ w₁ cause (c', w'))) ∧
    ∀ e c' w', Leads (Beside env) (Cluster.bootstrap host name port).run (c, w)
        (some (.error e)) (c', w') →
      c.Failed env host Cluster.coordinator w e c' w' ∧
      (e.isPrecondition = false →
        Cluster.SetUpFails env host Cluster.withLead (Cluster.bringUpCoordinator host)
          (.under c.config.baseDirectory name port) c w e (c', w')) := by
  obtain ⟨_, ho⟩ := h.inOrder created
  refine ⟨fun e c' w' led => ?_, fun e c' w' led => ?_⟩
  · have estate (held : Estate P → W → Prop) (lost : Estate P) (acc : host.Accounts env held)
        (hw : held (c.estate + lost) w) : held (c'.estate + lost) w' :=
      (Cluster.addWorker_spec acc ⟨ho.tidy, ho.agrees, hw⟩ _ _ led).estate
    rcases Cluster.addWorker_fails ho _ _ led with ⟨early, ⟨⟩⟩ |
      ⟨lead, cause, c₁, w₁, rfl, recorded, vacated, fails⟩
    · exact ⟨⟨⟨rfl, rfl, rfl, rfl, rfl⟩, fun _ => rfl, fun late => by simp [early] at late, estate⟩,
        fun late => by simp [early] at late⟩
    · obtain ⟨same, vacant⟩ := vacated.sameMembers
      obtain ⟨same', place⟩ := fails.sameMembers
      exact ⟨⟨same.trans same', by rintro ⟨⟩, fun _ => place.trans vacant, estate⟩,
        fun _ => ⟨lead, cause, c₁, w₁, rfl, recorded, vacated, fails⟩⟩
  · have estate (held : Estate P → W → Prop) (lost : Estate P) (acc : host.Accounts env held)
        (hw : held (c.estate + lost) w) : held (c'.estate + lost) w' :=
      (Cluster.bootstrap_spec acc ⟨ho.tidy, ho.agrees, hw⟩ _ _ led).estate
    rcases Cluster.bootstrap_fails ho _ _ led with ⟨early, ⟨⟩⟩ | ⟨late, vacant, fails⟩
    · exact ⟨⟨⟨rfl, rfl, rfl, rfl, rfl⟩, fun _ => rfl, fun late => by simp [early] at late, estate⟩,
        fun late => by simp [early] at late⟩
    · have same := fails.sameMembers.1
      exact ⟨⟨same, fun early => by simp [late] at early, fun _ => same.coordinator.trans vacant,
        estate⟩, fun _ => fails⟩

open Scenario (Floor)

/-- a floor on which no worker can be registered, and the first one does not stop -/
def Scenario.Floor.refusing : Floor :=
  { Floor.empty with engine := { failing := [("add_node", "no")], refusingStop := [5433] } }

/-- A worker that cannot be registered and does not stop either is stranded. Its place is free and
the coordinator is as before. -/
theorem History.stranded_newcomer : ∃ s s' e,
    History (fun w w' => w' = w) Floor.host (.ofDefaults, .refusing)
      [.ended (.bootstrap "Lord" 5432)] s ∧
    Leads (Beside fun w w' => w' = w) (Cluster.addWorker Floor.host "W1" 5433).run s
      (some (.error e)) s' ∧
    s'.1.stranded.map (·.name) = ["W1"] ∧ s'.1.onboarding = none ∧
    s'.1.coordinator = s.1.coordinator := by
  have quiet : Task.Quiet (fun w w' : Floor => w' = w) := Task.quiet_eq
  have new : History (fun w w' => w' = w) Floor.host (.ofDefaults, .refusing) []
    (.ofDefaults, .refusing) := .start
  obtain ⟨s, s', e, h, led, before, stranded⟩ : ∃ s s' e,
      History (fun w w' => w' = w) Floor.host (.ofDefaults, .refusing)
        [.ended (.bootstrap "Lord" 5432)] s ∧
      Leads (Beside fun w w' => w' = w) (Cluster.addWorker Floor.host "W1" 5433).run s
        (some (.error e)) s' ∧
      s.1.stranded.map (·.name) = [] ∧ s'.1.stranded.map (·.name) = ["W1"] := by
    obtain ⟨e, failed⟩ : ∃ e, ((Cluster.addWorker Floor.host "W1" 5433).run.run []
        (((Call.bootstrap "Lord" 5432).task Floor.host).run [] (.ofDefaults, .refusing)).2).1 =
        some (.error e) :=
      eq_some_error (by decide +kernel)
    exact ⟨_, _, e, new.run quiet (.bootstrap "Lord" 5432) (by decide +kernel),
      Task.leads_of_quiet_run quiet.beside failed, by decide +kernel, by decide +kernel⟩
  obtain ⟨worker, -⟩ := History.failed_set_ups Cluster.create_ofDefaults h "W1" 5433
  obtain ⟨kept, -⟩ := worker e s'.1 s'.2 led
  refine ⟨s, s', e, h, led, stranded, kept.cleared ?_, kept.members.coordinator⟩
  by_contra early
  have same : s' = s := kept.refused (by simpa using early)
  rw [same, before] at stranded
  cases stranded

end ShardCluster
