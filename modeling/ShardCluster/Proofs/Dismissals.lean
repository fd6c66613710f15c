import ShardCluster.Proofs.Identities
import ShardCluster.Proofs.Removals
import ShardCluster.Proofs.Takeover

/-!
# Dismissed nodes

What becomes of a node that is set up in vain (`prepare_vain`) and then cleaned up
(`Node.dismissed`): either it is gone, with its server stopped and nothing left at a directory that
it had claimed, or its clean-up has failed and it can be cleaned up again. A node that never claimed
its directory has done nothing but ask, and cleaning it up does nothing at all.
-/

namespace ShardCluster

open ShardCluster.Task (Ensures Assures Beside Leads)

variable {P W : Type} {env : W → W → Prop} {host : Host P W}

/-- What holds of the world as long as the host is only asked what is there. -/
structure Host.KeptByAsking (env : W → W → Prop) (host : Host P W) (J : W → Prop) : Prop where
  pathExists : ∀ path, Task.Keeps env J (host.storage.pathExists path)
  namesIn : ∀ path, Task.Keeps env J (host.storage.namesIn path)
  portAvailable : ∀ port, Task.Keeps env J (host.engine.portAvailable port)

lemma Host.keptByAsking_true : host.KeptByAsking env fun _ => True :=
  ⟨fun _ => Task.keeps_true, fun _ => Task.keeps_true, fun _ => Task.keeps_true⟩

def ClusterError.isPrecondition : ClusterError → Bool
  | precondition _ => true
  | _ => false

namespace Node

variable {J : W → Prop} {n : Node P} {w : W} {i : Identity}

/-- What is known of a node that could not be set up. -/
abbrev Vain (J : W → Prop) (e : ClusterError) (p : Node P × W) : Prop :=
  e.isPrecondition = false ∧ (p.1.claimed = false → J p.2)

lemma init_vain (kept : host.KeptByAsking env J) (hJ : J w) : Assures (Beside env)
    (fun _ => True) (fun _ p => p.1.claimed = true ∧ p.1.phase = .initialized) (Vain J)
    (init host) (n, w) := by
  unfold init
  simp only [Task.assures_bind, assures_current, Task.assures_ite]
  split
  · exact Task.assures_throw.2 ⟨rfl, fun _ => hJ⟩
  refine checkVacant_keeps kept.pathExists kept.namesIn hJ (fun _ _ => trivial) (fun w hJ => ?_)
    fun _ _ hJ => ⟨rfl, fun _ => hJ⟩
  simp only [assures_outside]
  refine (kept.portAvailable _ w hJ).mono (fun _ _ => trivial) fun free w hJ => ?_
  cases free
  · simp only [Bool.not_false, if_true, Task.assures_throw]
    exact ⟨rfl, fun _ => hJ⟩
  simp only [Bool.not_true, Bool.false_eq_true, if_false, assures_change, assures_attempt]
  -- from the claim on nothing is said of the world
  refine Task.ensures_of_forall (fun _ => trivial) fun r w => ?_
  rcases r with e | _
  · exact ⟨rfl, by rintro ⟨⟩⟩
  refine Task.ensures_of_forall (fun _ => trivial) fun r w => ?_
  rcases r with e | _
  · exact ⟨rfl, by rintro ⟨⟩⟩
  · exact ⟨trivial, trivial⟩

lemma appendConfig_vain {text : String} (claimed : n.claimed = true)
    (populated : n.phase = .initialized) : Assures (Beside env) (fun _ => True)
      (fun _ p => p.1.claimed = true ∧ p.1.phase = .initialized) (Vain J)
      (appendConfig host text) (n, w) := by
  unfold appendConfig
  simp only [Task.assures_bind, assures_current, Task.assures_ite, populated, reduceCtorEq,
    or_self, if_false, assures_attempt]
  refine Task.ensures_of_forall (fun _ => trivial) fun r w => ?_
  rcases r with e | _
  · refine ⟨?_, fun unclaimed => ?_⟩
    · cases e <;> rfl
    · rw [claimed] at unclaimed
      cases unclaimed
  · exact ⟨claimed, trivial⟩

lemma start_vain (claimed : n.claimed = true) (populated : n.phase = .initialized) :
    Assures (Beside env) (fun _ => True) (fun _ p => p.1.claimed = true) (Vain J) (start host)
      (n, w) := by
  unfold start
  simp only [Task.assures_bind, assures_current, Task.assures_ite, populated, ne_eq,
    not_true_eq_false, false_and, if_false, assures_attempt, assures_change]
  refine Task.ensures_of_forall (fun _ => trivial) fun r w => ?_
  rcases r with e | _
  · refine ⟨?_, fun unclaimed => ?_⟩
    · cases e <;> rfl
    · rw [claimed] at unclaimed
      cases unclaimed
  · exact claimed

/-- **Setting up in vain**: the failure is no precondition of the cluster, and a node that has not
claimed its directory has only asked. -/
theorem prepare_vain {settings : String} (kept : host.KeptByAsking env J) (hJ : J w) :
    Assures (Beside env) (fun _ => True) (fun _ p => p.1.claimed = true) (Vain J)
      (Cluster.prepare host settings) (n, w) := by
  unfold Cluster.prepare
  simp only [Task.assures_bind]
  refine (init_vain kept hJ).mono (fun _ h => h) (fun _ p h => ?_) fun _ _ h => h
  refine (appendConfig_vain h.1 h.2).mono (fun _ h => h) (fun _ p h => ?_) fun _ _ h => h
  exact start_vain h.1 h.2

/-! ### Cleaning up after that -/

/-- Cleaning up a node that has claimed nothing does nothing to the world. -/
lemma cleanup_unclaimed {I : Node P × W → Prop} {Q : Unit → Node P × W → Prop}
    {E : ClusterError → Node P × W → Prop} (unclaimed : n.claimed = false)
    (fresh : n.phase = .created) (h : Q () ({ n with phase := .cleanedUp }, w)) :
    Assures (Beside env) I Q E (cleanup host) (n, w) := by
  unfold cleanup stop
  simpa [unclaimed, fresh] using h

lemma cleanup_vacates {files : W → FileSystem} (claimed : n.claimed = true)
    (present : n.phase ≠ .cleanedUp)
    (removes : ∀ path, Performs env files (FileSystem.removeTree path)
      (host.storage.removeTree path)) :
    Assures (Beside env) (fun _ => True)
      (fun _ p => (files p.2).pathExists n.identity.dataDirectory = .ok false) (fun _ _ => True)
      (cleanup host) (n, w) := by
  unfold cleanup
  refine Task.assures_bind.2 (assures_current.2 ?_)
  rw [if_neg present]
  refine Task.assures_bind.2 (Task.assures_of_forall (fun _ => trivial) (fun _ p => ?_)
    fun _ _ => trivial)
  obtain ⟨m, w'⟩ := p
  rw [if_pos claimed]
  refine Task.assures_bind.2 (assures_outside.2 ((removes _ w').mono (fun _ _ => trivial) ?_))
  rintro r w'' ⟨result, left⟩
  have vacates := FileSystem.removeTree_vacates n.identity.dataDirectory (files w')
  unfold FileAction.Leaves at vacates
  rw [← result, ← left] at vacates
  split
  · exact assures_change.2 vacates
  · exact assures_change.2 (vacates rfl)
  · exact Task.assures_bind.2 (Task.assures_throw.2 trivial)

/-- **A dismissal** of a node whose set-up began in the world `before`: the node is cleaned up. If
that succeeds, it has no server any more and there is nothing at a directory that it had claimed; if
that fails, it can be cleaned up again. Without a claim it does not fail, and no more has been done
to the world than asking what is there. -/
structure Dismissed (env : W → W → Prop) (host : Host P W) (before : W) (n : Node P) (w : W)
    (outcome : Except ClusterError Unit) (n' : Node P) (w' : W) : Prop where
  cleaned : Leads (Beside env) (Node.cleanup host).run (n, w) (some outcome) (n', w')
  identity : n'.identity = n.identity
  released : outcome = .ok () → n'.phase = .cleanedUp ∧ n'.process = none
  vacated : outcome = .ok () → n.claimed = true → ∀ files : W → FileSystem,
    (∀ path, Performs env files (FileSystem.removeTree path) (host.storage.removeTree path)) →
    (files w').pathExists n.identity.dataDirectory = .ok false
  kept : outcome ≠ .ok () → n'.phase ≠ .cleanedUp
  untouched : n.claimed = false → outcome = .ok () ∧
    ∀ J, host.KeptByAsking env J → J before → J w'

/-- **Whoever is cleaned up is dismissed.** -/
theorem dismissed {before : W} (sound : n.Sound) (present : n.phase ≠ .cleanedUp)
    (asked : n.claimed = false → ∀ J, host.KeptByAsking env J → J before → J w) :
    Assures (Beside env) (fun _ => True)
      (fun _ p => Dismissed env host before n w (.ok ()) p.1 p.2)
      (fun e p => Dismissed env host before n w (.error e) p.1 p.2) (cleanup host) (n, w) := by
  have hn : InHand (fun _ _ => True) n.identity 0 n w := ⟨rfl, sound, present, trivial⟩
  have fresh (unclaimed : n.claimed = false) : n.phase = .created := by
    by_contra set_up
    rw [sound.claimed set_up present] at unclaimed
    cases unclaimed
  have known := (Task.assures_leads (x := cleanup host) (s := (n, w))).and
    ((steady_cleanup n w).and (cleanup_spec (accounts_nothing env host) hn))
  refine known.mono (fun _ _ => trivial) ?_ ?_
  · rintro ⟨⟩ ⟨n', w'⟩ ⟨led, same, gone, idle, -⟩
    refine ⟨led, same, fun _ => ⟨gone, idle⟩, fun _ claimed files removes => ?_, by simp,
      fun unclaimed => ⟨rfl, fun J kept hJ => ?_⟩⟩
    · exact cleanup_vacates claimed present removes _ _ led
    · exact cleanup_unclaimed (I := fun _ => True) (Q := fun _ p => J p.2) (E := fun _ _ => True)
        unclaimed (fresh unclaimed) (asked unclaimed J kept hJ) _ _ led
  · rintro e ⟨n', w'⟩ ⟨led, same, hn'⟩
    refine ⟨led, same, by rintro ⟨⟩, by rintro ⟨⟩, fun _ => hn'.present, fun unclaimed => ?_⟩
    exact (cleanup_unclaimed (I := fun _ => True) (Q := fun _ _ => True) (E := fun _ _ => False)
      unclaimed (fresh unclaimed) trivial _ _ led).elim

end Node

end ShardCluster
