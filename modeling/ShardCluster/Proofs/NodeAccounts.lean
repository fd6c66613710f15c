import ShardCluster.Proofs.Accounts

/-!
# What the operations of a node do to the estate

A node in hand is sound, not yet cleaned up, and the estate is its own and a rest. Setting a node up
(`prepare_spec`) and cleaning it up (`cleanup_spec`) keep it in hand wherever they wait and however
they fail; once it is cleaned up, the rest is all that is left of the estate.
-/

namespace ShardCluster

open ShardCluster.Task (Ensures Assures Beside)

namespace Node

variable {P W α ε : Type}

/-- what is out there because of a node -/
def estate (n : Node P) : Estate P :=
  n.process.elim 0 Estate.server +
    if n.claimed ∧ n.phase ≠ .cleanedUp then Estate.directory n.identity.logDirectory else 0

/-- A server is held exactly while the node runs, and all but a new node have a directory. -/
structure Sound (n : Node P) : Prop where
  serving : n.process.isSome ↔ n.phase = .running
  claimed : n.phase ≠ .created → n.phase ≠ .cleanedUp → n.claimed

lemma Sound.idle {n : Node P} (h : n.Sound) (idle : n.phase ≠ .running) : n.process = none := by
  simpa [idle] using h.serving

lemma Sound.server {n : Node P} (h : n.Sound) (running : n.phase = .running) :
    ∃ p, n.process = some p :=
  Option.isSome_iff_exists.1 (h.serving.2 running)

/-- **A node in hand**, with the rest of the estate. -/
structure InHand (held : Estate P → W → Prop) (i : Identity) (rest : Estate P) (n : Node P)
    (w : W) : Prop where
  identity : n.identity = i
  sound : n.Sound
  present : n.phase ≠ .cleanedUp
  estate : held (n.estate + rest) w

section Specs

variable {env : W → W → Prop} {held : Estate P → W → Prop} {host : Host P W}
  {I : Node P × W → Prop} {Q : α → Node P × W → Prop} {E : ClusterError → Node P × W → Prop}
  {i : Identity} {e rest : Estate P} {n : Node P} {w : W}

lemma InHand.still {w' : W} (hn : InHand held i rest n w) (h : held (n.estate + rest) w') :
    InHand held i rest n w' :=
  ⟨hn.identity, hn.sound, hn.present, h⟩

lemma InHand.create {timeout : Duration} (h : held rest w) :
    InHand held i rest (Node.create i timeout) w where
  identity := rfl
  sound := ⟨by simp [Node.create], by simp [Node.create]⟩
  present := by simp [Node.create]
  estate := by simpa [Node.create, Node.estate] using h

variable (acc : host.Accounts env held)
include acc

lemma init_spec_of_vacant (identity : n.identity = i) (sound : n.Sound) (fresh : n.phase = .created)
    (unclaimed : n.claimed = false)
    (vacant : Assures (Beside env) (fun p => InHand held i rest p.1 p.2)
      (fun _ p => p.1 = n ∧ held rest p.2) (fun _ p => InHand held i rest p.1 p.2)
      (checkVacant host n) (n, w)) :
    Assures (Beside env) (fun p => InHand held i rest p.1 p.2)
      (fun _ p => InHand held i rest p.1 p.2 ∧ p.1.phase = .initialized)
      (fun _ p => InHand held i rest p.1 p.2) (init host) (n, w) := by
  have idle : n.process = none := by simpa [fresh] using sound.serving
  have before : n.estate = 0 := by simp [Node.estate, idle, unclaimed]
  have same : ∀ w, held rest w → InHand held i rest n w := fun w h =>
    ⟨identity, sound, by simp [fresh], by rwa [before, zero_add]⟩
  -- From the claim on, the directory belongs to the estate.
  have taken : ∀ phase, phase = .created ∨ phase = .initialized → ∀ w,
      held (Estate.directory n.identity.logDirectory + rest) w →
      InHand held i rest { n with claimed := true, phase } w := by
    rintro phase hp w h
    refine ⟨identity, ⟨?_, fun _ _ => rfl⟩, ?_, ?_⟩
    · rcases hp with rfl | rfl <;> simp [idle]
    · rcases hp with rfl | rfl <;> simp
    · rcases hp with rfl | rfl <;> simpa [Node.estate, idle] using h
  unfold init
  simp only [Task.assures_bind, assures_current, Task.assures_ite, fresh, ne_eq, not_true_eq_false,
    if_false]
  refine vacant.mono (fun _ h => h) ?_ fun _ _ h => h
  rintro - ⟨_, w⟩ ⟨rfl, h⟩
  simp only [assures_outside]
  refine (acc.portAvailable _ _ w h).mono same fun free w h => ?_
  cases free
  · simpa using same w h
  simp only [Bool.not_true, Bool.false_eq_true, if_false, assures_change, assures_attempt]
  have claimed := taken _ (.inl fresh)
  refine (acc.createDirectories _ _ w h).mono claimed ?_
  rintro (_ | _) w h
  · exact claimed w h
  refine (acc.init _ _ w h).mono claimed ?_
  rintro (_ | _) w h
  · exact claimed w h
  · exact ⟨taken .initialized (.inr rfl) w h, trivial⟩

theorem init_spec (hn : InHand held i rest n w) (fresh : n.phase = .created)
    (unclaimed : n.claimed = false) :
    Assures (Beside env) (fun p => InHand held i rest p.1 p.2)
      (fun _ p => InHand held i rest p.1 p.2 ∧ p.1.phase = .initialized)
      (fun _ p => InHand held i rest p.1 p.2) (init host) (n, w) := by
  have idle : n.process = none := by simpa [fresh] using hn.sound.serving
  have before : n.estate = 0 := by simp [Node.estate, idle, unclaimed]
  have same : ∀ w, held rest w → InHand held i rest n w := fun w h =>
    hn.still (by rwa [before, zero_add])
  have h : held rest w := by simpa [before] using hn.estate
  exact init_spec_of_vacant acc hn.identity hn.sound fresh unclaimed
    (checkVacant_keeps (acc.pathExists · rest) (acc.namesIn · rest) h same (fun _ h => ⟨rfl, h⟩)
      fun _ => same)

theorem appendConfig_spec {text : String} (hn : InHand held i rest n w)
    (populated : n.phase = .initialized) :
    Assures (Beside env) (fun p => InHand held i rest p.1 p.2)
      (fun _ p => InHand held i rest p.1 p.2 ∧ p.1.phase = .initialized)
      (fun _ p => InHand held i rest p.1 p.2) (appendConfig host text) (n, w) := by
  unfold appendConfig
  simp only [Task.assures_bind, assures_current, Task.assures_ite, populated, reduceCtorEq,
    or_self, if_false]
  exact attempt_keeps (acc.append _ _ _) hn.estate (fun _ => hn.still)
    (fun _ w h => ⟨hn.still h, populated⟩) fun _ _ => hn.still

theorem start_spec (hn : InHand held i rest n w) (populated : n.phase = .initialized) :
    Assures (Beside env) (fun p => InHand held i rest p.1 p.2)
      (fun _ p => InHand held i rest p.1 p.2 ∧ p.1.phase = .running)
      (fun _ p => InHand held i rest p.1 p.2) (start host) (n, w) := by
  have idle : n.process = none := by simpa [populated] using hn.sound.serving
  have claimed : n.claimed = true := hn.sound.claimed (by simp [populated]) hn.present
  unfold start
  simp only [Task.assures_bind, assures_current, Task.assures_ite, populated, ne_eq,
    not_true_eq_false, false_and, if_false, assures_attempt, assures_change]
  refine (acc.start _ _ w hn.estate).mono (fun _ => hn.still) ?_
  rintro (_ | p) w h
  · exact hn.still h
  · refine ⟨⟨hn.identity, ⟨by simp, fun _ _ => claimed⟩, by simp, ?_⟩, trivial⟩
    simpa [Node.estate, idle, claimed, populated, add_assoc] using h

/-- **Setting a new node up** keeps it in hand, and runs it where it succeeds. -/
theorem prepare_spec {settings : String} (hn : InHand held i rest n w) (fresh : n.phase = .created)
    (unclaimed : n.claimed = false) :
    Assures (Beside env) (fun p => InHand held i rest p.1 p.2)
      (fun _ p => InHand held i rest p.1 p.2 ∧ p.1.phase = .running)
      (fun _ p => InHand held i rest p.1 p.2) (Cluster.prepare host settings) (n, w) := by
  unfold Cluster.prepare
  simp only [Task.assures_bind]
  refine (init_spec acc hn fresh unclaimed).mono (fun _ h => h) ?_ fun _ _ h => h
  rintro - ⟨n, w⟩ ⟨hn, populated⟩
  refine (appendConfig_spec acc hn populated).mono (fun _ h => h) ?_ fun _ _ h => h
  rintro - ⟨n, w⟩ ⟨hn, populated⟩
  exact start_spec acc hn populated

/-- A node in hand whose directory has been taken over. -/
structure Settled (held : Estate P → W → Prop) (i : Identity) (rest : Estate P) (n : Node P)
    (w : W) : Prop extends InHand held i rest n w where
  claimed : n.claimed = true

theorem stop_spec (hn : InHand held i rest n w) :
    Assures (Beside env) (fun p => Settled held i rest p.1 p.2)
      (fun _ p => InHand held i rest p.1 p.2 ∧ p.1.process = none ∧ p.1.claimed = n.claimed)
      (fun _ p => InHand held i rest p.1 p.2) (stop host) (n, w) := by
  unfold stop
  simp only [Task.assures_bind, assures_current, Task.assures_ite]
  by_cases running : n.phase = .running
  · obtain ⟨p, serving⟩ := Option.isSome_iff_exists.1 (hn.sound.serving.2 running)
    have claimed : n.claimed = true := hn.sound.claimed (by simp [running]) hn.present
    have parts : n.estate = Estate.server p + Estate.directory n.identity.logDirectory := by
      simp [Node.estate, serving, claimed, running]
    have same : ∀ w, held (Estate.server p + (Estate.directory n.identity.logDirectory + rest)) w →
        InHand held i rest n w := fun w h =>
      hn.still (by rwa [parts, add_assoc])
    have h := hn.estate
    rw [parts, add_assoc] at h
    simp only [running, ne_eq, not_true_eq_false, if_false, serving, Task.assures_bind,
      assures_attempt, assures_change]
    refine (acc.stop p _ w h).mono (fun w h => ⟨same w h, claimed⟩) ?_
    rintro (_ | _) w h
    · exact same w h
    · refine ⟨⟨hn.identity, ⟨by simp, fun _ _ => claimed⟩, by simp, ?_⟩, trivial, trivial⟩
      simpa [Node.estate, claimed] using h
  · have idle : n.process = none := by simpa [running] using hn.sound.serving
    simp only [running, ne_eq, not_false_eq_true, if_true, Task.assures_pure]
    exact ⟨hn, idle, trivial⟩

/-- **Cleaning a node up** keeps it in hand where it waits, which it does only with a directory of
its own, and where it fails. Where it succeeds, only the rest of the estate is left. -/
theorem cleanup_spec (hn : InHand held i rest n w) :
    Assures (Beside env) (fun p => Settled held i rest p.1 p.2)
      (fun _ p => p.1.phase = .cleanedUp ∧ p.1.process = none ∧ held rest p.2)
      (fun _ p => InHand held i rest p.1 p.2) (cleanup host) (n, w) := by
  unfold cleanup
  simp only [Task.assures_bind, assures_current, Task.assures_ite, hn.present, if_false]
  refine (stop_spec acc hn).mono (fun _ h => h) ?_ fun _ _ h => h
  rintro - ⟨m, w⟩ ⟨hm, idle, claimed⟩
  simp only at hm idle claimed
  by_cases taken : n.claimed = true
  · have own : m.estate = Estate.directory (logsIn n.identity.dataDirectory) := by
      simp [Node.estate, idle, claimed, taken, hm.present, logsIn_dataDirectory, hm.identity,
        hn.identity]
    have same : ∀ w, held (Estate.directory (logsIn n.identity.dataDirectory) + rest) w →
        Settled held i rest m w := fun w h =>
      ⟨hm.still (by rwa [own]), claimed.trans taken⟩
    have h := hm.estate
    rw [own] at h
    simp only [taken, if_true, assures_outside]
    refine (acc.removeTree _ _ w h).mono same fun r w hr => ?_
    split
    · simp only [assures_change]
      exact ⟨trivial, idle, hr⟩
    · simp only [assures_change]
      exact ⟨trivial, idle, hr⟩
    · rename_i left
      have : isGone (.error _) = false := isGone_of_ne left
      simp only [this, Bool.false_eq_true, if_false] at hr
      simp only [Task.assures_bind, Task.assures_throw]
      exact (same w hr).toInHand
  · have own : m.estate = 0 := by simp [Node.estate, idle, claimed, taken]
    simp only [taken, Bool.false_eq_true, if_false, assures_change]
    exact ⟨trivial, idle, by simpa [own] using hm.estate⟩

end Specs

end Node

end ShardCluster
