import ShardCluster.Proofs.Attempts
import ShardCluster.Proofs.History

/-!
# Retries

Teardowns one after another, each of which takes on the nodes that the one before has left over.
Every node keeps its way through the attempts on it (`Attempt.Way`), and it is either still held or
has been cleaned up (`Cluster.Followed`). So the first teardown whose calls all succeed is the last
that does anything (`History.teardowns`).
-/

namespace ShardCluster

open ShardCluster.Task (Ensures Assures Beside Leads)

variable {P W : Type} {env : W → W → Prop} {host : Host P W}

namespace Attempt

/-- the attempts on the node of that identity -/
def on (i : Identity) (attempts : List (Attempt P)) : List (Attempt P) :=
  attempts.filter (·.before.identity = i)

/-- **A node's way through attempts**: each begins with the node as the one before has left it. -/
inductive Way (n : Node P) : List (Attempt P) → Node P → Prop
  | nil : Way n [] n
  | snoc {attempts : List (Attempt P)} {a : Attempt P} :
      Way n attempts a.before → Way n (attempts ++ [a]) a.after

lemma leftOver_on {i : Identity} {attempts : List (Attempt P)}
    (same : ∀ a ∈ attempts, a.after.identity = a.before.identity) :
    (leftOver attempts).filter (·.identity = i) = leftOver (on i attempts) := by
  unfold leftOver on
  rw [List.filter_map, List.filter_filter, List.filter_filter]
  refine congrArg _ (List.filter_congr fun a ha => ?_)
  simp [same a ha, Bool.and_comm]

end Attempt

namespace Cluster

open Attempt

variable {c c₁ c₂ : Cluster P} {n : Node P} {nodes : List (Node P)}
  {attempts more : List (Attempt P)} {w w' w₁ w₂ : W} {outcome : Except ClusterError Unit}

lemma Releases.map_before (h : Releases env host nodes w attempts w') :
    attempts.map (·.before) = nodes := by
  induction h with
  | nil => rfl
  | cons attempted _ ih => rw [List.map_cons, attempted.before_eq, ih]

lemma Releases.attempted (h : Releases env host nodes w attempts w') :
    ∀ a ∈ attempts, ∃ w₁ w₂, a.before.Attempted env host w₁ a w₂ := by
  induction h with
  | nil => exact fun a ha => absurd ha List.not_mem_nil
  | cons attempted _ ih =>
    exact List.forall_mem_cons.2 ⟨⟨_, _, by rwa [attempted.before_eq]⟩, ih⟩

lemma TearsDown.outcome_eq_ok (h : c.TearsDown env host w attempts outcome c₁ w₁) :
    outcome = .ok () ↔ ∀ a ∈ attempts, a.Succeeds := by
  have none_failed : outcome = .ok () ↔ failures attempts = [] := by
    rw [h.outcome]
    cases failures attempts <;> simp [reported]
  rw [none_failed, failures, List.filterMap_eq_nil_iff]
  refine forall₂_congr fun a ha => ?_
  obtain ⟨_, _, ha⟩ := h.releases.attempted a ha
  exact ha.failure_eq_none

lemma TearsDown.left_of_ok (h : c.TearsDown env host w attempts (.ok ()) c₁ w₁) :
    c₁ = c.emptied := by
  have none_left : leftOver attempts = [] := by
    rw [leftOver, List.map_eq_nil_iff, List.filter_eq_nil_iff]
    intro a ha
    obtain ⟨_, _, attempted⟩ := h.releases.attempted a ha
    simp [attempted.failure_eq_none.2 (h.outcome_eq_ok.1 rfl a ha)]
  rw [h.left, none_left]
  rfl

lemma TearsDown.emptied (h : c.TearsDown env host w attempts outcome c₁ w₁) :
    c₁.emptied = c.emptied := by
  rw [h.left]
  rfl

lemma TearsDown.toRelease (h : c.TearsDown env host w attempts outcome c₁ w₁) :
    c₁.toRelease = leftOver attempts := by
  rw [h.left]
  simp [Cluster.toRelease, Cluster.emptied]

/-- **Teardowns one after another**, whatever they return, with all their attempts. -/
inductive Retries (env : W → W → Prop) (host : Host P W) (s : Cluster P × W) :
    List (Attempt P) → Cluster P × W → Prop
  | start : Retries env host s [] s
  | again {attempts more : List (Attempt P)} {outcome : Except ClusterError Unit}
      {c₁ c₂ : Cluster P} {w₁ w₂ : W} : Retries env host s attempts (c₁, w₁) →
      c₁.TearsDown env host w₁ more outcome c₂ w₂ →
      Retries env host s (attempts ++ more) (c₂, w₂)
  | meanwhile {attempts : List (Attempt P)} {c₁ : Cluster P} {w₁ w₂ : W} :
      Retries env host s attempts (c₁, w₁) → env w₁ w₂ → Retries env host s attempts (c₁, w₂)

lemma filter_identity (tidy : Tidy nodes) (there : n ∈ nodes) :
    nodes.filter (·.identity = n.identity) = [n] := by
  induction nodes with
  | nil => cases there
  | cons m rest ih =>
    obtain ⟨-, -, free, tidy⟩ := tidy_cons.1 tidy
    have other {k : Node P} (hk : k ∈ rest) : m.identity ≠ k.identity := by
      intro same
      have := free k hk
      simp [same, Identity.conflictsWith] at this
    rcases List.mem_cons.1 there with rfl | there
    · rw [List.filter_cons_of_pos (by simp), List.filter_eq_nil_iff.2]
      intro k hk
      simpa using fun same => other hk same.symm
    · rw [List.filter_cons_of_neg (by simpa using other there), ih tidy there]

/-- **A node followed through attempts**: the cluster still holds it as they have left it, or it has
been cleaned up. -/
def Followed (n : Node P) (attempts : List (Attempt P)) (c : Cluster P) : Prop :=
  ∃ n', Way n (on n.identity attempts) n' ∧
    (c.toRelease.filter (·.identity = n.identity) = [n'] ∨
      c.toRelease.filter (·.identity = n.identity) = [] ∧ n'.phase = .cleanedUp ∧
        n'.process = none)

lemma Followed.again (h : Followed n attempts c₁)
    (round : c₁.TearsDown env host w₁ more outcome c₂ w₂) : Followed n (attempts ++ more) c₂ := by
  have attempted := round.releases.attempted
  have rest : c₂.toRelease.filter (·.identity = n.identity) = leftOver (on n.identity more) := by
    rw [round.toRelease]
    refine leftOver_on fun a ha => ?_
    obtain ⟨_, _, ha⟩ := attempted a ha
    exact ha.identity
  have mine : (on n.identity more).map (·.before) =
      c₁.toRelease.filter (·.identity = n.identity) := by
    rw [← round.releases.map_before, List.filter_map]
    rfl
  have split : on n.identity (attempts ++ more) = on n.identity attempts ++ on n.identity more :=
    List.filter_append ..
  unfold Followed
  rw [split, rest]
  obtain ⟨n', way, held | ⟨gone, finished⟩⟩ := h
  · rw [held, List.map_eq_singleton_iff] at mine
    obtain ⟨a, same, rfl⟩ := mine
    rw [same]
    have there : a ∈ on n.identity more := by simp [same]
    obtain ⟨_, _, ha⟩ := attempted a (List.mem_of_mem_filter there)
    refine ⟨a.after, .snoc way, ?_⟩
    rcases fate : a.failure? with _ | e
    · exact .inr ⟨leftOver_cons_of_none fate, ha.released fate⟩
    · exact .inl (leftOver_cons_of_some fate)
  · rw [gone, List.map_eq_nil_iff] at mine
    rw [mine, List.append_nil]
    exact ⟨n', way, .inr ⟨rfl, finished⟩⟩

lemma Retries.followed {s s' : Cluster P × W} (h : Retries env host s attempts s')
    (tidy : Tidy s.1.allocated) (there : n ∈ s.1.toRelease) : Followed n attempts s'.1 := by
  induction h with
  | start => exact ⟨n, .nil, .inl (filter_identity (tidy.perm toRelease_perm.symm) there)⟩
  | again _ round ih => exact ih.again round
  | meanwhile _ _ ih => exact ih

lemma Retries.emptied {s s' : Cluster P × W} (h : Retries env host s attempts s') :
    s'.1.emptied = s.1.emptied := by
  induction h with
  | start => rfl
  | again _ round ih => exact round.emptied.trans ih
  | meanwhile _ _ ih => exact ih

lemma Retries.order {held : Estate P → W → Prop} {extra : Estate P} {s s' : Cluster P × W}
    (h : Retries env host s attempts s') (acc : host.Accounts env held)
    (ho : s.1.InOrder held extra s.2) : s'.1.InOrder held extra s'.2 := by
  induction h with
  | start => exact ho
  | @again _ _ outcome _ _ _ _ _ round ih =>
    have spec := teardown_spec acc ih _ _ ((leads_teardown ih.tidy).2 ⟨_, round⟩)
    rcases outcome with e | _
    · exact spec
    · obtain ⟨same, hw⟩ := spec
      simp only at same hw
      rw [same]
      exact inOrder_emptied hw
  | meanwhile _ he ih => exact ih.still (acc.kept _ _ _ ih.estate he)

/-- **A teardown with nothing to clean up** does nothing. -/
lemma teardown_emptied {r : Option (Except ClusterError Unit)} {s : Cluster P × W}
    (led : Leads (Beside env) (teardown host).run (c.emptied, w) r s) :
    r = some (.ok ()) ∧ s = (c.emptied, w) := by
  have still : Assures (Beside env) (fun _ => False) (fun _ s => s = (c.emptied, w))
      (fun _ _ => False) (teardown host) (c.emptied, w) := by
    unfold teardown
    simp only [Task.assures_bind, Task.assures_liftM, Task.ensures_atomic]
    exact Task.ensures_pure.2 (Task.assures_pure.2 rfl)
  rcases r with _ | _ | _
  · exact (still _ _ led).elim
  · exact (still _ _ led).elim
  · exact ⟨rfl, still _ _ led⟩

end Cluster

/-- **Teardowns**, after any history and whatever the host does. One that ends has cleaned up each
node once and in order, holds on to the nodes whose clean-up has failed, and reports just those
failures. The next one in a row whose calls all succeed leaves nothing: each node that was there
before the first has been cleaned up on its way through the attempts, and what the cluster had out
there is gone. After that a teardown does nothing. -/
theorem History.teardowns {config : Config} {c₀ c : Cluster P} {w₀ w : W} {events : List Event}
    (created : Cluster.create config = .ok c₀) (h : History env host (c₀, w₀) events (c, w)) :
    (∀ outcome c' w', Leads (Beside env) (Cluster.teardown host).run (c, w) (some outcome)
        (c', w') ↔ ∃ attempts, c.TearsDown env host w attempts outcome c' w') ∧
    ∀ attempts c₁ w₁, Cluster.Retries env host (c, w) attempts (c₁, w₁) →
      ∀ last outcome c₂ w₂, c₁.TearsDown env host w₁ last outcome c₂ w₂ →
        (∀ a ∈ last, a.Succeeds) →
        outcome = .ok () ∧ c₂ = c.emptied ∧
        (∀ n ∈ c.toRelease, ∃ n', Attempt.Way n (Attempt.on n.identity (attempts ++ last)) n' ∧
          n'.phase = .cleanedUp ∧ n'.process = none) ∧
        (∀ held lost, host.Accounts env held → held (c.estate + lost) w → held lost w₂) ∧
        ∀ w₃ r s, Leads (Beside env) (Cluster.teardown host).run (c₂, w₃) r s →
          r = some (.ok ()) ∧ s = (c₂, w₃) := by
  obtain ⟨_, ho⟩ := h.inOrder created
  refine ⟨fun _ _ _ => Cluster.leads_teardown ho.tidy, ?_⟩
  intro attempts c₁ w₁ retries last outcome c₂ w₂ teardown fine
  obtain rfl : outcome = .ok () := teardown.outcome_eq_ok.2 fine
  obtain rfl : c₂ = c.emptied := teardown.left_of_ok.trans retries.emptied
  refine ⟨rfl, rfl, fun n there => ?_, fun held lost acc hw => ?_, fun _ _ _ =>
    Cluster.teardown_emptied⟩
  · obtain ⟨n', way, held | ⟨-, finished⟩⟩ := (retries.again teardown).followed ho.tidy there
    · cases held
    · exact ⟨n', way, finished⟩
  · have after := (retries.again teardown).order acc ⟨ho.tidy, ho.agrees, hw⟩
    have := after.estate
    rwa [show (Cluster.emptied c).estate = 0 from rfl, zero_add] at this

open Scenario (Floor)

/-- a floor on which the server of the first worker refuses to stop once -/
def Scenario.Floor.stubborn : Floor :=
  { Floor.empty with engine := { refusingStop := [5433] } }

/-- A worker that does not stop is left over by the first teardown, and cleaned up by the second. -/
theorem History.teardown_retried : ∃ (s s₁ s₂ : Cluster Simulated.Process × Floor)
    (attempts last : List (Attempt Simulated.Process)) (e : ClusterError),
    History (fun w w' => w' = w) Floor.host (.ofDefaults, .stubborn)
      [.ended (.addWorker "W1" 5433), .ended (.bootstrap "Lord" 5432)] s ∧
    s.1.toRelease.map (·.name) = ["W1", "Lord"] ∧
    s.1.TearsDown (fun w w' => w' = w) Floor.host s.2 attempts (.error e) s₁.1 s₁.2 ∧
    s₁.1.toRelease.map (·.name) = ["W1"] ∧
    s₁.1.TearsDown (fun w w' => w' = w) Floor.host s₁.2 last (.ok ()) s₂.1 s₂.2 ∧
    ∀ n ∈ s.1.toRelease, ∃ n', Attempt.Way n (Attempt.on n.identity (attempts ++ last)) n' ∧
      n'.phase = .cleanedUp ∧ n'.process = none := by
  have quiet : Task.Quiet (fun w w' : Floor => w' = w) := Task.quiet_eq
  have new : History (fun w w' => w' = w) Floor.host (.ofDefaults, .stubborn) []
    (.ofDefaults, .stubborn) := .start
  obtain ⟨s, s₁, s₂, e, h, led, again, held, left⟩ : ∃ s s₁ s₂ e,
      History (fun w w' => w' = w) Floor.host (.ofDefaults, .stubborn)
        [.ended (.addWorker "W1" 5433), .ended (.bootstrap "Lord" 5432)] s ∧
      Leads (Beside fun w w' => w' = w) (Cluster.teardown Floor.host).run s
        (some (.error e)) s₁ ∧
      Leads (Beside fun w w' => w' = w) (Cluster.teardown Floor.host).run s₁
        (some (.ok ())) s₂ ∧
      s.1.toRelease.map (·.name) = ["W1", "Lord"] ∧ s₁.1.toRelease.map (·.name) = ["W1"] := by
    obtain ⟨e, failed⟩ : ∃ e, ((Cluster.teardown Floor.host).run.run []
        (((Call.addWorker "W1" 5433).task Floor.host).run []
          (((Call.bootstrap "Lord" 5432).task Floor.host).run []
            (.ofDefaults, .stubborn)).2).2).1 = some (.error e) :=
      eq_some_error (by decide +kernel)
    exact ⟨_, _, _, e, (new.run quiet (.bootstrap "Lord" 5432) (by decide +kernel)).run quiet
      (.addWorker "W1" 5433) (by decide +kernel), Task.leads_of_quiet_run quiet.beside failed,
      Task.leads_of_quiet_run quiet.beside (eq_some_ok (by decide +kernel)), by decide +kernel,
      by decide +kernel⟩
  obtain ⟨_, ho⟩ := h.inOrder Cluster.create_ofDefaults
  obtain ⟨first, next⟩ := History.teardowns Cluster.create_ofDefaults h
  obtain ⟨attempts, round⟩ := (first _ s₁.1 s₁.2).1 led
  have retries := Cluster.Retries.again (.start (s := s)) round
  obtain ⟨last, round'⟩ := (Cluster.leads_teardown (retries.order (accounts_nothing _ _) ho).tidy).1
    again
  obtain ⟨-, -, finished, -, -⟩ := next attempts _ _ retries last _ _ _ round'
    (round'.outcome_eq_ok.1 rfl)
  exact ⟨s, s₁, s₂, attempts, last, e, h, held, round, left, round', finished⟩

end ShardCluster
