import ShardCluster.Proofs.Teardown

/-!
# Attempts to clean up

What a clean-up asks of the host, call by call, and what comes of it (`Node.Attempted`,
`leads_cleanup`), and a teardown as the attempts it makes (`Cluster.TearsDown`). A teardown that
ends is the same as its attempts (`leads_teardown`).
-/

namespace ShardCluster

open ShardCluster.Task (Ensures Assures Beside Leads)

variable {P W : Type} {env : W → W → Prop} {host : Host P W}

/-- **An attempt to clean a node up**: the answers of the host, as far as it was called, what was
returned, and the node before and after. -/
structure Attempt (P : Type) where
  before : Node P
  stop : Option (Except EngineError Unit)
  removal : Option (Except IoError Unit)
  outcome : Except ClusterError Unit
  after : Node P

namespace Attempt

/-- The calls succeeded, as far as they were made. It is no failure that there was nothing to
remove. -/
def Succeeds (a : Attempt P) : Prop :=
  (∀ e, a.stop ≠ some (.error e)) ∧ ∀ e, a.removal = some (.error e) → e = .notFound

def failure? (a : Attempt P) : Option ClusterError :=
  match a.outcome with
  | .ok () => none
  | .error e => some e

/-- the failures among some attempts, in the same order -/
def failures (attempts : List (Attempt P)) : List ClusterError := attempts.filterMap failure?

/-- the nodes that are left after some attempts, in the same order -/
def leftOver (attempts : List (Attempt P)) : List (Node P) :=
  (attempts.filter (·.failure?.isSome)).map after

variable {a : Attempt P} {attempts : List (Attempt P)} {e : ClusterError}

@[simp] lemma failures_nil : failures ([] : List (Attempt P)) = [] := rfl

@[simp] lemma leftOver_nil : leftOver ([] : List (Attempt P)) = [] := rfl

@[simp] lemma failures_cons :
    failures (a :: attempts) = a.failure?.toList ++ failures attempts := by
  unfold failures
  rcases h : a.failure? with _ | e
  · simp [h]
  · simp [h]

lemma leftOver_cons_of_none (fine : a.failure? = none) :
    leftOver (a :: attempts) = leftOver attempts := by
  simp [leftOver, fine]

lemma leftOver_cons_of_some (failed : a.failure? = some e) :
    leftOver (a :: attempts) = a.after :: leftOver attempts := by
  simp [leftOver, failed]

lemma leftOver_append {more : List (Attempt P)} :
    leftOver (attempts ++ more) = leftOver attempts ++ leftOver more := by
  simp [leftOver]

lemma leftOver_cons : leftOver (a :: attempts) = leftOver [a] ++ leftOver attempts := by
  rw [← leftOver_append, List.singleton_append]

end Attempt

namespace Node

/-- a node whose server has been stopped -/
def halted (n : Node P) : Node P :=
  { n with process := none, phase := if n.phase = .running then .stopped else n.phase }

@[simp] lemma halted_process {n : Node P} : n.halted.process = none := rfl

lemma halted_phase {n : Node P} (present : n.phase ≠ .cleanedUp) :
    n.halted.phase ≠ .running ∧ n.halted.phase ≠ .cleanedUp := by
  unfold halted
  by_cases running : n.phase = .running
  · simp [running]
  · simp [running, present]

/-- **Stopping a server**, which asks nothing of the host if there is none. -/
inductive Stops (env : W → W → Prop) (host : Host P W) (n : Node P) (w : W) :
    Option (Except EngineError Unit) → W → Prop
  | idle : n.process = none → Stops env host n w none w
  | called {p : P} {answer : Except EngineError Unit} {w' : W} : n.process = some p →
      Leads env (host.engine.stop p) w (some answer) w' → Stops env host n w (some answer) w'

/-- **Removing a directory**, which asks nothing of the host if it was never taken over. -/
inductive Removes (env : W → W → Prop) (host : Host P W) (n : Node P) (w : W) :
    Option (Except IoError Unit) → W → Prop
  | unclaimed : n.claimed = false → Removes env host n w none w
  | called {answer : Except IoError Unit} {w' : W} : n.claimed = true →
      Leads env (host.storage.removeTree n.identity.dataDirectory) w (some answer) w' →
      Removes env host n w (some answer) w'

/-- what it means that the directory cannot be removed -/
def removalError (n : Node P) (e : IoError) : ClusterError :=
  n.cleanupError ("cannot remove " ++ n.identity.dataDirectory.display ++ ": " ++ e.message)

/-- **Cleaning a node up, call by call**: the server is stopped, and then the directory removed. -/
inductive Attempted (env : W → W → Prop) (host : Host P W) (n : Node P) (w : W) :
    Attempt P → W → Prop
  | unstopped {e : EngineError} {w' : W} : n.Stops env host w (some (.error e)) w' →
      Attempted env host n w
        ⟨n, some (.error e), none, .error (n.cleanupError e.message), n⟩ w'
  | unremoved {stop : Option (Except EngineError Unit)} {e : IoError} {w₁ w' : W} :
      n.Stops env host w stop w₁ → (∀ e, stop ≠ some (.error e)) →
      n.Removes env host w₁ (some (.error e)) w' → e ≠ .notFound →
      Attempted env host n w
        ⟨n, stop, some (.error e), .error (n.removalError e), n.halted⟩ w'
  | done {stop : Option (Except EngineError Unit)} {removal : Option (Except IoError Unit)}
      {w₁ w' : W} : n.Stops env host w stop w₁ → (∀ e, stop ≠ some (.error e)) →
      n.Removes env host w₁ removal w' → (∀ e, removal = some (.error e) → e = .notFound) →
      Attempted env host n w
        ⟨n, stop, removal, .ok (), { n.halted with phase := .cleanedUp }⟩ w'

section Cleanup

variable {n n' : Node P} {w w' : W} {a : Attempt P} {Q : Unit → Node P × W → Prop}
  {E : ClusterError → Node P × W → Prop}

lemma assures_stop (sound : n.Sound) :
    Assures (Beside env) (fun _ => True) Q E (stop host) (n, w) ↔
      (∀ e w', n.Stops env host w (some (.error e)) w' → E (n.cleanupError e.message) (n, w')) ∧
      ∀ answer w', n.Stops env host w answer w' → (∀ e, answer ≠ some (.error e)) →
        Q () (n.halted, w') := by
  unfold stop
  simp only [Task.assures_bind, assures_current, Task.assures_ite]
  by_cases running : n.phase = .running
  · obtain ⟨p, serving⟩ := Option.isSome_iff_exists.1 (sound.serving.2 running)
    have halted : n.halted = { n with process := none, phase := .stopped } := by
      simp [Node.halted, running]
    simp only [running, ne_eq, not_true_eq_false, if_false, serving, assures_attempt,
      assures_change, Task.ensures_iff_leads, Task.assures_bind, halted]
    constructor
    · refine fun h => ⟨fun e w' stops => ?_, fun answer w' stops fine => ?_⟩
      · cases stops with
        | called there led =>
          obtain rfl := Option.some.inj (serving.symm.trans there)
          exact h _ _ led
      · cases stops with
        | idle idle =>
          rw [serving] at idle
          cases idle
        | @called _ answer _ there led =>
          obtain rfl := Option.some.inj (serving.symm.trans there)
          rcases answer with e | _
          · exact (fine e rfl).elim
          · exact h _ _ led
    · rintro ⟨failed, stopped⟩ (e | _) w' led
      · exact failed e w' (.called serving led)
      · exact stopped _ w' (.called serving led) (by simp)
  · have idle : n.process = none := by simpa [running] using sound.serving
    have halted : n.halted = n := by simp [Node.halted, running, ← idle]
    simp only [running, ne_eq, not_false_eq_true, if_true, Task.assures_pure, halted]
    constructor
    · refine fun h => ⟨fun e w' stops => ?_, fun answer w' stops _ => ?_⟩
      · cases stops with
        | called there led =>
          rw [idle] at there
          cases there
      · cases stops with
        | idle _ => exact h
        | called there led =>
          rw [idle] at there
          cases there
    · exact fun h => h.2 none w (.idle idle) (by simp)

theorem assures_cleanup {R : Except ClusterError Unit → Node P × W → Prop} (sound : n.Sound)
    (present : n.phase ≠ .cleanedUp) :
    Assures (Beside env) (fun _ => True) (fun _ => R (.ok ())) (fun e => R (.error e))
        (cleanup host) (n, w) ↔
      ∀ a w', n.Attempted env host w a w' → R a.outcome (a.after, w') := by
  unfold cleanup
  simp only [Task.assures_bind, assures_current, Task.assures_ite, present, if_false,
    assures_stop sound]
  constructor
  · rintro ⟨failed, stopped⟩ a w' attempted
    cases attempted with
    | unstopped stops => exact failed _ _ stops
    | unremoved stops fine removes real =>
      have rest := stopped _ _ stops fine
      cases removes with
      | called claimed led =>
        rw [if_pos claimed, assures_outside, Task.ensures_iff_leads] at rest
        have thrown := rest _ _ led
        simp only [Task.assures_bind, Task.assures_throw] at thrown
        exact thrown
    | @done _ removal _ _ stops fine removes gone =>
      have rest := stopped _ _ stops fine
      cases removes with
      | unclaimed unclaimed =>
        rw [if_neg (by simp [unclaimed])] at rest
        exact assures_change.1 rest
      | @called answer _ claimed led =>
        rw [if_pos claimed, assures_outside, Task.ensures_iff_leads] at rest
        have removed := rest _ _ led
        rcases answer with e | _
        · obtain rfl := gone e rfl
          exact assures_change.1 removed
        · exact assures_change.1 removed
  · refine fun h => ⟨fun e w' stops => h _ _ (.unstopped stops), fun answer w' stops fine => ?_⟩
    split
    · rename_i claimed
      refine assures_outside.2 (Task.ensures_iff_leads.2 fun answer w'' led => ?_)
      split
      · exact assures_change.2 (h _ _ (.done stops fine (.called claimed led) (by simp)))
      · refine assures_change.2 (h _ _ (.done stops fine (.called claimed led) ?_))
        rintro _ ⟨⟩
        rfl
      · rename_i left
        exact Task.assures_bind.2 (Task.assures_throw.2
          (h _ _ (.unremoved stops fine (.called claimed led) left)))
    · rename_i unclaimed
      refine assures_change.2 (h _ _ (.done stops fine (.unclaimed ?_) (by simp)))
      simpa using unclaimed

/-- **A clean-up that ends** is an attempt. -/
theorem leads_cleanup {outcome : Except ClusterError Unit} (sound : n.Sound)
    (present : n.phase ≠ .cleanedUp) :
    Leads (Beside env) (cleanup host).run (n, w) (some outcome) (n', w') ↔
      ∃ a, n.Attempted env host w a w' ∧ a.outcome = outcome ∧ a.after = n' := by
  refine Task.leads_iff_of_assures_iff (C := fun outcome (p : Node P × W) =>
    ∃ a, n.Attempted env host w a p.2 ∧ a.outcome = outcome ∧ a.after = p.1) fun R => ?_
  rw [assures_cleanup sound present]
  constructor
  · rintro h _ ⟨_, w'⟩ ⟨a, attempted, rfl, rfl⟩
    exact h a w' attempted
  · exact fun h a w' attempted => h _ (a.after, w') ⟨a, attempted, rfl, rfl⟩

/-! ### What comes of an attempt -/

lemma Attempted.before_eq (h : n.Attempted env host w a w') : a.before = n := by
  cases h <;> rfl

lemma Attempted.identity (h : n.Attempted env host w a w') :
    a.after.identity = n.identity := by
  cases h <;> rfl

lemma Attempted.failure_eq_none (h : n.Attempted env host w a w') :
    a.failure? = none ↔ a.Succeeds := by
  cases h with
  | unstopped _ => exact ⟨by rintro ⟨⟩, fun fine => (fine.1 _ rfl).elim⟩
  | unremoved _ _ _ real => exact ⟨by rintro ⟨⟩, fun fine => (real (fine.2 _ rfl)).elim⟩
  | done _ fine _ gone => exact ⟨fun _ => ⟨fine, gone⟩, fun _ => rfl⟩

lemma Attempted.released (h : n.Attempted env host w a w') (fine : a.failure? = none) :
    a.after.phase = .cleanedUp ∧ a.after.process = none := by
  cases h with
  | unstopped _ => cases fine
  | unremoved _ _ _ _ => cases fine
  | done _ _ _ _ => exact ⟨rfl, rfl⟩

lemma Attempted.kept (h : n.Attempted env host w a w') (sound : n.Sound)
    (present : n.phase ≠ .cleanedUp) (failed : a.failure? ≠ none) :
    a.after.Sound ∧ a.after.phase ≠ .cleanedUp := by
  cases h with
  | unstopped _ => exact ⟨sound, present⟩
  | unremoved _ _ removes _ =>
    have claimed : n.claimed = true := by
      cases removes
      assumption
    obtain ⟨idle, present'⟩ := halted_phase present
    exact ⟨⟨by simp [idle], fun _ _ => claimed⟩, present'⟩
  | done _ _ _ _ => exact (failed rfl).elim

end Cleanup

end Node

/-! ### Teardowns -/

namespace Cluster

open Attempt

variable {c c' : Cluster P} {n : Node P} {nodes : List (Node P)} {attempts : List (Attempt P)}
  {w w' : W}

/-- **Nodes cleaned up one after another**, each of them once and whatever becomes of the others. -/
inductive Releases (env : W → W → Prop) (host : Host P W) :
    List (Node P) → W → List (Attempt P) → W → Prop
  | nil {w : W} : Releases env host [] w [] w
  | cons {n : Node P} {nodes : List (Node P)} {a : Attempt P} {attempts : List (Attempt P)}
      {w w₁ w' : W} : n.Attempted env host w a w₁ → Releases env host nodes w₁ attempts w' →
      Releases env host (n :: nodes) w (a :: attempts) w'

/-- what a teardown returns for the failures of its attempts -/
def reported : List ClusterError → Except ClusterError Unit
  | [] => .ok ()
  | failures => .error (.teardown failures)

/-- **A teardown by its attempts**: every node is cleaned up once, in order. The nodes whose attempt
has failed are all that is left, and their failures are reported. -/
structure TearsDown (env : W → W → Prop) (host : Host P W) (c : Cluster P) (w : W)
    (attempts : List (Attempt P)) (outcome : Except ClusterError Unit) (c' : Cluster P) (w' : W) :
    Prop where
  releases : Releases env host c.toRelease w attempts w'
  left : c' = { c.emptied with stranded := leftOver attempts }
  outcome : outcome = reported (failures attempts)

/-- the cluster with some more stranded nodes -/
def strand (c : Cluster P) (nodes : List (Node P)) : Cluster P :=
  { c with stranded := c.stranded ++ nodes }

@[simp] lemma strand_nil : c.strand [] = c := by simp [strand]

@[simp] lemma strand_strand {nodes' : List (Node P)} :
    (c.strand nodes).strand nodes' = c.strand (nodes ++ nodes') := by simp [strand]

lemma leads_release {failure : Option ClusterError} (sound : n.Sound)
    (present : n.phase ≠ .cleanedUp) :
    Leads (Beside env) (release host n) (c, w) (some failure) (c', w') ↔
      ∃ a, n.Attempted env host w a w' ∧ failure = a.failure? ∧
        c' = c.strand (leftOver [a]) := by
  unfold release
  simp only [Task.leads_bind_some, Task.leads_owning]
  constructor
  · rintro ⟨_, _, ⟨_ | _, _, w₁, same, rfl, led⟩, rest⟩
    · cases same
    cases same
    obtain ⟨a, attempted, rfl, rfl⟩ := (Node.leads_cleanup sound present).1 led
    rcases fate : a.outcome with e | _
    · have failed : a.failure? = some e := by rw [failure?, fate]
      simp only [fate, Task.leads_bind_some] at rest
      obtain ⟨_, _, stranded, ends⟩ := rest
      simp only [Task.update, Task.leads_act, Task.leads_done] at stranded
      obtain ⟨-, rfl⟩ := stranded
      obtain ⟨⟨⟩, ⟨⟩⟩ := Task.leads_done.1 ends
      exact ⟨a, attempted, failed.symm, by rw [leftOver_cons_of_some failed]; rfl⟩
    · have fine : a.failure? = none := by rw [failure?, fate]
      simp only [fate] at rest
      obtain ⟨⟨⟩, ⟨⟩⟩ := Task.leads_done.1 rest
      exact ⟨a, attempted, fine.symm, by simp [leftOver_cons_of_none fine]⟩
  · rintro ⟨a, attempted, rfl, rfl⟩
    have led := (Node.leads_cleanup sound present).2 ⟨a, attempted, rfl, rfl⟩
    refine ⟨_, _, ⟨_, _, _, rfl, rfl, led⟩, ?_⟩
    rcases fate : a.outcome with e | _
    · have failed : a.failure? = some e := by rw [failure?, fate]
      rw [leftOver_cons_of_some failed, failed]
      exact Task.leads_bind_some.2 ⟨(), _, Task.leads_act.2 (Task.leads_done.2 ⟨rfl, rfl⟩),
        Task.leads_done.2 ⟨rfl, rfl⟩⟩
    · have fine : a.failure? = none := by rw [failure?, fate]
      rw [leftOver_cons_of_none fine, fine, leftOver_nil, strand_nil]
      exact Task.leads_done.2 ⟨rfl, rfl⟩

theorem leads_releaseAll {failed : List ClusterError} (sound : ∀ n ∈ nodes, n.Sound)
    (present : ∀ n ∈ nodes, n.phase ≠ .cleanedUp) :
    Leads (Beside env) (releaseAll host nodes) (c, w) (some failed) (c', w') ↔
      ∃ attempts, Releases env host nodes w attempts w' ∧ failed = failures attempts ∧
        c' = c.strand (leftOver attempts) := by
  induction nodes generalizing c w failed with
  | nil =>
    constructor
    · intro led
      obtain ⟨⟨⟩, ⟨⟩⟩ := Task.leads_done.1 led
      exact ⟨[], .nil, rfl, by simp⟩
    · rintro ⟨_, ⟨⟩, rfl, rfl⟩
      exact Task.leads_done.2 ⟨rfl, by simp⟩
  | cons n rest ih =>
    rw [List.forall_mem_cons] at sound present
    unfold releaseAll
    simp only [Task.leads_bind_some, leads_release sound.1 present.1, Prod.exists]
    constructor
    · rintro ⟨_, _, w₁, ⟨a, attempted, rfl, rfl⟩, _, _, _, led, ends⟩
      obtain ⟨⟨⟩, ⟨⟩⟩ := Task.leads_done.1 ends
      obtain ⟨attempts, releases, rfl, rfl⟩ := (ih sound.2 present.2).1 led
      exact ⟨a :: attempts, .cons attempted releases, failures_cons.symm,
        by rw [strand_strand, ← leftOver_cons]⟩
    · rintro ⟨_, releases, rfl, rfl⟩
      cases releases with
      | @cons _ _ a attempts _ w₁ _ attempted releases =>
        have later := (ih (c := c.strand (leftOver [a])) sound.2 present.2).2
          ⟨attempts, releases, rfl, by rw [strand_strand, ← leftOver_cons]⟩
        exact ⟨_, _, w₁, ⟨a, attempted, rfl, rfl⟩, _, _, _, later,
          Task.leads_done.2 ⟨by rw [failures_cons], rfl⟩⟩

/-- **A teardown that ends** is its attempts. -/
theorem leads_teardown {outcome : Except ClusterError Unit} (tidy : Tidy c.allocated) :
    Leads (Beside env) (teardown host).run (c, w) (some outcome) (c', w') ↔
      ∃ attempts, c.TearsDown env host w attempts outcome c' w' := by
  have tidy' := tidy.perm toRelease_perm.symm
  refine Task.leads_iff_of_assures_iff (C := fun outcome (p : Cluster P × W) =>
    ∃ attempts, c.TearsDown env host w attempts outcome p.1 p.2) fun R => ?_
  unfold teardown
  simp only [Task.assures_bind, Task.assures_liftM, Task.ensures_atomic, Task.ensures_iff_leads]
  have ends (failed : List ClusterError) (p : Cluster P × W) :
      Assures (Beside env) (fun _ => True) (fun _ => R (.ok ())) (fun e => R (.error e))
        (match failed with
          | [] => pure ()
          | failures => throw (.teardown failures)) p ↔ R (reported failed) p := by
    cases failed with
    | nil => exact Task.assures_pure
    | cons _ _ => exact Task.assures_throw
  constructor
  · rintro h _ ⟨_, w'⟩ ⟨attempts, releases, rfl, rfl⟩
    exact (ends _ _).1 (h _ _ ((leads_releaseAll tidy'.sound tidy'.present).2
      ⟨attempts, releases, rfl, rfl⟩))
  · rintro h failed ⟨c', w'⟩ led
    obtain ⟨attempts, releases, rfl, rfl⟩ := (leads_releaseAll tidy'.sound tidy'.present).1 led
    exact (ends _ _).2 (h _ (_, w') ⟨attempts, releases, rfl, rfl⟩)

end Cluster

end ShardCluster
