import ShardCluster.Proofs.History
import ShardCluster.Scenario.Stage

/-!
# Ownership

What a cluster has set up and not taken down again belongs to the nodes in its places, each thing to
one of them (`History.ownership`). Only a teardown that is given up breaks this: it loses the node
it was cleaning up and those after it, and no later teardown brings them back
(`History.lost_by_teardowns`).
-/

namespace ShardCluster

open Scenario (Floor)
open ShardCluster.Task (Ensures Assures Beside Leads Quiet)

variable {P W : Type}

namespace Estate

variable {l : List (Node P)}

lemma servers_ofNodes : (ofNodes l).1 = (l.filterMap (·.process) : List P) := by
  induction l with
  | nil => rfl
  | cons n l ih =>
    have : n.estate.1 = (n.process.toList : Multiset P) := by
      rcases hp : n.process with _ | p <;> simp only [Node.estate, hp] <;> split_ifs <;> rfl
    rw [ofNodes_cons, Prod.fst_add, ih, this, Multiset.coe_add]
    rcases hp : n.process with _ | p <;> simp [hp]

lemma directories_ofNodes (present : ∀ n ∈ l, n.phase ≠ .cleanedUp) :
    (ofNodes l).2 = ((l.filter (·.claimed)).map (·.identity.logDirectory) : List Path) := by
  induction l with
  | nil => rfl
  | cons n l ih =>
    rw [List.forall_mem_cons] at present
    have own : n.estate.2 = if n.claimed then {n.identity.logDirectory} else 0 := by
      rcases hp : n.process with _ | p <;>
        simp only [Node.estate, hp, present.1, ne_eq, not_false_eq_true, and_true] <;>
        split_ifs <;> rfl
    rw [ofNodes_cons, Prod.snd_add, ih present.2, own]
    by_cases claimed : n.claimed = true
    · simp [claimed]
    · simp [claimed]

end Estate

/-- **A cluster owns an estate**: its servers and directories are those of the nodes in the places
of the cluster, each of one node. No two nodes share a name, a port or a directory, just those with
a server run, and none has been cleaned up. -/
structure Cluster.Owns (c : Cluster P) (estate : Estate P) : Prop where
  servers : estate.1 = (c.allocated.filterMap (·.process) : List P)
  directories : estate.2 =
    ((c.allocated.filter (·.claimed)).map (·.identity.logDirectory) : List Path)
  distinct : estate.2.Nodup
  running : ∀ n ∈ c.allocated, n.process.isSome ↔ n.phase = .running
  present : ∀ n ∈ c.allocated, n.phase ≠ .cleanedUp
  apart : c.allocated.Pairwise fun m n => m.identity.conflictsWith n.identity = false

lemma Cluster.InOrder.owns {held : Estate P → W → Prop} {extra : Estate P} {c : Cluster P} {w : W}
    (h : c.InOrder held extra w) : c.Owns c.estate where
  servers := Estate.servers_ofNodes
  directories := Estate.directories_ofNodes h.tidy.present
  distinct := by
    rw [Cluster.estate, Estate.directories_ofNodes h.tidy.present, Multiset.coe_nodup]
    refine List.pairwise_map.2 ((h.tidy.apart.sublist List.filter_sublist).imp ?_)
    exact Identity.logDirectory_ne
  running n hn := (h.tidy.sound n hn).serving
  present := h.tidy.present
  apart := h.tidy.apart

/-! ### Histories of a new cluster -/

section Histories

variable [DecidableEq P] {env : W → W → Prop} {host : Host P W} {config : Config}
  {c₀ c : Cluster P} {w₀ w : W} {l : Log P} {events : List Event}

lemma History.logged (created : Cluster.create config = .ok c₀)
    (h : History (Beside env) host.logged (c₀, ([], w₀)) events (c, (l, w))) :
    ∃ lost, (lost = 0 ↔ .givenUp .teardown ∉ events) ∧ l.estate = c.estate + lost ∧
      c.InOrder (fun e (s : Log P × W) => s.1.estate = e) lost (l, w) := by
  obtain ⟨lost, hl, ho⟩ := h.order (accounts_logged env host)
    (Cluster.inOrder_create created (show Log.estate ([] : Log P) = 0 from rfl))
  exact ⟨lost, hl, ho.estate, ho⟩

/-- **Ownership** holds after any history in which no teardown is given up. -/
theorem History.ownership (created : Cluster.create config = .ok c₀)
    (h : History (Beside env) host.logged (c₀, ([], w₀)) events (c, (l, w)))
    (whole : .givenUp .teardown ∉ events) : c.Owns l.estate := by
  obtain ⟨lost, hl, same, ho⟩ := h.logged created
  rw [same, hl.2 whole, add_zero]
  exact ho.owns

/-- A worker that is being started when its registration is given up belongs to the cluster too. -/
theorem History.owns_half_added : ∃ c l w,
    History (Beside fun w w' => w' = w) Floor.host.logged Cluster.sample
      [.givenUp (.addWorker "W1" 5433), .ended (.bootstrap "Lord" 5432)] (c, (l, w)) ∧
    Multiset.card l.estate.1 = 1 ∧ Multiset.card l.estate.2 = 2 ∧ c.Owns l.estate := by
  have quiet : Quiet (Beside (X := Log Simulated.Process) fun w w' : Floor => w' = w) :=
    Task.quiet_eq.beside
  have new : History (Beside fun w w' => w' = w) Floor.host.logged Cluster.sample []
    Cluster.sample := .start
  have h := (new.run quiet (.bootstrap "Lord" 5432) (by decide +kernel)).cut quiet
    (.addWorker "W1" 5433) 100000000 (by decide +kernel)
  exact ⟨_, _, _, h, by decide +kernel, by decide +kernel,
    History.ownership Cluster.create_ofDefaults h (by decide)⟩

/-- **What teardowns lose.** After any history something is lost exactly if a teardown was given up;
everything else is accounted for. A teardown that ends and succeeds leaves just what was lost
before. One that is given up loses the node it was cleaning up, which has a directory, and all nodes
after it as they were. -/
theorem History.lost_by_teardowns (created : Cluster.create config = .ok c₀)
    (h : History (Beside env) host.logged (c₀, ([], w₀)) events (c, (l, w))) :
    ∃ lost : Estate P, (lost = 0 ↔ .givenUp .teardown ∉ events) ∧ l.estate = c.estate + lost ∧
      (∀ c' l' w', Leads (Beside (Beside env)) (Cluster.teardown host.logged).run (c, (l, w))
        (some (.ok ())) (c', (l', w')) → l'.estate = lost) ∧
      ∀ c' l' w', Leads (Beside (Beside env)) (Cluster.teardown host.logged).run (c, (l, w))
          none (c', (l', w')) →
        ∃ (finished rest : List (Node P)) (before node : Node P),
          c.toRelease = finished ++ before :: rest ∧ node.identity = before.identity ∧
          node.claimed = true ∧ c'.Owns c'.estate ∧
          l'.estate = c'.estate + (node.estate + .ofNodes rest + lost) := by
  obtain ⟨lost, hl, same, ho⟩ := h.logged created
  have spec := Cluster.teardown_spec (accounts_logged env host) ho
  refine ⟨lost, hl, same, ?_, ?_⟩
  · intro c' l' w' h'
    exact (spec _ _ h').2
  · intro c' l' w' h'
    obtain ⟨node, rest, midway⟩ := spec _ _ h'
    obtain ⟨finished, before, parts, identity⟩ := midway.reached
    exact ⟨finished, rest, before, node, parts, identity, midway.claimed, midway.order.owns,
      midway.order.estate⟩

/-- A teardown is given up while the first server is being stopped. The next one succeeds, and both
servers are left. -/
theorem History.lost_servers : ∃ c l w c' l' w',
    History (Beside fun w w' => w' = w) Floor.host.logged Cluster.sample
      [.givenUp .teardown, .ended (.addWorker "W1" 5433), .ended (.bootstrap "Lord" 5432)]
      (c, (l, w)) ∧
    Leads (Beside (Beside fun w w' => w' = w)) (Cluster.teardown Floor.host.logged).run (c, (l, w))
      (some (.ok ())) (c', (l', w')) ∧ l'.estate ≠ 0 ∧ Multiset.card l'.estate.1 = 2 := by
  have quiet : Quiet (Beside (X := Log Simulated.Process) fun w w' : Floor => w' = w) :=
    Task.quiet_eq.beside
  have new : History (Beside fun w w' => w' = w) Floor.host.logged Cluster.sample []
    Cluster.sample := .start
  have h := ((new.run quiet (.bootstrap "Lord" 5432) (by decide +kernel)).run quiet
    (.addWorker "W1" 5433) (by decide +kernel)).cut quiet .teardown 100000000 (by decide +kernel)
  obtain ⟨lost, hl, -, left, -⟩ := History.lost_by_teardowns Cluster.create_ofDefaults h
  refine ⟨_, _, _, _, _, _, h, Task.leads_of_quiet_run quiet.beside
    (eq_some_ok (by decide +kernel)), ?_, by decide +kernel⟩
  have again := left _ _ _ (Task.leads_of_quiet_run quiet.beside
    (eq_some_ok (by decide +kernel)))
  rw [again, ne_eq, hl]
  decide

end Histories

end ShardCluster
