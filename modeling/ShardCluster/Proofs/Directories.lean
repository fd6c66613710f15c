import ShardCluster.Proofs.Identities
import ShardCluster.Proofs.Takeover

/-!
# Directories side by side

The directories of the nodes of a cluster have the same parent. Two nodes whose names are single
names are therefore side by side: neither directory is or lies inside the other's, and a clean-up
of one leaves the other alone (`History.directories_apart`). Only equal directories are refused, so
that a name with a slash may lead into the directory of another node
(`History.nested_directories`).
-/

namespace ShardCluster

open ShardCluster.Task (Leads Beside)

variable {P W : Type}

/-- Whether a path is another one or lies inside of it, by their components. -/
def Path.Within (p q : Path) : Prop := q.components <+: p.components

namespace FileSystem

variable {fs fs' : FileSystem} {base : Path} {a b : String} {place place' p : Place}
  {entry entry' : Entry}

lemma find_child (one : Path.IsName a) (h : fs.find (base.child a) .kept = .ok (place, entry)) :
    ∃ n q, fs.layout.Route linkLimit (fs.origin base) base.names n q ∧
      place = q ++ [Utf8.encode a] := by
  obtain ⟨q, ⟨n, route⟩, -, arrived⟩ :=
    resolve_spec one.isOpen_child one.names_child one.plain (find_eq h)
  refine ⟨n, q, ?_, ?_⟩
  · unfold origin at route ⊢
    rwa [one.isAbsolute_child] at route
  · exact (arrived.resolve_right fun h => h.1 rfl).1

lemma apart_of_find (one : Path.IsName a) (two : Path.IsName b)
    (ne : Utf8.encode a ≠ Utf8.encode b) (h : fs.find (base.child a) .kept = .ok (place, entry))
    (h' : fs.find (base.child b) .kept = .ok (place', entry')) (below : place' <+: p) :
    ¬ place <+: p := by
  obtain ⟨n, q, route, rfl⟩ := find_child one h
  obtain ⟨n', q', route', rfl⟩ := find_child two h'
  obtain ⟨-, rfl⟩ := route.unique route'
  intro below'
  have same := List.prefix_of_prefix_length_le below' below (by simp)
  exact ne (by simpa using same.eq_of_length (by simp))

end FileSystem

/-- **Directories side by side.** After any history of a new cluster no two of its nodes have the
same directory. If both names are single names, neither directory lies inside the other, and a
clean-up of one of the nodes, wherever it stops, leaves alone what is at the place of the other
one's directory and below it. -/
theorem History.directories_apart {env : W → W → Prop} {host : Host P W} {config : Config}
    {c₀ c : Cluster P} {w₀ w : W} {events : List Event} (created : Cluster.create config = .ok c₀)
    (h : History env host (c₀, w₀) events (c, w)) {i j : ℕ} {m n : Node P}
    (hm : c.allocated[i]? = some m) (hn : c.allocated[j]? = some n) (distinct : i ≠ j) :
    m.identity.dataDirectory.components ≠ n.identity.dataDirectory.components ∧
    (Path.IsName m.name → Path.IsName n.name →
      ¬ m.identity.dataDirectory.Within n.identity.dataDirectory ∧
      ¬ n.identity.dataDirectory.Within m.identity.dataDirectory ∧
      ∀ files, host.OnFiles env files → ∀ place entry,
        (files w).find n.identity.dataDirectory .kept = .ok (place, entry) →
        ∀ r m' w', Leads (Beside env) (Node.cleanup host).run (m, w) r (m', w') →
          ∀ p, place <+: p → (files w').layout p = (files w).layout p) := by
  obtain ⟨_, ho⟩ := h.inOrder created
  have under := (h.knows (R := fun i => i = .under config.baseDirectory i.name i.port)
    (fun _ _ => rfl) (Cluster.knows_create created)).nodes
  have apart : m.identity.conflictsWith n.identity = false := by
    rw [List.getElem?_eq_some_iff] at hm hn
    obtain ⟨hi, rfl⟩ := hm
    obtain ⟨hj, rfl⟩ := hn
    have pairwise := List.pairwise_iff_getElem.1 ho.tidy.apart
    rcases Nat.lt_or_gt_of_ne distinct with lt | gt
    · exact pairwise i j hi hj lt
    · rw [Identity.conflictsWith_comm]
      exact pairwise j i hj hi gt
  have different : m.identity.dataDirectory.components ≠ n.identity.dataDirectory.components := by
    simp only [Identity.conflictsWith, Path.same, Bool.or_eq_false_iff,
      beq_eq_false_iff_ne] at apart
    exact apart.2
  refine ⟨different, fun one two => ?_⟩
  have of_m : m.identity.dataDirectory = config.baseDirectory.child m.name :=
    congrArg Identity.dataDirectory (under m (List.mem_of_getElem? hm))
  have of_n : n.identity.dataDirectory = config.baseDirectory.child n.name :=
    congrArg Identity.dataDirectory (under n (List.mem_of_getElem? hn))
  rw [of_m, of_n] at different ⊢
  have long : (config.baseDirectory.child m.name).components.length =
      (config.baseDirectory.child n.name).components.length := by
    simp [one.components_child, two.components_child]
  refine ⟨fun within => different (within.eq_of_length long.symm).symm,
    fun within => different (within.eq_of_length long), ?_⟩
  intro files works place entry found r m' w' led p below
  have names : Utf8.encode m.name ≠ Utf8.encode n.name := fun same => different (by
    rw [one.components_child, two.components_child, same])
  have beyond {place' : Place} {entry' : Entry}
      (found' : (files w).find m.identity.dataDirectory .kept = .ok (place', entry'))
      (s : Option Shape) : (files w).layout.set place' s p = (files w).layout p := by
    rw [of_m] at found'
    exact Layout.set_elsewhere (FileSystem.apart_of_find one two names found' found below)
  rcases (Node.cleanup_removal works).holds led with same | ⟨-, ⟨-, same | emptied⟩ | ⟨-, cleared⟩⟩
  · rw [show files w' = files w from same]
  · rw [same]
  · obtain ⟨place', inner, found', -, less⟩ := emptied
    rw [less, beyond found']
  · obtain ⟨place', entry', found', -, -, less⟩ := cleared
    rw [less, beyond found']

open Scenario (Floor)

/-- A coordinator and a worker side by side: the worker's directory survives whatever becomes of
cleaning the coordinator up. -/
theorem History.pair_apart : ∃ s m n,
    History (fun w w' => w' = w) Floor.host (.ofDefaults, .slow)
      [.ended (.addWorker "W1" 5433), .ended (.bootstrap "Lord" 5432)] s ∧
    s.1.allocated[0]? = some m ∧ s.1.allocated[1]? = some n ∧ m.name = "Lord" ∧ n.name = "W1" ∧
    ¬ n.identity.dataDirectory.Within m.identity.dataDirectory ∧
    ∃ place entry, s.2.files.find n.identity.dataDirectory .kept = .ok (place, entry) ∧
      ∀ r m' f', Leads (Beside fun w w' => w' = w) (Node.cleanup Floor.host).run (m, s.2) r
        (m', f') →
        ∀ p, place <+: p → f'.files.layout p = s.2.files.layout p := by
  have new : History (fun w w' => w' = w) Floor.host (.ofDefaults, .slow) []
    (.ofDefaults, .slow) := .start
  let base := Cluster.ofDefaults.config.baseDirectory
  obtain ⟨s, h, first, second, there⟩ : ∃ s, History (fun w w' => w' = w) Floor.host
      (.ofDefaults, .slow) [.ended (.addWorker "W1" 5433), .ended (.bootstrap "Lord" 5432)] s ∧
      (s.1.allocated[0]?).map (·.identity) = some (.under base "Lord" 5432) ∧
      (s.1.allocated[1]?).map (·.identity) = some (.under base "W1" 5433) ∧
      (s.2.files.find (base.child "W1") .kept).toBool :=
    ⟨_, (new.run Task.quiet_eq (.bootstrap "Lord" 5432) (by decide +kernel)).run Task.quiet_eq
      (.addWorker "W1" 5433) (by decide +kernel), by decide +kernel, by decide +kernel,
      by decide +kernel⟩
  obtain ⟨m, hm, of_m⟩ := Option.map_eq_some_iff.1 first
  obtain ⟨n, hn, of_n⟩ := Option.map_eq_some_iff.1 second
  have lead : m.name = "Lord" := congrArg Identity.name of_m
  have worker : n.name = "W1" := congrArg Identity.name of_n
  obtain ⟨-, apart⟩ := History.directories_apart Cluster.create_ofDefaults h hm hn (by decide)
  obtain ⟨-, outside, kept⟩ := apart (lead ▸ by decide +kernel) (worker ▸ by decide +kernel)
  rcases found : s.2.files.find n.identity.dataDirectory .kept with e | ⟨place, entry⟩
  · rw [of_n] at found
    rw [show base.child "W1" = (Identity.under base "W1" 5433).dataDirectory from rfl,
      found] at there
    cases there
  · exact ⟨s, m, n, h, hm, hn, lead, worker, outside, place, entry, found,
      kept Floor.files (onFiles_floor fun _ _ same => congrArg Floor.files same) place entry found⟩

/-- **Names with a slash**: a worker whose name leads into the directory of another one is accepted,
as only equal directories are refused, and both run. -/
theorem History.nested_directories : ∃ s m n,
    History (fun w w' => w' = w) Floor.host (.ofDefaults, .slow)
      [.ended (.addWorker "W1/in" 5434), .ended (.addWorker "W1" 5433),
        .ended (.bootstrap "Lord" 5432)] s ∧
    s.1.allocated[1]? = some m ∧ s.1.allocated[2]? = some n ∧ m.phase = .running ∧
    n.phase = .running ∧ n.identity.dataDirectory.Within m.identity.dataDirectory := by
  have new : History (fun w w' => w' = w) Floor.host (.ofDefaults, .slow) []
    (.ofDefaults, .slow) := .start
  let base := Cluster.ofDefaults.config.baseDirectory
  obtain ⟨s, h, first, second⟩ : ∃ s, History (fun w w' => w' = w) Floor.host (.ofDefaults, .slow)
      [.ended (.addWorker "W1/in" 5434), .ended (.addWorker "W1" 5433),
        .ended (.bootstrap "Lord" 5432)] s ∧
      (s.1.allocated[1]?).map (fun n => (n.phase, n.identity.dataDirectory)) =
        some (.running, base.child "W1") ∧
      (s.1.allocated[2]?).map (fun n => (n.phase, n.identity.dataDirectory)) =
        some (.running, base.child "W1/in") :=
    ⟨_, ((new.run Task.quiet_eq (.bootstrap "Lord" 5432) (by decide +kernel)).run Task.quiet_eq
      (.addWorker "W1" 5433) (by decide +kernel)).run Task.quiet_eq (.addWorker "W1/in" 5434)
      (by decide +kernel), by decide +kernel, by decide +kernel⟩
  obtain ⟨m, hm, of_m⟩ := Option.map_eq_some_iff.1 first
  obtain ⟨n, hn, of_n⟩ := Option.map_eq_some_iff.1 second
  rw [Prod.mk.injEq] at of_m of_n
  refine ⟨s, m, n, h, hm, hn, of_m.1, of_n.1, ?_⟩
  rw [of_m.2, of_n.2]
  unfold Path.Within
  decide +kernel

end ShardCluster
