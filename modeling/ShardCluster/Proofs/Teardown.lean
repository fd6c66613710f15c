import ShardCluster.Proofs.Order

/-!
# Teardowns

A teardown that ends leaves a cluster in order; if it succeeds, nothing of the cluster is left. But
where it waits, the node it is cleaning up and those after it are in no place of the cluster
(`Midway`): given up there, it takes them along.
-/

namespace ShardCluster

open ShardCluster.Task (Ensures Assures Beside)

namespace Cluster

variable {P W α : Type}

/-- **A teardown midway** through some nodes: the cluster is in order, and apart from what it
accounts for there are the node that is being cleaned up and the nodes still to come. -/
structure Midway (held : Estate P → W → Prop) (extra : Estate P) (nodes : List (Node P))
    (node : Node P) (rest : List (Node P)) (p : Cluster P × W) : Prop where
  reached : ∃ finished before, nodes = finished ++ before :: rest ∧
    node.identity = before.identity
  claimed : node.claimed = true
  present : node.phase ≠ .cleanedUp
  order : p.1.InOrder held (node.estate + .ofNodes rest + extra) p.2

lemma Midway.cons {held : Estate P → W → Prop} {extra : Estate P} {nodes rest : List (Node P)}
    {node first : Node P} {p : Cluster P × W} (h : Midway held extra nodes node rest p) :
    Midway held extra (first :: nodes) node rest p := by
  obtain ⟨finished, before, rfl, same⟩ := h.reached
  exact ⟨⟨first :: finished, before, rfl, same⟩, h.claimed, h.present, h.order⟩

lemma Midway.lost_ne_zero {held : Estate P → W → Prop} {extra : Estate P}
    {nodes rest : List (Node P)} {node : Node P} {p : Cluster P × W}
    (h : Midway held extra nodes node rest p) : node.estate + .ofNodes rest ≠ 0 := by
  intro nothing
  have : node.identity.logDirectory ∈ (node.estate + Estate.ofNodes rest).2 := by
    simp [Node.estate, h.claimed, h.present, Estate.directory]
  rw [nothing] at this
  exact Multiset.notMem_zero _ this

section Specs

variable {env : W → W → Prop} {held : Estate P → W → Prop} {host : Host P W} {extra : Estate P}
  {c : Cluster P} {i : Identity} {n : Node P} {w : W}

lemma toRelease_perm : c.toRelease.Perm c.allocated := by
  unfold toRelease allocated
  refine List.perm_append_comm.trans ?_
  simp only [List.append_assoc]
  refine List.Perm.append_left _ ?_
  rw [← List.append_assoc]
  exact List.perm_append_comm.trans (List.Perm.append_left _ List.perm_append_comm)

lemma inOrder_emptied (h : held extra w) : c.emptied.InOrder held extra w where
  tidy := tidy_nil
  agrees :=
    { enrolled := rfl
      led := fun _ hi => by cases hi
      alone := fun _ => ⟨rfl, rfl⟩
      serving := fun _ hn => by cases hn
      sized := Nat.zero_le _ }
  estate := by
    rw [show c.emptied.estate = 0 from rfl, zero_add]
    exact h

variable (acc : host.Accounts env held)
include acc

/-- A node is gone or stranded in the end; in between it is in no place of the cluster. -/
theorem release_spec {rest : Estate P} (hn : n.InHand held i rest w) :
    Ensures (Beside env) (fun p => p.1 = c ∧ ∃ n', Node.Settled held i rest n' p.2)
      (fun failure p => match failure with
        | none => p.1 = c ∧ held rest p.2
        | some _ => ∃ n', p.1 = settle n' false c ∧ n'.InHand held i rest p.2)
      (release host n) (c, w) := by
  unfold release
  refine Task.ensures_bind.2 (Task.ensures_owning.2 (Ensures.mono (Node.cleanup_spec acc hn) ?_ ?_))
  · exact fun p hp => ⟨rfl, p.1, hp⟩
  · rintro (e | _) ⟨n', w'⟩ h
    · exact Task.ensures_bind.2 (Task.ensures_update.2 (Task.ensures_pure.2 ⟨n', rfl, h⟩))
    · exact Task.ensures_pure.2 ⟨rfl, h.2.2⟩

/-- **Releasing nodes one after another**: the cluster stays in order, and is the same as before if
nothing failed. -/
theorem releaseAll_spec {nodes : List (Node P)} (tidy : Tidy (nodes ++ c.allocated))
    (agrees : c.Agrees) (hw : held (.ofNodes nodes + (c.estate + extra)) w) :
    Ensures (Beside env) (fun p => ∃ node rest, Midway held extra nodes node rest p)
      (fun failures p => p.1.InOrder held extra p.2 ∧ (failures = [] → p.1 = c))
      (releaseAll host nodes) (c, w) := by
  -- a node that fails goes back into the cluster, so the cluster differs from one node to the next
  induction nodes generalizing c w with
  | nil =>
    refine Task.ensures_pure.2 ⟨⟨tidy, agrees, ?_⟩, fun _ => rfl⟩
    rwa [Estate.ofNodes_nil, zero_add] at hw
  | cons n rest ih =>
    obtain ⟨sound, present, free, tidy'⟩ := tidy_cons.1 tidy
    have later : Estate.ofNodes rest + (c.estate + extra) = c.estate + (.ofNodes rest + extra) := by
      rw [← add_assoc, add_comm (Estate.ofNodes rest), add_assoc]
    have hn : n.InHand held n.identity (.ofNodes rest + (c.estate + extra)) w :=
      ⟨rfl, sound, present, by rwa [Estate.ofNodes_cons, add_assoc] at hw⟩
    have awaits : c.Awaits n.identity :=
      ⟨tidy'.sublist (List.sublist_append_right _ _), agrees,
        fun m hm => free m (List.mem_append_right _ hm)⟩
    unfold releaseAll
    refine Task.ensures_bind.2 ((release_spec acc hn).mono ?_ ?_)
    · rintro ⟨_, w'⟩ ⟨rfl, n', hn'⟩
      refine ⟨n', rest, ⟨[], n, rfl, hn'.identity⟩, hn'.claimed, hn'.present, awaits.inOrder ?_⟩
      have := hn'.estate
      rw [later] at this
      rwa [add_assoc, ← add_assoc, add_comm _ n'.estate, add_assoc]
    · rintro (_ | e) ⟨c', w'⟩ h
      · obtain ⟨rfl, hw'⟩ := h
        refine Task.ensures_bind.2 ((ih tidy' agrees hw').mono ?_ ?_)
        · rintro p ⟨node, rest', hp⟩
          exact ⟨node, rest', hp.cons⟩
        · exact fun failures p hp => Task.ensures_pure.2 hp
      · obtain ⟨n', rfl, hn'⟩ := h
        have perm : (rest ++ (settle n' false c).allocated).Perm (n' :: (rest ++ c.allocated)) :=
          (allocated_settle.append_left _).trans List.perm_middle
        have tidy'' : Tidy (rest ++ (settle n' false c).allocated) :=
          Tidy.perm (tidy_cons.2 ⟨hn'.sound, hn'.present, hn'.identity ▸ free, tidy'⟩) perm.symm
        have hw' : held (.ofNodes rest + ((settle n' false c).estate + extra)) w' := by
          rw [estate_of_perm allocated_settle, add_assoc n'.estate, add_left_comm]
          exact hn'.estate
        refine Task.ensures_bind.2 ((ih tidy'' agrees.settle hw').mono ?_ ?_)
        · rintro p ⟨node, rest', hp⟩
          exact ⟨node, rest', hp.cons⟩
        · refine fun failures p hp => Task.ensures_pure.2 ⟨hp.1, fun none_failed => ?_⟩
          cases none_failed

/-- **A teardown** leaves the cluster in order, and if it succeeds, nothing of it is left. Where it
waits, it is midway through the nodes. -/
theorem teardown_spec (h : c.InOrder held extra w) :
    Assures (Beside env) (fun p => ∃ node rest, Midway held extra c.toRelease node rest p)
      (fun _ p => p.1 = c.emptied ∧ held extra p.2) (fun _ p => p.1.InOrder held extra p.2)
      (teardown host) (c, w) := by
  have tidy : Tidy (c.toRelease ++ c.emptied.allocated) := by
    rw [show c.emptied.allocated = [] from rfl, List.append_nil]
    exact h.tidy.perm toRelease_perm.symm
  have hw : held (.ofNodes c.toRelease + (c.emptied.estate + extra)) w := by
    rw [Estate.ofNodes_perm toRelease_perm, show c.emptied.estate = 0 from rfl, zero_add]
    exact h.estate
  unfold teardown
  simp only [Task.assures_bind, Task.assures_liftM, Task.ensures_atomic]
  refine (releaseAll_spec acc tidy (inOrder_emptied h.estate).agrees hw).mono (fun _ hp => hp) ?_
  rintro (_ | ⟨e, failures⟩) ⟨c', w'⟩ ⟨h', same⟩
  · obtain rfl : c' = c.emptied := same rfl
    refine Task.assures_pure.2 ⟨rfl, ?_⟩
    have := h'.estate
    rwa [show c.emptied.estate = 0 from rfl, zero_add] at this
  · exact Task.assures_throw.2 h'

end Specs

end Cluster

end ShardCluster
