import Mathlib.Algebra.BigOperators.Group.List.Basic
import ShardCluster.Proofs.Names
import ShardCluster.Proofs.NodeAccounts

/-!
# Clusters in order

Between calls, and wherever a call waits, a cluster is in order (`InOrder`): its nodes are tidy, its
membership agrees with them, and the estate is theirs and something extra. While a node is set up or
released, it is in hand and the rest of the cluster awaits it (`Awaits`). `InOrder.take` and
`Awaits.place` go from one view to the other.
-/

namespace ShardCluster

/-! ### Identities without conflict -/

lemma Identity.conflictsWith_comm (i j : Identity) : i.conflictsWith j = j.conflictsWith i := by
  simp only [Identity.conflictsWith, Path.same]
  rw [Bool.beq_comm, Bool.beq_comm (a := i.port), Bool.beq_comm (a := i.dataDirectory.components)]

lemma Identity.logDirectory_ne {i j : Identity} (h : i.conflictsWith j = false) :
    i.logDirectory ≠ j.logDirectory := by
  intro same
  have := Path.same_of_child_eq (by decide +kernel) same
  simp [Identity.conflictsWith, this] at h

variable {P W : Type}

/-! ### Tidy nodes -/

/-- what is out there because of some nodes -/
def Estate.ofNodes (nodes : List (Node P)) : Estate P := (nodes.map Node.estate).sum

namespace Estate

variable {l l' : List (Node P)} {n : Node P}

@[simp] lemma ofNodes_nil : ofNodes ([] : List (Node P)) = 0 := rfl

@[simp] lemma ofNodes_cons : ofNodes (n :: l) = n.estate + ofNodes l := by
  simp [ofNodes]

lemma ofNodes_perm (h : l.Perm l') : ofNodes l = ofNodes l' := (h.map _).sum_eq

end Estate

/-- **Tidy nodes**: each is sound and not yet cleaned up, and any two could run side by side. -/
structure Tidy (nodes : List (Node P)) : Prop where
  sound : ∀ n ∈ nodes, n.Sound
  present : ∀ n ∈ nodes, n.phase ≠ .cleanedUp
  apart : nodes.Pairwise fun m n => m.identity.conflictsWith n.identity = false

section Tidy

variable {l l' : List (Node P)} {n : Node P}

lemma tidy_nil : Tidy ([] : List (Node P)) := ⟨by simp, by simp, .nil⟩

lemma tidy_cons : Tidy (n :: l) ↔ n.Sound ∧ n.phase ≠ .cleanedUp ∧
    (∀ m ∈ l, n.identity.conflictsWith m.identity = false) ∧ Tidy l := by
  constructor
  · rintro ⟨sound, present, apart⟩
    rw [List.forall_mem_cons] at sound present
    rw [List.pairwise_cons] at apart
    exact ⟨sound.1, present.1, apart.1, sound.2, present.2, apart.2⟩
  · rintro ⟨sound, present, apart, h⟩
    exact ⟨List.forall_mem_cons.2 ⟨sound, h.sound⟩, List.forall_mem_cons.2 ⟨present, h.present⟩,
      List.pairwise_cons.2 ⟨apart, h.apart⟩⟩

lemma Tidy.perm (h : Tidy l) (p : l.Perm l') : Tidy l' where
  sound n hn := h.sound n (p.mem_iff.2 hn)
  present n hn := h.present n (p.mem_iff.2 hn)
  apart := (p.pairwise_iff fun {m n} hmn => by
    rwa [Identity.conflictsWith_comm]).1 h.apart

lemma Tidy.sublist (h : Tidy l') (s : l.Sublist l') : Tidy l where
  sound n hn := h.sound n (s.subset hn)
  present n hn := h.present n (s.subset hn)
  apart := h.apart.sublist s

end Tidy

namespace Cluster

/-! ### Clusters in order -/

/-- what is out there because of a cluster -/
def estate (c : Cluster P) : Estate P := .ofNodes c.allocated

/-- **The membership agrees with the nodes**: the workers are those that are registered, in the same
order, a recorded coordinator is there, and without one there are no workers. Members run. -/
structure Agrees (c : Cluster P) : Prop where
  enrolled : c.membership.workers = c.workers.map (·.identity)
  led : ∀ i, c.membership.coordinator = some i →
    ∃ n, c.coordinator = some n ∧ n.identity = i ∧ n.phase = .running
  alone : c.membership.coordinator = none → c.workers = [] ∧ c.onboarding = none
  serving : ∀ n ∈ c.workers, n.phase = .running
  sized : c.workers.length ≤ c.config.plannedWorkers

/-- **A cluster in order**, with something extra in the estate. -/
structure InOrder (held : Estate P → W → Prop) (extra : Estate P) (c : Cluster P) (w : W) :
    Prop where
  tidy : Tidy c.allocated
  agrees : c.Agrees
  estate : held (c.estate + extra) w

/-- The identity has no conflict with any node. -/
def Free (c : Cluster P) (i : Identity) : Prop :=
  ∀ m ∈ c.allocated, i.conflictsWith m.identity = false

theorem checkIdentity_eq_ok {c : Cluster P} {i : Identity} (h : Tidy c.allocated) :
    c.checkIdentity i = .ok () ↔ c.Free i := by
  have refused (n : Node P) (hn : n ∈ c.allocated) :
      (decide (n.phase ≠ .cleanedUp) && n.identity.conflictsWith i) =
        i.conflictsWith n.identity := by
    rw [decide_eq_true (h.present n hn), Bool.true_and, Identity.conflictsWith_comm]
  unfold checkIdentity Free
  constructor
  · intro hc n hn
    split at hc
    · cases hc
    · rename_i none_found
      have := List.find?_eq_none.1 none_found n hn
      rwa [refused n hn, Bool.not_eq_true] at this
  · intro hf
    have : c.allocated.find? (fun n => decide (n.phase ≠ .cleanedUp) &&
        n.identity.conflictsWith i) = none := by
      refine List.find?_eq_none.2 fun n hn => ?_
      rw [refused n hn, hf n hn]
      exact Bool.false_ne_true
    rw [this]

/-! ### Nodes in their places -/

section Places

variable {c : Cluster P} {n : Node P}

@[simp] lemma withLead_coordinator : (c.withLead n).coordinator = some n := rfl

@[simp] lemma withNewcomer_onboarding : (c.withNewcomer n).onboarding = some n := rfl

lemma allocated_withLead (vacant : c.coordinator = none) :
    (c.withLead n).allocated = n :: c.allocated := by
  simp [allocated, withLead, vacant]

lemma allocated_withNewcomer (vacant : c.onboarding = none) :
    (c.withNewcomer n).allocated.Perm (n :: c.allocated) := by
  simp only [allocated, withNewcomer, vacant, Option.toList_some, Option.toList_none,
    List.append_nil, List.append_assoc, List.singleton_append]
  exact (List.perm_middle.append_left _).trans List.perm_middle

lemma allocated_settle : (settle n false c).allocated.Perm (n :: c.allocated) := by
  simp only [allocated, settle, Bool.false_eq_true, if_false]
  rw [← List.append_assoc]
  exact List.perm_append_singleton _ _

lemma Agrees.withLead (h : c.Agrees) (vacant : c.coordinator = none) : (c.withLead n).Agrees where
  enrolled := h.enrolled
  led i hi := by
    obtain ⟨n, hn, -⟩ := h.led i hi
    rw [vacant] at hn
    cases hn
  alone := h.alone
  serving := h.serving
  sized := h.sized

lemma Agrees.withNewcomer (h : c.Agrees) (led : c.membership.coordinator ≠ none) :
    (c.withNewcomer n).Agrees where
  enrolled := h.enrolled
  led := h.led
  alone hc := absurd hc led
  serving := h.serving
  sized := h.sized

lemma Agrees.settle (h : c.Agrees) : (settle n false c).Agrees :=
  ⟨h.enrolled, h.led, h.alone, h.serving, h.sized⟩

lemma Agrees.withoutLead (h : c.Agrees) (unrecorded : c.membership.coordinator = none) :
    Agrees { c with coordinator := none } where
  enrolled := h.enrolled
  led i hi := by
    rw [show c.membership.coordinator = some i from hi] at unrecorded
    cases unrecorded
  alone := h.alone
  serving := h.serving
  sized := h.sized

lemma Agrees.withoutNewcomer (h : c.Agrees) : Agrees { c with onboarding := none } :=
  ⟨h.enrolled, h.led, fun hc => ⟨(h.alone hc).1, rfl⟩, h.serving, h.sized⟩

end Places

/-! ### A node in hand and the rest of its cluster -/

/-- **A cluster that awaits a node** of that identity. -/
structure Awaits (c : Cluster P) (i : Identity) : Prop where
  tidy : Tidy c.allocated
  agrees : c.Agrees
  free : c.Free i

lemma estate_of_perm {c c' : Cluster P} {n : Node P}
    (perm : c'.allocated.Perm (n :: c.allocated)) : c'.estate = n.estate + c.estate :=
  (Estate.ofNodes_perm perm).trans Estate.ofNodes_cons

section Hand

variable {held : Estate P → W → Prop} {extra : Estate P} {c c' : Cluster P} {i : Identity}
  {n : Node P} {w : W}

theorem Awaits.place (h : c.Awaits i) (hn : n.InHand held i (c.estate + extra) w)
    (perm : c'.allocated.Perm (n :: c.allocated)) (agrees : c'.Agrees) :
    c'.InOrder held extra w where
  tidy := Tidy.perm (tidy_cons.2 ⟨hn.sound, hn.present, hn.identity ▸ h.free, h.tidy⟩) perm.symm
  agrees := agrees
  estate := by
    rw [estate_of_perm perm, add_assoc]
    exact hn.estate

theorem InOrder.take (h : c'.InOrder held extra w) (perm : c'.allocated.Perm (n :: c.allocated))
    (agrees : c.Agrees) : c.Awaits n.identity ∧ n.InHand held n.identity (c.estate + extra) w := by
  obtain ⟨sound, present, free, tidy⟩ := tidy_cons.1 (h.tidy.perm perm)
  refine ⟨⟨tidy, agrees, free⟩, rfl, sound, present, ?_⟩
  rw [← add_assoc, ← estate_of_perm perm]
  exact h.estate

lemma Awaits.placeLead (h : c.Awaits i) (vacant : c.coordinator = none)
    (hn : n.InHand held i (c.estate + extra) w) : (c.withLead n).InOrder held extra w :=
  h.place hn (by rw [allocated_withLead vacant]) (h.agrees.withLead vacant)

lemma Awaits.placeNewcomer (h : c.Awaits i) (vacant : c.onboarding = none)
    (led : c.membership.coordinator ≠ none) (hn : n.InHand held i (c.estate + extra) w) :
    (c.withNewcomer n).InOrder held extra w :=
  h.place hn (allocated_withNewcomer vacant) (h.agrees.withNewcomer led)

lemma Awaits.strand (h : c.Awaits i) (hn : n.InHand held i (c.estate + extra) w) :
    (settle n false c).InOrder held extra w :=
  h.place hn allocated_settle h.agrees.settle

lemma Awaits.record (awaits : c.Awaits i) (vacant : c.coordinator = none)
    (hn : n.InHand held i (c.estate + extra) w) (running : n.phase = .running) :
    InOrder held extra { c.withLead n with
      membership := { c.membership with coordinator := some n.identity } } w := by
  have h := awaits.placeLead vacant hn
  refine ⟨h.tidy, ?_, h.estate⟩
  exact
    { enrolled := awaits.agrees.enrolled
      led := fun _ hi => ⟨n, rfl, Option.some.inj hi, running⟩
      alone := fun hc => by cases hc
      serving := awaits.agrees.serving
      sized := awaits.agrees.sized }

lemma Awaits.enrol (awaits : c.Awaits i) (vacant : c.onboarding = none)
    (led : c.membership.coordinator ≠ none) (room : c.workers.length < c.config.plannedWorkers)
    (hn : n.InHand held i (c.estate + extra) w) (running : n.phase = .running) :
    InOrder held extra { c.withNewcomer n with
      onboarding := none
      membership := c.membership.addWorker n.identity
      workers := c.workers ++ [n] } w := by
  refine awaits.place hn ?_ ?_
  · simp only [allocated, vacant, Option.toList_none, List.append_nil, List.append_assoc]
    exact (List.perm_middle.append_left _).trans List.perm_middle
  · exact
      { enrolled := by simp [Membership.addWorker, awaits.agrees.enrolled]
        led := awaits.agrees.led
        alone := fun hc => absurd hc led
        serving := by
          rintro m hm
          rcases List.mem_append.1 hm with hm | hm
          · exact awaits.agrees.serving m hm
          · rw [List.mem_singleton.1 hm]
            exact running
        sized := by
          rw [List.length_append]
          exact room }

lemma Awaits.inOrder (h : c.Awaits i) (hw : held (c.estate + extra) w) : c.InOrder held extra w :=
  ⟨h.tidy, h.agrees, hw⟩

lemma InOrder.still {w' : W} (h : c.InOrder held extra w) (hw : held (c.estate + extra) w') :
    c.InOrder held extra w' :=
  ⟨h.tidy, h.agrees, hw⟩

lemma InOrder.awaits (h : c.InOrder held extra w) (free : c.Free i) : c.Awaits i :=
  ⟨h.tidy, h.agrees, free⟩

end Hand

end Cluster

end ShardCluster
