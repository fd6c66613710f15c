import Mathlib
import ShardCluster.Cluster.Config

/-!
# Limits as numbers

Each limit of a cluster is an exact formula in the number of nodes, cut off at the greatest 32-bit
word (`Ceilings.toNat_maxWalSenders` and its siblings, put together in `Ceilings.limits_exact`). The
senders stay below the connections as long as the formulas do not reach the greatest word
(`Ceilings.senders_below_connections_iff`).

The server can hold every limit in a block as long as twice the pairs of nodes fit into an integer
setting. A configuration is accepted at any size, and so beyond that as well
(`Config.ceilings_held_iff`).
-/

namespace ShardCluster

namespace Ceilings

/-! ### Words that stop at the greatest one -/

lemma toNat_wordMax : wordMax.toNat = 4294967295 := rfl

lemma toNat_clamp (n : Nat) : (clamp n).toNat = min n wordMax.toNat := by
  unfold clamp
  split
  · next fits =>
    rw [UInt32.toNat_ofNat_of_lt' fits, toNat_wordMax]
    have : n < 4294967296 := fits
    omega
  · next beyond =>
    have : ¬ n < 4294967296 := beyond
    rw [toNat_wordMax]
    omega

lemma toNat_plus (a b : UInt32) : (plus a b).toNat = min (a.toNat + b.toNat) wordMax.toNat := by
  have ha := a.toNat_lt
  have hb := b.toNat_lt
  have room : (wordMax - b).toNat = wordMax.toNat - b.toNat := by
    rw [UInt32.toNat_sub, toNat_wordMax]
    omega
  unfold plus
  simp only [UInt32.le_iff_toNat_le, room, toNat_wordMax]
  split
  · next fits =>
    rw [UInt32.toNat_add]
    omega
  · next beyond =>
    rw [toNat_wordMax]
    omega

lemma toNat_times (a b : UInt32) : (times a b).toNat = min (a.toNat * b.toNat) wordMax.toNat :=
  toNat_clamp _

/-! ### The limits as numbers -/

section Limits

variable (workers : Nat)

lemma toNat_nodes : (plus (clamp workers) 1).toNat = min (workers + 1) wordMax.toNat := by
  rw [toNat_plus, toNat_clamp, UInt32.toNat_one, toNat_wordMax]
  omega

/-- Cutting the nodes off before they are paired makes no difference. -/
lemma toNat_pairs : (times (plus (clamp workers) 1) (plus (clamp workers) 1)).toNat
    = min ((workers + 1) ^ 2) wordMax.toNat := by
  rw [toNat_times, toNat_nodes]
  rcases Nat.le_total (workers + 1) wordMax.toNat with fits | beyond
  · rw [Nat.min_eq_left fits, Nat.pow_two]
  · have large : wordMax.toNat ≤ (workers + 1) ^ 2 :=
      beyond.trans (Nat.le_self_pow (by decide) _)
    rw [Nat.min_eq_right beyond, Nat.min_eq_right large]
    decide

lemma toNat_maxWalSenders : (forWorkers workers).maxWalSenders.toNat
    = min (max ((workers + 1) ^ 2 + 10) 50) wordMax.toNat := by
  simp only [forWorkers, UInt32.toNat_max, toNat_plus, toNat_pairs, toNat_wordMax,
    UInt32.reduceToNat]
  omega

lemma toNat_maxConnections : (forWorkers workers).maxConnections.toNat
    = min (max (max ((workers + 1) * 20) (max ((workers + 1) ^ 2 + 10) 50 + 10)) 200)
        wordMax.toNat := by
  simp only [forWorkers, UInt32.toNat_max, toNat_plus, toNat_times _ 20, toNat_clamp, toNat_pairs,
    headroom, toNat_wordMax, UInt32.reduceToNat]
  grind

lemma toNat_maxReplicationSlots : (forWorkers workers).maxReplicationSlots.toNat
    = min (max ((workers + 1) ^ 2 * 2) 100) wordMax.toNat := by
  simp only [forWorkers, UInt32.toNat_max, toNat_times _ 2, toNat_pairs, toNat_wordMax,
    UInt32.reduceToNat]
  omega

lemma toNat_maxLogicalReplicationWorkers :
    (forWorkers workers).maxLogicalReplicationWorkers.toNat
      = min (max ((workers + 1) ^ 2) 50) wordMax.toNat := by
  simp only [forWorkers, UInt32.toNat_max, toNat_pairs, toNat_wordMax, UInt32.reduceToNat]
  omega

lemma toNat_maxWorkerProcesses : (forWorkers workers).maxWorkerProcesses.toNat
    = min (max ((workers + 1) ^ 2) 50 + 10) wordMax.toNat := by
  simp only [forWorkers, UInt32.toNat_max, toNat_plus, toNat_pairs, toNat_wordMax,
    UInt32.reduceToNat]
  omega

end Limits

/-! ### Larger clusters -/

/-- Ceilings are compared limit by limit. -/
instance : Preorder Ceilings := Preorder.lift fun c =>
  (c.maxConnections.toNat, c.maxReplicationSlots.toNat, c.maxWalSenders.toNat,
    c.maxLogicalReplicationWorkers.toNat, c.maxWorkerProcesses.toNat)

lemma le_iff {c d : Ceilings} : c ≤ d ↔
    c.maxConnections.toNat ≤ d.maxConnections.toNat
    ∧ c.maxReplicationSlots.toNat ≤ d.maxReplicationSlots.toNat
    ∧ c.maxWalSenders.toNat ≤ d.maxWalSenders.toNat
    ∧ c.maxLogicalReplicationWorkers.toNat ≤ d.maxLogicalReplicationWorkers.toNat
    ∧ c.maxWorkerProcesses.toNat ≤ d.maxWorkerProcesses.toNat := Iff.rfl

lemma monotone_forWorkers : Monotone forWorkers := by
  intro fewer more grown
  have pairs : (fewer + 1) ^ 2 ≤ (more + 1) ^ 2 := Nat.pow_le_pow_left (by omega) 2
  simp only [le_iff, toNat_maxConnections, toNat_maxReplicationSlots, toNat_maxWalSenders,
    toNat_maxLogicalReplicationWorkers, toNat_maxWorkerProcesses]
  omega

lemma forWorkers_three : forWorkers 3 = ⟨200, 100, 50, 50, 60⟩ := by
  decide +kernel

/-- The limits of three workers are the floors of the formulas, so fewer workers have them too. -/
lemma floors_le (workers : Nat) : forWorkers 3 ≤ forWorkers workers := by
  simp only [forWorkers_three, le_iff, toNat_maxConnections, toNat_maxReplicationSlots,
    toNat_maxWalSenders, toNat_maxLogicalReplicationWorkers, toNat_maxWorkerProcesses,
    toNat_wordMax, UInt32.reduceToNat]
  omega

/-- **The limits are exact**: for a cluster of any size, each limit is its formula in the number of
nodes, cut off once, at the greatest word. So a limit is never lowered when workers are added, and
none is ever below that of three workers. -/
theorem limits_exact (workers : Nat) :
    ((forWorkers workers).maxWalSenders.toNat
        = min (2 ^ 32 - 1) (max ((workers + 1) ^ 2 + 10) 50)
      ∧ (forWorkers workers).maxConnections.toNat
        = min (2 ^ 32 - 1)
          (max (max (20 * (workers + 1)) (max ((workers + 1) ^ 2 + 10) 50 + 10)) 200)
      ∧ (forWorkers workers).maxReplicationSlots.toNat
        = min (2 ^ 32 - 1) (max (2 * (workers + 1) ^ 2) 100)
      ∧ (forWorkers workers).maxLogicalReplicationWorkers.toNat
        = min (2 ^ 32 - 1) (max ((workers + 1) ^ 2) 50)
      ∧ (forWorkers workers).maxWorkerProcesses.toNat
        = min (2 ^ 32 - 1) (max ((workers + 1) ^ 2) 50 + 10))
    ∧ Monotone forWorkers
    ∧ forWorkers 3 = ⟨200, 100, 50, 50, 60⟩ ∧ forWorkers 3 ≤ forWorkers workers := by
  refine ⟨?_, monotone_forWorkers, forWorkers_three, floors_le workers⟩
  simp only [toNat_maxWalSenders, toNat_maxConnections, toNat_maxReplicationSlots,
    toNat_maxLogicalReplicationWorkers, toNat_maxWorkerProcesses, toNat_wordMax]
  omega

/-- With 46341 nodes the slots are cut off, and no other limit is. -/
example : (forWorkers 46340).maxReplicationSlots = wordMax
    ∧ (forWorkers 46340).maxWalSenders < wordMax := by
  decide +kernel

/-! ### Senders and connections -/

/-- **Senders stay below connections**, with the three connections that are kept for superusers, for
fewer than 65535 workers and for no more: there the headroom is kept, and from there on both limits
are the greatest word. -/
theorem senders_below_connections_iff (workers : Nat) :
    ((forWorkers workers).maxWalSenders.toNat + 3 < (forWorkers workers).maxConnections.toNat
      ↔ workers < 65535)
    ∧ (workers < 65535 → (forWorkers workers).maxWalSenders.toNat + headroom.toNat
      ≤ (forWorkers workers).maxConnections.toNat)
    ∧ (65535 ≤ workers → (forWorkers workers).maxWalSenders = wordMax
      ∧ (forWorkers workers).maxConnections = wordMax) := by
  have few (fits : workers < 65535) : (workers + 1) ^ 2 ≤ 65535 ^ 2 :=
    Nat.pow_le_pow_left (by omega) 2
  have many (beyond : 65535 ≤ workers) : 65536 ^ 2 ≤ (workers + 1) ^ 2 :=
    Nat.pow_le_pow_left (by omega) 2
  have headroom : headroom.toNat = 10 := rfl
  simp only [← UInt32.toNat_inj, toNat_maxWalSenders, toNat_maxConnections, toNat_wordMax, headroom]
  rcases Nat.lt_or_ge workers 65535 with fits | beyond
  · have small := few fits
    omega
  · have large := many beyond
    omega

/-- At the greatest word no connection is left beside the senders. -/
example : (forWorkers 65535).maxWalSenders = (forWorkers 65535).maxConnections := by
  decide +kernel

/-- the keys that the limits have in a block -/
def keys : List String := ["max_connections", "max_replication_slots", "max_wal_senders",
  "max_logical_replication_workers", "max_worker_processes"]

end Ceilings

/-! ### What an integer setting can hold -/

/-- the value is a number that an integer setting of the server can hold -/
def Setting.IsHeld (s : Setting) : Prop :=
  ∃ n, s.value.toNat? = some n ∧ 1 ≤ n ∧ n ≤ millisLimit

lemma exists_toNat?_toString {n : Nat} {Q : Nat → Prop} :
    (∃ m, (toString n).toNat? = some m ∧ Q m) ↔ Q n := by
  have read : (toString n).toNat? = some n := Nat.toNat?_repr n
  simp only [read, Option.some.injEq, exists_eq_left']

lemma Setting.isHeld_number {key : String} {n : Nat} :
    (⟨key, toString n⟩ : Setting).IsHeld ↔ 1 ≤ n ∧ n ≤ millisLimit :=
  exists_toNat?_toString

namespace Template

variable {t : Template} {node : Identity} {coordinator : ConnectionString}

/-- The limits in a block: three that every node has, and two of a worker. -/
lemma forall_ceilings {Q : Setting → Prop} (role : Role) :
    (∀ s ∈ t.settings role node coordinator, s.key ∈ Ceilings.keys → Q s) ↔
      (role = .worker →
        Q ⟨"max_logical_replication_workers",
          toString t.ceilings.maxLogicalReplicationWorkers.toNat⟩
        ∧ Q ⟨"max_worker_processes", toString t.ceilings.maxWorkerProcesses.toNat⟩)
      ∧ Q ⟨"max_replication_slots", toString t.ceilings.maxReplicationSlots.toNat⟩
      ∧ Q ⟨"max_wal_senders", toString t.ceilings.maxWalSenders.toNat⟩
      ∧ Q ⟨"max_connections", toString t.ceilings.maxConnections.toNat⟩ := by
  cases role <;>
    simp [settings, roleSettings, sharedSettings, Ceilings.keys, and_assoc]

end Template

namespace Config

variable {c : Config} {t : Template}

/-- Only the time settings decide whether a configuration is accepted, and the limits are made from
nothing but the number of workers. -/
lemma template_resized (accepted : c.template = .ok t) (workers : Nat) :
    { c with plannedWorkers := workers }.template
      = .ok { t with ceilings := .forWorkers workers } := by
  rcases retry : RetryIntervals.check c.cmdRetryNaptime c.pollInterval with e | intervals
  · simp [template, retry, bind, Except.bind] at accepted
  rcases timeout : checkMillis "wal_receiver_timeout" c.walReceiverTimeout with e | _
  · simp [template, retry, timeout, bind, Except.bind] at accepted
  simp only [template, retry, timeout, bind, Except.bind, pure, Except.pure,
    Except.ok.injEq] at accepted ⊢
  rw [← accepted]

lemma ceilings_of_template (accepted : c.template = .ok t) :
    t.ceilings = .forWorkers c.plannedWorkers := by
  have resized := template_resized accepted c.plannedWorkers
  have same : t = { t with ceilings := .forWorkers c.plannedWorkers } :=
    Except.ok.inj (accepted.symm.trans resized)
  rw [same]

/-- **What the server can hold.** Every limit in a block of an accepted configuration is a positive
number, and all of them fit into an integer setting if and only if there are fewer than 32767
workers. The number of workers has no part in the acceptance: a configuration that is accepted is
accepted at every size. -/
theorem ceilings_held_iff (accepted : c.template = .ok t) (role : Role) (node : Identity)
    (coordinator : ConnectionString) :
    (∀ s ∈ t.settings role node coordinator, s.key ∈ Ceilings.keys →
      ∃ n, s.value.toNat? = some n ∧ 1 ≤ n)
    ∧ ((∀ s ∈ t.settings role node coordinator, s.key ∈ Ceilings.keys → s.IsHeld)
      ↔ c.plannedWorkers < 32767)
    ∧ ∀ workers, ∃ resized, { c with plannedWorkers := workers }.template = .ok resized := by
  have few (fits : c.plannedWorkers < 32767) : (c.plannedWorkers + 1) ^ 2 ≤ 32767 ^ 2 :=
    Nat.pow_le_pow_left (by omega) 2
  have many (beyond : 32767 ≤ c.plannedWorkers) : 32768 ^ 2 ≤ (c.plannedWorkers + 1) ^ 2 :=
    Nat.pow_le_pow_left (by omega) 2
  have limit : millisLimit = 2147483647 := rfl
  refine ⟨?_, ?_, fun workers => ⟨_, template_resized accepted workers⟩⟩
  all_goals
    simp only [Template.forall_ceilings, exists_toNat?_toString, Setting.isHeld_number,
      ceilings_of_template accepted, Ceilings.toNat_maxLogicalReplicationWorkers,
      Ceilings.toNat_maxWorkerProcesses, Ceilings.toNat_maxReplicationSlots,
      Ceilings.toNat_maxWalSenders, Ceilings.toNat_maxConnections, Ceilings.toNat_wordMax, limit]
  · refine ⟨fun _ => ⟨?_, ?_⟩, ?_, ?_, ?_⟩ <;> omega
  · rcases Nat.lt_or_ge c.plannedWorkers 32767 with fits | beyond
    · have small := few fits
      refine ⟨fun _ => fits, fun _ => ⟨fun _ => ⟨?_, ?_⟩, ?_, ?_, ?_⟩⟩ <;> omega
    · have large := many beyond
      refine ⟨fun held => ?_, fun fits => ?_⟩
      · have := held.2.1.2
        omega
      · omega

/-- The defaults at the greatest size whose limits fit, and at the next one: both are accepted, and
the second one gives every node more slots than the setting can hold. -/
theorem slots_outgrow_setting :
    (∃ t, { ofEnvironment ⟨[]⟩ with plannedWorkers := 32766 }.template = .ok t
      ∧ ∀ s ∈ t.settings .worker ⟨"W1", 5433, ⟨[]⟩⟩ ⟨"port=5432"⟩, s.key ∈ Ceilings.keys → s.IsHeld)
    ∧ ∃ t, { ofEnvironment ⟨[]⟩ with plannedWorkers := 32767 }.template = .ok t
      ∧ ⟨"max_replication_slots", "2147483648"⟩
        ∈ t.settings .worker ⟨"W1", 5433, ⟨[]⟩⟩ ⟨"port=5432"⟩
      ∧ ¬ ∀ s ∈ t.settings .worker ⟨"W1", 5433, ⟨[]⟩⟩ ⟨"port=5432"⟩,
        s.key ∈ Ceilings.keys → s.IsHeld := by
  obtain ⟨t, accepted⟩ : ∃ t, (ofEnvironment ⟨[]⟩).template = .ok t := by
    have made : (ofEnvironment ⟨[]⟩).template.toOption.isSome := by decide +kernel
    rcases result : (ofEnvironment ⟨[]⟩).template with e | t
    · simp only [result, Except.toOption, Option.isSome_none, Bool.false_eq_true] at made
    · exact ⟨t, rfl⟩
  have fitting := template_resized accepted 32766
  have outgrown := template_resized accepted 32767
  refine ⟨⟨_, fitting, ?_⟩, _, outgrown, ?_, fun held => ?_⟩
  · exact (ceilings_held_iff fitting .worker _ _).2.1.2 (by decide)
  · have slots : toString (Ceilings.forWorkers 32767).maxReplicationSlots.toNat = "2147483648" := by
      decide +kernel
    rw [← slots]
    simp only [Template.settings, Template.sharedSettings, List.mem_append, List.mem_cons, true_or,
      or_true]
  · exact absurd ((ceilings_held_iff outgrown .worker _ _).2.1.1 held) (by decide)

end Config
end ShardCluster
