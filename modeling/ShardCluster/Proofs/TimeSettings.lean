import ShardCluster.Proofs.RenderedSettings

/-!
# Time settings

A duration is checked and rendered in whole milliseconds. What is below a millisecond has no part in
either, so an interval comes back exactly if there is nothing below a millisecond in it
(`Template.intervals_exact_iff`).
-/

namespace ShardCluster

namespace Duration

/-! ### Whole milliseconds -/

/-- nothing is below a millisecond -/
def IsWhole (d : Duration) : Prop := d.nanos.val % 1000000 = 0

instance (d : Duration) : Decidable d.IsWhole := inferInstanceAs (Decidable (_ = _))

lemma totalNanos_eq (d : Duration) :
    d.totalNanos = d.millis * 1000000 + d.nanos.val % 1000000 := by
  unfold totalNanos millis
  omega

lemma totalNanos_injective : Function.Injective totalNanos := by
  intro d e same
  have belowSecond := d.nanos.isLt
  have belowSecond' := e.nanos.isLt
  unfold totalNanos at same
  have seconds : d.seconds = e.seconds := UInt64.toNat_inj.1 (by omega)
  have nanos : d.nanos = e.nanos := Fin.ext (by omega)
  cases d
  cases e
  simp_all

lemma totalNanos_ofMillis (millis : UInt64) :
    (ofMillis millis).totalNanos = millis.toNat * 1000000 := by
  have belowSecond : millis.toNat % 1000 * 1000000 < 1000000000 := by omega
  simp only [ofMillis, totalNanos, UInt64.toNat_div, UInt64.toNat_mod, UInt64.reduceToNat,
    Fin.val_ofNat, Nat.mod_eq_of_lt belowSecond]
  omega

/-- The milliseconds of a duration make it up again exactly if it is whole. -/
lemma ofMillis_millis_iff {d : Duration} (held : d.millis < UInt64.size) :
    ofMillis (.ofNat d.millis) = d ↔ d.IsWhole := by
  rw [← totalNanos_injective.eq_iff, totalNanos_ofMillis, UInt64.toNat_ofNat_of_lt' held,
    totalNanos_eq, IsWhole]
  omega

end Duration

/-! ### Accepted durations -/

lemma checkMillis_eq_ok_iff (name : String) (d : Duration) :
    checkMillis name d = .ok () ↔ 1 ≤ d.millis ∧ d.millis ≤ millisLimit := by
  unfold checkMillis
  split
  · next refused =>
    refine iff_of_false (by simp) fun held => ?_
    omega
  · next held =>
    refine iff_of_true rfl ?_
    omega

lemma RetryIntervals.check_eq_ok_iff {naptime poll : Duration} {retry : RetryIntervals} :
    RetryIntervals.check naptime poll = .ok retry
      ↔ (1 ≤ naptime.millis ∧ naptime.millis ≤ millisLimit)
        ∧ (1 ≤ poll.millis ∧ poll.millis ≤ millisLimit) ∧ retry = ⟨naptime, poll⟩ := by
  rw [← checkMillis_eq_ok_iff "cmd_retry_naptime", ← checkMillis_eq_ok_iff "poll_interval", check]
  rcases first : checkMillis "cmd_retry_naptime" naptime with e | _
  · simp [bind, Except.bind]
  · rcases second : checkMillis "poll_interval" poll with e | _
    · simp [bind, Except.bind]
    · simp [bind, Except.bind, pure, Except.pure, eq_comm]

/-! ### Time settings read back -/

/-- the milliseconds that a time setting stands for: it counts them, unless its unit is a second -/
def Setting.millis? (s : Setting) : Option Nat :=
  let digits := s.value.toList.takeWhile Char.isDigit
  let count := Nat.ofDigitChars 10 digits 0
  if digits = [] then none
  else match String.ofList (s.value.toList.dropWhile Char.isDigit) with
    | "" | "ms" => some count
    | "s" => some (count * 1000)
    | _ => none

/-- the duration that a time setting stands for -/
def Setting.duration? (s : Setting) : Option Duration :=
  s.millis?.map fun millis => .ofMillis (.ofNat millis)

lemma Setting.millis?_number (key : String) (n : Nat) :
    (⟨key, toString n⟩ : Setting).millis? = some n := by
  have taken := List.takeWhile_eq_self_iff.2 (Template.digit_of_number n)
  have dropped := List.dropWhile_eq_nil_iff.2 (Template.digit_of_number n)
  simp only [millis?, taken, dropped]
  rw [Template.toList_number, if_neg Nat.toDigits_ne_nil, Nat.ofDigitChars_ten_toDigits]

namespace Template

/-- the keys of the two intervals, with the interval that each is made from -/
def intervals (naptime poll : Duration) : List (String × Duration) :=
  [("shardman.cmd_retry_naptime", naptime), ("shardman.poll_interval", poll)]

section Intervals

variable {naptime poll : Duration} (t : Template) (node : Identity)
  (coordinator : ConnectionString)

/-- Each of the two intervals has one setting in the block of a coordinator, its whole
milliseconds. -/
lemma filter_interval {entry : String × Duration}
    (there : entry ∈ intervals t.retry.naptime t.retry.pollInterval) :
    (t.settings .coordinator node coordinator).filter (·.key = entry.1)
      = [⟨entry.1, toString entry.2.millis⟩] := by
  simp only [intervals, List.mem_cons, List.not_mem_nil, or_false] at there
  rcases there with rfl | rfl <;> simp [settings, roleSettings, sharedSettings]

/-- **What becomes of the intervals**: for every pair that is accepted, each interval has one
setting in the block of a coordinator, which stands for its whole milliseconds, at least one of
them; what is below a millisecond is cut off, although the pair is accepted with it. So the setting
stands for the interval itself if and only if that is a whole number of milliseconds. -/
theorem intervals_exact_iff (accepted : RetryIntervals.check naptime poll = .ok t.retry) :
    ∀ entry ∈ intervals naptime poll,
      ∃ s, (t.settings .coordinator node coordinator).filter (·.key = entry.1) = [s]
        ∧ (∃ n, s.millis? = some n ∧ 1 ≤ n ∧ n * 1000000 ≤ entry.2.totalNanos
          ∧ entry.2.totalNanos < (n + 1) * 1000000)
        ∧ (s.duration? = some entry.2 ↔ entry.2.IsWhole) := by
  obtain ⟨heldNaptime, heldPoll, retry⟩ := RetryIntervals.check_eq_ok_iff.1 accepted
  intro entry there
  have held : 1 ≤ entry.2.millis ∧ entry.2.millis ≤ millisLimit := by
    simp only [intervals, List.mem_cons, List.not_mem_nil, or_false] at there
    rcases there with rfl | rfl
    · exact heldNaptime
    · exact heldPoll
  have kept : entry ∈ intervals t.retry.naptime t.retry.pollInterval := by rwa [retry]
  refine ⟨_, filter_interval t node coordinator kept,
    ⟨_, Setting.millis?_number _ _, held.1, ?_, ?_⟩, ?_⟩
  · rw [Duration.totalNanos_eq]
    omega
  · rw [Duration.totalNanos_eq]
    omega
  · rw [Setting.duration?, Setting.millis?_number, Option.map_some, Option.some_inj,
      Duration.ofMillis_millis_iff]
    exact held.2.trans_lt (by decide)

end Intervals

/-- One and a half milliseconds are accepted, and rendered as one. -/
theorem naptime_cut_off :
    RetryIntervals.check ⟨0, 1500000⟩ (.ofMillis 500) = .ok ⟨⟨0, 1500000⟩, .ofMillis 500⟩
    ∧ ∃ s, (Template.settings
          ⟨"postgres", ⟨⟨0, 1500000⟩, .ofMillis 500⟩, .forWorkers 3, .ofSeconds 60, false⟩
          .coordinator ⟨"Lord", 5432, ⟨[]⟩⟩ ⟨"port=5432"⟩).filter
        (·.key = "shardman.cmd_retry_naptime") = [s]
      ∧ s.millis? = some 1 ∧ s.duration? ≠ some ⟨0, 1500000⟩ := by
  have accepted : RetryIntervals.check ⟨0, 1500000⟩ (.ofMillis 500)
      = .ok ⟨⟨0, 1500000⟩, .ofMillis 500⟩ :=
    RetryIntervals.check_eq_ok_iff.2 ⟨by decide, by decide, rfl⟩
  obtain ⟨s, single, ⟨n, count, -, least, most⟩, exact⟩ := intervals_exact_iff
    ⟨"postgres", ⟨⟨0, 1500000⟩, .ofMillis 500⟩, .forWorkers 3, .ofSeconds 60, false⟩
    ⟨"Lord", 5432, ⟨[]⟩⟩ ⟨"port=5432"⟩ accepted _ List.mem_cons_self
  have nanos : Duration.totalNanos ⟨0, 1500000⟩ = 1500000 := by decide
  simp only [nanos] at least most
  obtain rfl : n = 1 := by omega
  exact ⟨accepted, s, single, count, fun same => absurd (exact.1 same) (by decide)⟩

end Template

end ShardCluster
