import ShardCluster.Cluster.Config
import ShardCluster.Proofs.TimeSettings

/-!
# Accepted times

A configuration has three times in it, which are checked one after the other and rendered by
settings of different roles in different units. What is accepted is what comes back:
`Config.template_times` says that there is a template exactly if every time is a positive number of
whole milliseconds that a signed word of 32 bits holds, that otherwise the first one that is not is
reported, and that each rendered value stands for exactly those milliseconds, in seconds or not.
-/

namespace ShardCluster

namespace Duration

/-- the whole milliseconds are positive and held by a signed word of 32 bits -/
def Fits (d : Duration) : Prop := 1 ≤ d.totalNanos / 1000000 ∧ d.totalNanos / 1000000 ≤ 2147483647

lemma millis_eq (d : Duration) : d.millis = d.totalNanos / 1000000 := by
  unfold totalNanos millis
  omega

end Duration

/-! ### Rendered values -/

/-- what a number stands for before a unit -/
def Setting.inMillis? (n : Nat) : String → Option Nat
  | "" | "ms" => some n
  | "s" => some (n * 1000)
  | _ => none

/-- What a time setting stands for is told by the letters after its number. -/
lemma Setting.millis?_unit (key : String) (n : Nat) {unit : String}
    (letters : ∀ c, unit.toList.head? = some c → c.isDigit = false) :
    (⟨key, toString n ++ unit⟩ : Setting).millis? = inMillis? n unit := by
  have digits := Template.digit_of_number n
  have taken : unit.toList.takeWhile Char.isDigit = [] := by
    cases spelled : unit.toList with
    | nil => rfl
    | cons c rest => simp [letters c (by simp [spelled])]
  have dropped : unit.toList.dropWhile Char.isDigit = unit.toList := by
    cases spelled : unit.toList with
    | nil => rfl
    | cons c rest => simp [letters c (by simp [spelled])]
  simp only [millis?, String.toList_append, List.takeWhile_append_of_pos digits,
    List.dropWhile_append_of_pos digits, taken, dropped, List.append_nil, String.ofList_toList]
  rw [Template.toList_number, if_neg Nat.toDigits_ne_nil, Nat.ofDigitChars_ten_toDigits]
  rfl

/-- Whether it is written in seconds or not, a time comes back in milliseconds. -/
lemma Setting.millis?_timeSetting (key : String) (d : Duration) :
    (⟨key, Template.timeSetting d⟩ : Setting).millis? = some d.millis := by
  unfold Template.timeSetting
  split
  · next whole =>
    rw [Setting.millis?_unit key _ (by simp), inMillis?,
      Nat.div_mul_cancel (Nat.dvd_of_mod_eq_zero whole)]
  · rw [Setting.millis?_unit key _ (by simp), inMillis?]

/-! ### The times of a configuration -/

/-- a time of a configuration, and the setting that is made from it -/
structure TimeEntry where
  /-- what it is called where it is refused -/
  name : String
  time : Duration
  /-- the role whose nodes have the setting -/
  role : Role
  /-- the key of the setting -/
  key : String

namespace TimeEntry

def check (entry : TimeEntry) : Except ClusterError Unit := checkMillis entry.name entry.time

/-- the refusal of a time by its name -/
def refusal (entry : TimeEntry) : ClusterError :=
  .invalidConfig (entry.name ++ " must be between 1ms and 2147483647ms, got " ++ entry.time.text)

/-- the first of some entries whose time does not fit -/
def IsFirstUnfit (entry : TimeEntry) (entries : List TimeEntry) : Prop :=
  ∃ before after, entries = before ++ entry :: after ∧ (∀ e ∈ before, e.time.Fits) ∧
    ¬ entry.time.Fits

lemma IsFirstUnfit.unique {entry other : TimeEntry} {entries : List TimeEntry}
    (h : entry.IsFirstUnfit entries) (h' : other.IsFirstUnfit entries) : entry = other := by
  obtain ⟨before, after, rfl, fits, unfit⟩ := h
  obtain ⟨before', after', same, fits', unfit'⟩ := h'
  obtain ⟨_ | ⟨e, between⟩, rfl, rest⟩ | ⟨_ | ⟨e, between⟩, rfl, rest⟩ :=
    List.append_eq_append_iff.1 same
  · exact (List.cons.inj rest).1
  · obtain ⟨rfl, -⟩ := List.cons.inj rest
    exact absurd (fits' entry (by simp)) unfit
  · exact (List.cons.inj rest).1.symm
  · obtain ⟨rfl, -⟩ := List.cons.inj rest
    exact absurd (fits other (by simp)) unfit'

lemma check_spec (entry : TimeEntry) : entry.time.Fits ∧ entry.check = .ok () ∨
    ¬ entry.time.Fits ∧ entry.check = .error entry.refusal := by
  have limit : " must be between 1ms and " ++ toString millisLimit ++ "ms, got "
      = " must be between 1ms and 2147483647ms, got " := by decide +kernel
  unfold check checkMillis Duration.Fits
  rw [entry.time.millis_eq]
  split
  · next refused =>
    refine .inr ⟨?_, ?_⟩
    · unfold millisLimit at refused
      omega
    · rw [refusal, ← limit]
      simp only [String.append_assoc]
  · next held =>
    refine .inl ⟨?_, rfl⟩
    unfold millisLimit at held
    omega

/-- Entries are checked one after the other up to the first one that does not fit. -/
lemma forM_check (entries : List TimeEntry) :
    (∀ entry ∈ entries, entry.time.Fits) ∧ forM entries check = .ok () ∨
      ∃ entry : TimeEntry, entry.IsFirstUnfit entries ∧
        forM entries check = .error entry.refusal := by
  induction entries with
  | nil => exact .inl ⟨nofun, rfl⟩
  | cons first rest ih =>
    rw [List.forM_cons]
    obtain ⟨fits, passed⟩ | ⟨unfit, refused⟩ := first.check_spec
    · rw [passed]
      obtain ⟨others, all⟩ | ⟨entry, ⟨before, after, rfl, others, unfit⟩, refused⟩ := ih
      · exact .inl ⟨List.forall_mem_cons.2 ⟨fits, others⟩, all⟩
      · exact .inr ⟨entry, ⟨first :: before, after, rfl, List.forall_mem_cons.2 ⟨fits, others⟩,
          unfit⟩, refused⟩
    · rw [refused]
      exact .inr ⟨first, ⟨[], rest, rfl, nofun, unfit⟩, rfl⟩

end TimeEntry

namespace Config

/-- the times of a configuration, in the order in which they are checked -/
def times (c : Config) : List TimeEntry := [
  ⟨"cmd_retry_naptime", c.cmdRetryNaptime, .coordinator, "shardman.cmd_retry_naptime"⟩,
  ⟨"poll_interval", c.pollInterval, .coordinator, "shardman.poll_interval"⟩,
  ⟨"wal_receiver_timeout", c.walReceiverTimeout, .worker, "wal_receiver_timeout"⟩]

/-- the template of a configuration whose times are accepted -/
def rendered (c : Config) : Template where
  dbname := c.dbname
  retry := ⟨c.cmdRetryNaptime, c.pollInterval⟩
  ceilings := .forWorkers c.plannedWorkers
  walReceiverTimeout := c.walReceiverTimeout
  syncReplicas := c.syncReplicas

/-- There is a template once all times have been checked, one after the other. -/
lemma template_eq (c : Config) :
    c.template = do forM c.times TimeEntry.check; return c.rendered := by
  rw [template, RetryIntervals.check, times]
  simp only [List.forM_cons, List.forM_nil, TimeEntry.check, bind_assoc, pure_bind]
  rfl

/-- Each time has one setting in the block of its role, which stands for its milliseconds. -/
lemma filter_times (c : Config) (node : Identity) (coordinator : ConnectionString)
    {entry : TimeEntry} (there : entry ∈ c.times) :
    ∃ s, (c.rendered.settings entry.role node coordinator).filter (·.key = entry.key) = [s]
      ∧ s.millis? = some (entry.time.totalNanos / 1000000) := by
  simp only [times, List.mem_cons, List.not_mem_nil, or_false] at there
  rw [← Duration.millis_eq]
  rcases there with rfl | rfl | rfl
  · refine ⟨⟨"shardman.cmd_retry_naptime", toString c.cmdRetryNaptime.millis⟩, ?_,
      Setting.millis?_number _ _⟩
    simp [rendered, Template.settings, Template.roleSettings, Template.sharedSettings]
  · refine ⟨⟨"shardman.poll_interval", toString c.pollInterval.millis⟩, ?_,
      Setting.millis?_number _ _⟩
    simp [rendered, Template.settings, Template.roleSettings, Template.sharedSettings]
  · refine ⟨⟨"wal_receiver_timeout", Template.timeSetting c.walReceiverTimeout⟩, ?_,
      Setting.millis?_timeSetting _ _⟩
    simp [rendered, Template.settings, Template.roleSettings, Template.sharedSettings]

end Config

lemma Template.line_infix_render (t : Template) (role : Role) (node : Identity)
    (coordinator : ConnectionString) {s : Setting}
    (there : s ∈ t.settings role node coordinator) :
    s.line.toList <:+: (t.render role node coordinator).toList := by
  obtain ⟨before, after, parts⟩ := List.append_of_mem there
  refine ⟨(heading role node coordinator ++ String.join (before.map Setting.line)).toList,
    (String.join (after.map Setting.line)).toList, ?_⟩
  simp [render, parts, String.toList_append]

namespace Config

/-- **What is accepted comes back**: a configuration has a template if and only if each of its times
is a positive number of whole milliseconds that a signed word of 32 bits holds. Otherwise the first
one that is not, in the order of the checks, is refused by its name. From a template, each time gets
one setting in the block of any node of its role, with a line of its own, and that setting stands
for exactly its whole milliseconds. -/
theorem template_times (c : Config) :
    ((∃ t, c.template = .ok t) ↔ ∀ entry ∈ c.times, entry.time.Fits) ∧
    (∀ e, c.template = .error e ↔ ∃ entry : TimeEntry,
      entry.IsFirstUnfit c.times ∧ e = entry.refusal) ∧
    ∀ t, c.template = .ok t → ∀ node coordinator, ∀ entry ∈ c.times,
      ∃ s, (t.settings entry.role node coordinator).filter (·.key = entry.key) = [s] ∧
        s.line.toList <:+: (t.render entry.role node coordinator).toList ∧
        s.millis? = some (entry.time.totalNanos / 1000000) := by
  obtain ⟨fits, passed⟩ | ⟨first, unfit, refused⟩ := TimeEntry.forM_check c.times
  · have template : c.template = .ok c.rendered := by
      rw [template_eq, passed]
      rfl
    refine ⟨iff_of_true ⟨_, template⟩ fits, fun e => ?_, fun t accepted node coordinator => ?_⟩
    · rw [template]
      refine iff_of_false nofun ?_
      rintro ⟨entry, ⟨before, after, parts, -, unfit⟩, -⟩
      exact unfit (fits entry (parts ▸ List.mem_append_right _ List.mem_cons_self))
    · obtain rfl := Except.ok.inj (template.symm.trans accepted)
      intro entry there
      obtain ⟨s, single, stands⟩ := c.filter_times node coordinator there
      refine ⟨s, single, Template.line_infix_render _ _ _ _ ?_, stands⟩
      exact (List.mem_filter.1 (single ▸ List.mem_singleton_self s)).1
  · have template : c.template = .error first.refusal := by
      rw [template_eq, refused]
      rfl
    rw [template]
    refine ⟨iff_of_false nofun fun fits => ?_, fun e => ?_, nofun⟩
    · obtain ⟨before, after, parts, -, unfit⟩ := unfit
      exact unfit (fits first (parts ▸ List.mem_append_right _ List.mem_cons_self))
    · constructor
      · rintro ⟨⟩
        exact ⟨first, unfit, rfl⟩
      · rintro ⟨other, unfit', rfl⟩
        rw [unfit.unique unfit']

/-- The longest receive timeout of all is accepted, and comes back without what is below a
millisecond. -/
theorem longest_timeout_kept : ∃ t s, (Config.mk "postgres" ⟨[]⟩ (.ofSeconds 60) 3 (.ofMillis 500)
      (.ofMillis 500) ⟨2147483, 647999999⟩ false).template = .ok t ∧
    (t.settings .worker ⟨"W1", 5433, ⟨[]⟩⟩ ⟨"port=5432"⟩).filter (·.key = "wal_receiver_timeout")
      = [s] ∧
    s.millis? = some 2147483647 := by
  obtain ⟨accepted, -, kept⟩ := template_times (.mk "postgres" ⟨[]⟩ (.ofSeconds 60) 3
    (.ofMillis 500) (.ofMillis 500) ⟨2147483, 647999999⟩ false)
  obtain ⟨t, template⟩ := accepted.2 (by
    simp only [times, List.forall_mem_cons, Duration.Fits, List.not_mem_nil, false_imp_iff,
      implies_true, and_true]
    decide)
  obtain ⟨s, single, -, stands⟩ := kept t template ⟨"W1", 5433, ⟨[]⟩⟩ ⟨"port=5432"⟩
    ⟨"wal_receiver_timeout", ⟨2147483, 647999999⟩, .worker, "wal_receiver_timeout"⟩
    (by simp [times])
  exact ⟨t, s, template, single, stands⟩

end Config

end ShardCluster
