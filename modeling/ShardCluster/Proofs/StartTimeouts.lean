import ShardCluster.Proofs.BringUp
import ShardCluster.Proofs.EnvironmentOverlay
import ShardCluster.Proofs.Readiness
import ShardCluster.Proofs.ShutDowns

/-!
# Start timeouts

How long a server may take to get ready goes unchecked from the environment to the engine: a cluster
is set up with any start timeout, and every start it ever asks for has that timeout
(`History.start_timeout`). The engine adds the timeout to the time at which the server was
launched, so a start ends exactly if the clock can hold the sum (`History.start_deadlines`). It
cannot if there are `2 ^ 63` seconds or more, and `Machine.longest_start_stuck` is a cluster whose
first start has that many.
-/

namespace ShardCluster

open ShardCluster.Task (Beside Leads)

variable {P W : Type}

/-! ### From the environment to the cluster -/

namespace Config

/-- an environment in which a number of seconds is set and nothing else -/
def timeoutEnvironment (seconds : UInt64) : Environment :=
  ⟨[(Field.startTimeout.own, Utf8.encode (toString seconds.toNat))]⟩

lemma timeoutEnvironment_sets (seconds : UInt64) :
    (timeoutEnvironment seconds).Sets Field.startTimeout.own seconds.toNat := by
  refine ⟨toString seconds.toNat, by simp [timeoutEnvironment, Environment.raw?], ?_,
    seconds.toNat_lt⟩
  refine ⟨[], Nat.toDigits 10 seconds.toNat, by simp, .inl rfl,
    Nat.toDigits_ne_nil, fun d among => ?_, Nat.ofDigitChars_ten_toDigits⟩
  exact Nat.isDigit_of_mem_toDigits (by decide) (by decide) among

lemma eq_of_read {config config' : Config}
    (same : ∀ field : Field, field.read config = field.read config') : config = config' := by
  obtain ⟨dbname, baseDirectory, startTimeout, plannedWorkers, cmdRetryNaptime, pollInterval,
    walReceiverTimeout, syncReplicas⟩ := config
  obtain rfl : dbname = config'.dbname := same .dbname
  obtain rfl : baseDirectory = config'.baseDirectory := same .baseDirectory
  obtain rfl : startTimeout = config'.startTimeout := same .startTimeout
  obtain rfl : plannedWorkers = config'.plannedWorkers := same .plannedWorkers
  obtain rfl : cmdRetryNaptime = config'.cmdRetryNaptime := same .cmdRetryNaptime
  obtain rfl : pollInterval = config'.pollInterval := same .pollInterval
  obtain rfl : walReceiverTimeout = config'.walReceiverTimeout := same .walReceiverTimeout
  obtain rfl : syncReplicas = config'.syncReplicas := same .syncReplicas
  rfl

/-- **Every number of seconds can be set**, and nothing else is changed by that. -/
lemma ofEnvironment_timeout (seconds : UInt64) : ofEnvironment (timeoutEnvironment seconds) =
    { ofEnvironment ⟨[]⟩ with startTimeout := .ofSeconds seconds } := by
  have set : (ofEnvironment (timeoutEnvironment seconds)).startTimeout = .ofSeconds seconds :=
    congrArg Duration.ofSeconds (UInt64.toNat_inj.1
      (Environment.numberOr_of_sets (timeoutEnvironment_sets seconds) 60))
  have same (field : Field) (other : field ≠ .startTimeout) :
      field.read (ofEnvironment (timeoutEnvironment seconds)) =
        field.read (ofEnvironment ⟨[]⟩) := by
    refine field.read_congr fun name source => ?_
    have unlike : name ≠ Field.startTimeout.own := by
      rintro rfl
      exact other (Option.some.inj ((Field.ofSource?_eq_some source).symm.trans (by decide)))
    simp [timeoutEnvironment, Environment.raw?, List.lookup, beq_eq_false_iff_ne.2 unlike]
  refine eq_of_read fun field => ?_
  cases field with
  | startTimeout => exact set
  | dbname => exact same .dbname (by decide)
  | baseDirectory => exact same .baseDirectory (by decide)
  | plannedWorkers => exact same .plannedWorkers (by decide)
  | cmdRetryNaptime => exact same .cmdRetryNaptime (by decide)
  | pollInterval => exact same .pollInterval (by decide)
  | walReceiverTimeout => exact same .walReceiverTimeout (by decide)
  | syncReplicas => exact same .syncReplicas (by decide)

end Config

namespace Cluster

variable {env : W → W → Prop} {host : Host P W} {call : Call} {c c' : Cluster P} {config : Config}
  {t t' : Trace P W} {w' : W}

lemma create_of_template {template : Template} (passed : config.template = .ok template) :
    (create config : Except ClusterError (Cluster P)) = .ok { config, template } := by
  rw [create, passed]
  rfl

/-- The start timeout has no part in what is checked of a configuration. -/
lemma create_startTimeout {c₀ : Cluster P} (created : create config = .ok c₀)
    (timeout : Duration) :
    create { config with startTimeout := timeout } =
      .ok { c₀ with config := { config with startTimeout := timeout } } := by
  rcases checked : config.template with e | template
  · rw [create, checked] at created
    cases created
  · have same : { config with startTimeout := timeout }.template = .ok template := checked
    rw [create_of_template checked] at created
    rw [create_of_template same, ← Except.ok.inj created]

/-- all starts in a trace have that timeout -/
def StartsWithin (timeout : Duration) (t : Trace P W) : Prop :=
  ∀ launch w, .made (.start launch) w ∈ t → launch.timeout = timeout

lemma timeout_of_step {launch : Launch} (h : .start launch ∈ c.steps host call) :
    launch.timeout = c.config.startTimeout := by
  cases call <;>
    simp [steps, bringingUp, Node.preparing, Node.launching] at h <;>
    grind

/-- What a call adds to the trace are starts with the timeout of the cluster, if any. -/
lemma StartsWithin.goes (h : StartsWithin c.config.startTimeout t)
    (goes : Goes env host call c t (c', t', w')) : StartsWithin c.config.startTimeout t' := by
  obtain ⟨c₁, first, mid, last, left, deeds, course⟩ := goes
  intro launch w made
  have asked : .made (.start launch) w ∈ t'.deeds := List.mem_filter.2 ⟨made, rfl⟩
  rw [deeds] at asked
  simp only [List.mem_append] at asked
  rcases asked with before | (stop | step) | stop
  · exact h launch w (List.mem_of_mem_filter before)
  · cases course.stops _ (List.mem_append_left _ stop)
  · rw [timeout_of_step (course.proceeds.mem_of_mem step), course.same.1]
  · cases course.stops _ (List.mem_append_right _ stop)

end Cluster

section Histories

variable {env : W → W → Prop} {host : Host P W} {config : Config} {c₀ : Cluster P} {w₀ : W}
  {events : List Event}

/-- **Every start has the timeout of the configuration**, after any history. -/
lemma History.start_timeout {p : Cluster P × Trace P W × W}
    (created : Cluster.create config = .ok c₀)
    (h : History (Beside env) host.traced (c₀, [], w₀) events p) :
    Cluster.StartsWithin config.startTimeout p.2.1 := by
  have kept {call : Call} {events : List Event} {p p' : Cluster P × Trace P W × W} {r : Option Unit}
      (before : History (Beside env) host.traced (c₀, [], w₀) events p)
      (within : Cluster.StartsWithin config.startTimeout p.2.1)
      (led : Leads (Beside (Beside env)) (call.task host.traced) p r p') :
      Cluster.StartsWithin config.startTimeout p'.2.1 := by
    obtain ⟨extra, order⟩ := before.inOrder created
    have configured := (before.registered created).configured
    rw [← configured] at within ⊢
    exact within.goes (Cluster.goes_of_leads order led)
  induction h with
  | start => exact nofun
  | ended call before led ih => exact kept before ih led
  | givenUp call before led ih => exact kept before ih led
  | meanwhile _ he ih =>
    rw [← he.1] at ih
    exact ih

end Histories

section Deadlines

variable {C : Type} {env : W → W → Prop} {pg : Postgres.Config} {programs : Programs C W}
  {storage : Storage W} {life : W → C → Life} {now : W → Nat} {config : Config}
  {c₀ c : Cluster (Postgres.Process C)} {w₀ w : W} {t : Trace (Postgres.Process C) W}
  {events : List Event}

lemma Postgres.deadline?_isSome_iff {started : Nat} {timeout : Duration} :
    (deadline? started timeout).isSome ↔
      (started + timeout.totalNanos) / 1000000000 < 2 ^ 63 := by
  have half : clockLimit = 2 ^ 63 := by decide
  simp only [deadline?, half]
  split <;> simp_all

/-- No clock can hold the end of a timeout of half as many seconds as a word holds, or more. -/
lemma Postgres.unrepresentable {started : Nat} {timeout : Duration}
    (long : 2 ^ 63 ≤ timeout.seconds.toNat) :
    2 ^ 63 ≤ (started + timeout.totalNanos) / 1000000000 := by
  rw [Nat.le_div_iff_mul_le (by decide), Duration.totalNanos]
  omega

/-- **Start timeouts reach the clock unchecked.** Any number of seconds can be set in the
environment of a cluster, and any timeout is accepted by one that is set up. After any history,
every start that was asked for had the timeout of the configuration. It ends exactly if the clock
can hold the end of that timeout whenever the server has been launched; a timeout of `2 ^ 63`
seconds or more never fits, and then a start that launches its server does not end. -/
theorem History.start_deadlines (orderly : programs.Orderly env life now)
    (aside : storage.Orderly env life now) (others : ∀ w, ∃ w', env w w')
    (created : Cluster.create config = .ok c₀)
    (h : History (Beside env) (Host.traced ⟨Postgres.engine pg programs storage, storage⟩)
      (c₀, [], w₀) events (c, t, w)) :
    (∀ seconds : UInt64, ∃ (environment : Environment) (set : Cluster (Postgres.Process C)),
      Cluster.create (Config.ofEnvironment environment) = .ok set ∧
      set.config.startTimeout = .ofSeconds seconds) ∧
    (∀ timeout, ∃ set : Cluster (Postgres.Process C),
      Cluster.create { config with startTimeout := timeout } = .ok set) ∧
    ∀ launch w', .made (.start launch) w' ∈ t →
      launch.timeout = config.startTimeout ∧
      ((Postgres.start pg programs storage launch).Ends env w' ↔ ∀ child started w'',
        Postgres.Launched env pg programs storage launch w' child started w'' →
        (started + config.startTimeout.totalNanos) / 1000000000 < 2 ^ 63) ∧
      (2 ^ 63 ≤ config.startTimeout.seconds.toNat → ∀ child started w'',
        Postgres.Launched env pg programs storage launch w' child started w'' →
        ¬ (Postgres.start pg programs storage launch).Ends env w') := by
  refine ⟨fun seconds => ?_, fun timeout => ⟨_, Cluster.create_startTimeout created timeout⟩,
    fun launch w' made => ?_⟩
  · obtain ⟨unset, accepted⟩ : ∃ unset : Cluster (Postgres.Process C),
        Cluster.create (Config.ofEnvironment ⟨[]⟩) = .ok unset := by
      have passed : (Config.ofEnvironment ⟨[]⟩).template = .ok _ := eq_ok_get (by decide +kernel)
      exact ⟨_, Cluster.create_of_template passed⟩
    have accepted := Cluster.create_startTimeout accepted (.ofSeconds seconds)
    rw [← Config.ofEnvironment_timeout] at accepted
    exact ⟨_, _, accepted, congrArg Config.startTimeout (Config.ofEnvironment_timeout seconds)⟩
  · have within : launch.timeout = config.startTimeout := h.start_timeout created launch w' made
    have ends : (Postgres.start pg programs storage launch).Ends env w' ↔ ∀ child started w'',
        Postgres.Launched env pg programs storage launch w' child started w'' →
        (Postgres.deadline? started launch.timeout).isSome :=
      Postgres.ends_start_iff orderly aside others
    simp only [within, Postgres.deadline?_isSome_iff] at ends
    refine ⟨within, ends, fun long child started w'' launched ended => ?_⟩
    have held := ends.1 ended child started w'' launched
    exact absurd held (Nat.not_lt.2 (Postgres.unrepresentable long))

end Deadlines

namespace Machine

/-- a new cluster whose servers have as many seconds to start as can be set -/
def patientCluster : Cluster (Postgres.Process Nat) :=
  (Cluster.create (.ofEnvironment (Config.timeoutEnvironment 18446744073709551615))).toOption.get
    (by decide +kernel)

lemma create_patientCluster :
    Cluster.create (.ofEnvironment (Config.timeoutEnvironment 18446744073709551615)) =
      .ok patientCluster :=
  eq_ok_get _

/-- whether a start is asked for on a bench on which its server gets launched -/
def asksLaunch : TraceEntry (Postgres.Process Nat) Bench → Bool
  | .made (.start launch) b =>
    let made := (benchHost.storage.ensureFile launch.logFile).run [] b
    let spawned := ((programs Bench.machinePart).spawn (benchConfig.postgres launch)
      launch.logFile).run [] made.2
    made.1.map Except.toBool == some true && spawned.1.map Except.toBool == some true
  | _ => false

lemma launched_of_asksLaunch {entry : TraceEntry (Postgres.Process Nat) Bench}
    (asks : asksLaunch entry) : ∃ launch b child started b', entry = .made (.start launch) b ∧
      Postgres.Launched (fun b b' => b' = b) benchConfig (programs Bench.machinePart)
        (storage Bench.machinePart) launch b child started b' := by
  rcases entry with ⟨call, b⟩ | _
  · cases call with
    | start launch =>
      simp only [asksLaunch, Bool.and_eq_true, beq_iff_eq] at asks
      obtain ⟨made, spawned⟩ := asks
      obtain ⟨child, spawned⟩ := exists_eq_some_ok spawned
      exact ⟨launch, b, child, _, _, rfl, _, _,
        Task.leads_of_quiet_run Task.quiet_eq (eq_some_ok made),
        Task.leads_of_quiet_run Task.quiet_eq spawned,
        Task.leads_of_quiet_run Task.quiet_eq rfl⟩
    | _ => cases asks
  · cases asks

/-- Servers with the longest start timeout that can be set are launched, and their starts do not
end. -/
theorem longest_start_stuck : ∃ c t b launch b' child started b'',
    History (Beside fun b b' => b' = b) benchHost.traced (patientCluster, [], Bench.of {} {})
      [.givenUp (.bootstrap "Lord" 5432)] (c, t, b) ∧
    .made (.start launch) b' ∈ t ∧ launch.timeout = .ofSeconds 18446744073709551615 ∧
    Postgres.Launched (fun b b' => b' = b) benchConfig (programs Bench.machinePart)
      (storage Bench.machinePart) launch b' child started b'' ∧
    ¬ (benchHost.engine.start launch).Ends (fun b b' => b' = b) b' := by
  have quiet : Task.Quiet
      (Beside (X := Trace (Postgres.Process Nat) Bench) fun b b' : Bench => b' = b) :=
    Task.quiet_eq.beside
  have new : History (Beside fun b b' => b' = b) benchHost.traced
    (patientCluster, [], Bench.of {} {}) [] (patientCluster, [], Bench.of {} {}) := .start
  have h := new.cut quiet (.bootstrap "Lord" 5432) 1000000000 (by decide +kernel)
  obtain ⟨⟨c, t, b⟩, h, asked⟩ : ∃ p,
      History (Beside fun b b' => b' = b) benchHost.traced (patientCluster, [], Bench.of {} {})
        [.givenUp (.bootstrap "Lord" 5432)] p ∧ p.2.1.any asksLaunch :=
    ⟨_, h, by decide +kernel⟩
  obtain ⟨entry, among, asks⟩ := List.any_eq_true.1 asked
  obtain ⟨launch, b', child, started, b'', rfl, launched⟩ := launched_of_asksLaunch asks
  obtain ⟨-, -, deadlines⟩ := History.start_deadlines orderly_bench orderly_benchStorage
    (fun b => ⟨b, rfl⟩) create_patientCluster h
  obtain ⟨timeout, -, stuck⟩ := deadlines launch b' among
  exact ⟨c, t, b, launch, b', child, started, b'', h, among, timeout.trans (by decide +kernel),
    launched, stuck (by decide +kernel) child started b'' launched⟩

end Machine

end ShardCluster
