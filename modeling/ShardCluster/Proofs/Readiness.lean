import Mathlib.Logic.Relation
import ShardCluster.Proofs.OrderlyPrograms

/-!
# Getting ready

A server that has been launched is looked at in rounds until something decides about it
(`Postgres.Decided`): it has ended, it accepts connections, or it is out of time, which counts only
where it did not accept connections in that very round. `Postgres.start_decided` says, for orderly
programs and whatever others do meanwhile, that a start ends with what the first such event says
after rounds that decided nothing (`Postgres.Undecided`), that there is always such an event, and
that a server which was not handed over is gone. Only where the clock cannot hold the end of the
timeout does a start that has launched its server not end.
-/

namespace ShardCluster.Postgres

open ShardCluster.Task (Leads achieves_bind ends_bind ends_pure leads_bind_some leads_done
  not_ends_forever not_leads_forever)
open Relation (ReflTransGen)

section Events

variable {C W : Type} (env : W → W → Prop) (config : Config) (programs : Programs C W)
  (storage : Storage W) (launch : Launch)

/-- **The launch of a server**: its log is there, it has been spawned, and then the clock says when
it started. -/
def Launched (w : W) (child : C) (started : Nat) (w' : W) : Prop :=
  ∃ w₁ w₂, Leads env (storage.ensureFile launch.logFile) w (some (.ok ())) w₁ ∧
    Leads env (programs.spawn (config.postgres launch) launch.logFile) w₁ (some (.ok child)) w₂ ∧
    Leads env programs.clock w₂ (some started) w'

/-- why no server has been spawned -/
inductive Unlaunched (w : W) : EngineError → W → Prop
  | noLog {e : IoError} {w' : W} :
      Leads env (storage.ensureFile launch.logFile) w (some (.error e)) w' →
      Unlaunched w (.io e) w'
  | notSpawned {e : IoError} {w₁ w' : W} :
      Leads env (storage.ensureFile launch.logFile) w (some (.ok ())) w₁ →
      Leads env (programs.spawn (config.postgres launch) launch.logFile) w₁ (some (.error e)) w' →
      Unlaunched w (.crash "not spawned" e.message) w'

/-- **A round that decides nothing**: the server had not ended, the probe failed, and the clock was
before the deadline. -/
def Undecided (child : C) (deadline : Nat) (w w' : W) : Prop :=
  ∃ w₁ w₂ w₃ now, Leads env (programs.poll child) w (some (.ok none)) w₁ ∧
    Leads env (probe config programs launch.port) w₁ (some false) w₂ ∧
    Leads env programs.clock w₂ (some now) w₃ ∧ now < deadline ∧
    Leads env (programs.sleep config.pollInterval.totalNanos) w₃ (some ()) w'

/-- **A round that decides**, and what the start ends with -/
inductive Decided (child : C) (deadline : Nat) (w : W) : Except EngineError (Process C) → W → Prop
  /-- The server had not ended and accepts connections. -/
  | ready {w₁ w' : W} : Leads env (programs.poll child) w (some (.ok none)) w₁ →
      Leads env (probe config programs launch.port) w₁ (some true) w' →
      Decided child deadline w (.ok ⟨child, launch.dataDirectory⟩) w'
  /-- The server had ended. -/
  | exited {status : ExitStatus} {log : Except IoError Bytes} {w₁ w' : W} :
      Leads env (programs.poll child) w (some (.ok (some status))) w₁ →
      Leads env (storage.contentOf launch.logFile) w₁ (some log) w' →
      Decided child deadline w (.error (.crash status.text (logTail log))) w'
  /-- The server had not ended, the probe failed and the deadline was over, so it was killed. -/
  | late {now : Nat} {killed : Except IoError Unit} {w₁ w₂ w₃ w' : W} :
      Leads env (programs.poll child) w (some (.ok none)) w₁ →
      Leads env (probe config programs launch.port) w₁ (some false) w₂ →
      Leads env programs.clock w₂ (some now) w₃ → deadline ≤ now →
      Leads env (programs.kill child) w₃ (some killed) w' →
      Decided child deadline w (.error (.startTimeout launch.timeout)) w'

end Events

section Starting

variable {C W : Type} {env : W → W → Prop} {config : Config} {programs : Programs C W}
  {storage : Storage W} {launch : Launch} {life : W → C → Life} {now : W → Nat} {child : C}
  {deadline rounds : Nat} {w w' : W} {r : Except EngineError (Process C)}

lemma deadline?_eq_some {started : Nat} {span : Duration} {deadline : Nat}
    (held : deadline? started span = some deadline) : deadline = started + span.totalNanos := by
  unfold deadline? at held
  dsimp only at held
  split at held
  · exact (Option.some.inj held).symm
  · cases held

/-! ### One round -/

lemma leads_giveUp : Leads env (giveUp programs launch child) w (some r) w' ↔
    ∃ killed, Leads env (programs.kill child) w (some killed) w' ∧
      r = .error (.startTimeout launch.timeout) := by
  unfold giveUp
  rw [leads_bind_some]
  constructor
  · rintro ⟨killed, w₁, kills, ended⟩
    obtain ⟨same, rfl⟩ := leads_done.1 ended
    exact ⟨killed, kills, Option.some.inj same⟩
  · rintro ⟨killed, kills, rfl⟩
    exact ⟨killed, w', kills, leads_done.2 ⟨rfl, rfl⟩⟩

lemma leads_crashReport {status : ExitStatus} {e : EngineError} :
    Leads env (crashReport storage launch status) w (some e) w' ↔
      ∃ log, Leads env (storage.contentOf launch.logFile) w (some log) w' ∧
        e = .crash status.text (logTail log) := by
  unfold crashReport
  rw [leads_bind_some]
  constructor
  · rintro ⟨log, w₁, reads, ended⟩
    obtain ⟨same, rfl⟩ := leads_done.1 ended
    exact ⟨log, reads, Option.some.inj same⟩
  · rintro ⟨log, reads, rfl⟩
    exact ⟨log, w', reads, leads_done.2 ⟨rfl, rfl⟩⟩

lemma enough_rounds (positive : 0 < config.pollInterval.totalNanos) {started time : Nat}
    (later : started ≤ time) : started + launch.timeout.totalNanos + config.pollInterval.totalNanos
      ≤ time + roundsFor config launch.timeout * config.pollInterval.totalNanos := by
  have quotient : launch.timeout.totalNanos
      < (launch.timeout.totalNanos / config.pollInterval.totalNanos + 1)
        * config.pollInterval.totalNanos := Nat.lt_mul_of_div_lt (Nat.lt_succ_self _) positive
  rw [roundsFor, Nat.max_eq_left positive, Nat.succ_mul]
  omega

variable (orderly : programs.Orderly env life now)
include orderly

/-- A look decides, or there is a round that decides nothing before all the others. -/
lemma leads_awaitReady_succ :
    Leads env (awaitReady config programs storage launch child deadline (rounds + 1)) w (some r)
        w' ↔
      Decided env config programs storage launch child deadline w r w' ∨
      ∃ w₁, Undecided env config programs launch child deadline w w₁ ∧
        Leads env (awaitReady config programs storage launch child deadline rounds) w₁ (some r)
          w' := by
  constructor
  · intro led
    obtain ⟨seen, w₁, polled, led⟩ := leads_bind_some.1 led
    rcases seen with e | _ | status
    · obtain ⟨-, status, shown, -⟩ := (orderly.poll child w).holds polled
      cases shown
    · obtain ⟨ready, w₂, probed, led⟩ := leads_bind_some.1 led
      cases ready
      · obtain ⟨now, w₃, read, led⟩ := leads_bind_some.1 led
        split at led
        · rename_i expired
          obtain ⟨killed, kills, rfl⟩ := leads_giveUp.1 led
          exact .inl (.late polled probed read expired kills)
        · rename_i early
          obtain ⟨_, w₄, slept, led⟩ := leads_bind_some.1 led
          exact .inr ⟨w₄, ⟨w₁, w₂, w₃, now, polled, probed, read, Nat.lt_of_not_le early, slept⟩,
            led⟩
      · obtain ⟨same, rfl⟩ := leads_done.1 led
        cases same
        exact .inl (.ready polled probed)
    · obtain ⟨e, w₂, reported, led⟩ := leads_bind_some.1 led
      obtain ⟨same, rfl⟩ := leads_done.1 led
      cases same
      obtain ⟨log, read, rfl⟩ := leads_crashReport.1 reported
      exact .inl (.exited polled read)
  · rintro (decided | ⟨w₄, ⟨w₁, w₂, w₃, now, polled, probed, read, early, slept⟩, led⟩)
    · cases decided with
      | ready polled probed =>
        exact leads_bind_some.2 ⟨_, _, polled, leads_bind_some.2 ⟨_, _, probed, .done _ _⟩⟩
      | exited polled read =>
        exact leads_bind_some.2 ⟨_, _, polled, leads_bind_some.2
          ⟨_, _, leads_crashReport.2 ⟨_, read, rfl⟩, .done _ _⟩⟩
      | late polled probed read expired kills =>
        refine leads_bind_some.2 ⟨_, _, polled, leads_bind_some.2 ⟨_, _, probed,
          leads_bind_some.2 ⟨_, _, read, ?_⟩⟩⟩
        rw [if_pos expired]
        exact leads_giveUp.2 ⟨_, kills, rfl⟩
    · refine leads_bind_some.2 ⟨_, _, polled, leads_bind_some.2 ⟨_, _, probed,
        leads_bind_some.2 ⟨_, _, read, ?_⟩⟩⟩
      rw [if_neg (Nat.not_le_of_lt early)]
      exact leads_bind_some.2 ⟨_, _, slept, led⟩

/-! ### All rounds -/

lemma achieves_probe {port : UInt16} :
    (probe config programs port).Achieves env (fun _ => Passes life now w) w := by
  refine achieves_bind.2 ((orderly.run _ w).mono fun output w₁ passes => ?_)
  cases output
  · exact passes
  · exact passes

/-- **A round that decides nothing** begins before the deadline and takes at least the time between
two looks. -/
lemma Undecided.passes (h : Undecided env config programs launch child deadline w w') :
    now w < deadline ∧ now w + config.pollInterval.totalNanos ≤ now w' ∧ Passes life now w w' := by
  obtain ⟨w₁, w₂, w₃, time, polled, probed, read, early, slept⟩ := h
  obtain ⟨looked, -⟩ := (orderly.poll child w).holds polled
  have tried := (achieves_probe orderly).holds probed
  obtain ⟨told, since, -⟩ := (orderly.clock w₂).holds read
  obtain ⟨rested, long⟩ := (orderly.sleep _ w₃).holds slept
  have before := (looked.trans tried).later
  have after := told.later
  exact ⟨by omega, by omega, looked.trans (tried.trans (told.trans rested))⟩

lemma passes_of_undecided
    (rounds : ReflTransGen (Undecided env config programs launch child deadline) w w') :
    Passes life now w w' := by
  induction rounds with
  | refl => exact passes_refl w
  | tail _ round ih => exact ih.trans (round.passes orderly).2.2

/-- **What looking at a server comes to**: as long as there are looks for all the time that is left,
the number of looks does not show. -/
lemma leads_awaitReady (some_left : 0 < rounds)
    (enough : deadline + config.pollInterval.totalNanos
      ≤ now w + rounds * config.pollInterval.totalNanos) :
    Leads env (awaitReady config programs storage launch child deadline rounds) w (some r) w' ↔
      ∃ w₁, ReflTransGen (Undecided env config programs launch child deadline) w w₁ ∧
        Decided env config programs storage launch child deadline w₁ r w' := by
  induction rounds generalizing w with
  | zero => exact absurd some_left (Nat.lt_irrefl 0)
  | succ rounds ih =>
    -- A round that decides nothing takes its share of the time, so it was not the last one.
    have next {w₁ : W} (round : Undecided env config programs launch child deadline w w₁) :
        0 < rounds ∧ deadline + config.pollInterval.totalNanos
          ≤ now w₁ + rounds * config.pollInterval.totalNanos := by
      obtain ⟨early, long, -⟩ := round.passes orderly
      rw [Nat.succ_mul] at enough
      refine ⟨Nat.pos_of_ne_zero ?_, by omega⟩
      rintro rfl
      omega
    rw [leads_awaitReady_succ orderly]
    constructor
    · rintro (decided | ⟨w₁, round, led⟩)
      · exact ⟨w, .refl, decided⟩
      · obtain ⟨w₂, others, decided⟩ := (ih (next round).1 (next round).2).1 led
        exact ⟨w₂, .head round others, decided⟩
    · rintro ⟨w₂, undecided, decided⟩
      rcases undecided.cases_head with rfl | ⟨w₁, round, others⟩
      · exact .inl decided
      · exact .inr ⟨w₁, round, (ih (next round).1 (next round).2).2 ⟨w₂, others, decided⟩⟩

lemma wellFounded_undecided (positive : 0 < config.pollInterval.totalNanos) :
    WellFounded fun w' w => Undecided env config programs launch child deadline w w' := by
  refine Subrelation.wf (fun {w' w} round => ?_) (measure fun w => deadline - now w).wf
  obtain ⟨early, long, -⟩ := round.passes orderly
  show deadline - now w' < deadline - now w
  omega

lemma ends_giveUp (born : life w child ≠ .unborn) :
    (giveUp programs launch child : Task W (Except EngineError (Process C))).Ends env w :=
  achieves_bind.2 ((orderly.kill child w born).mono fun _ _ _ => trivial)

lemma Launched.passes {started : Nat}
    (h : Launched env config programs storage launch w child started w') :
    started ≤ now w' ∧ life w' child ≠ .unborn := by
  obtain ⟨w₁, w₂, -, spawned, read⟩ := h
  obtain ⟨told, -, until'⟩ := (orderly.clock w₂).holds read
  exact ⟨until', told.born child (((orderly.spawn _ _ w₁).holds spawned).2 child rfl)⟩

/-! ### The whole start -/

/-- **What a start comes to**, without a word about the number of looks. -/
lemma leads_start (positive : 0 < config.pollInterval.totalNanos) :
    Leads env (start config programs storage launch) w (some r) w' ↔
      (∃ e, r = .error e ∧ Unlaunched env config programs storage launch w e w') ∨
      ∃ child started deadline w₁ w₂,
        Launched env config programs storage launch w child started w₁ ∧
        deadline? started launch.timeout = some deadline ∧
        ReflTransGen (Undecided env config programs launch child deadline) w₁ w₂ ∧
        Decided env config programs storage launch child deadline w₂ r w' := by
  constructor
  · intro led
    obtain ⟨made, w₁, log, led⟩ := leads_bind_some.1 led
    rcases made with e | ⟨⟨⟩⟩
    · obtain ⟨same, rfl⟩ := leads_done.1 led
      cases same
      exact .inl ⟨_, rfl, .noLog log⟩
    · obtain ⟨spawned, w₂, spawn, led⟩ := leads_bind_some.1 led
      rcases spawned with e | child
      · obtain ⟨same, rfl⟩ := leads_done.1 led
        cases same
        exact .inl ⟨_, rfl, .notSpawned log spawn⟩
      · obtain ⟨started, w₃, read, led⟩ := leads_bind_some.1 led
        have launched : Launched env config programs storage launch w child started w₃ :=
          ⟨w₁, w₂, log, spawn, read⟩
        split at led
        · exact absurd led not_leads_forever
        · rename_i deadline held
          obtain ⟨w₄, undecided, decided⟩ := (leads_awaitReady orderly (Nat.succ_pos _)
            (deadline?_eq_some held ▸
              enough_rounds positive (launched.passes orderly).1)).1 led
          exact .inr ⟨child, started, deadline, w₃, w₄, launched, held, undecided, decided⟩
  · rintro (⟨e, rfl, unlaunched⟩ | ⟨child, started, deadline, w₃, w₄, launched, held, undecided,
      decided⟩)
    · cases unlaunched with
      | noLog log => exact leads_bind_some.2 ⟨_, _, log, .done _ _⟩
      | notSpawned log spawn =>
        exact leads_bind_some.2 ⟨_, _, log, leads_bind_some.2 ⟨_, _, spawn, .done _ _⟩⟩
    · have led := (leads_awaitReady orderly (Nat.succ_pos _) (deadline?_eq_some held ▸
        enough_rounds positive (launched.passes orderly).1)).2
          ⟨w₄, undecided, decided⟩
      obtain ⟨w₁, w₂, log, spawn, read⟩ := launched
      refine leads_bind_some.2 ⟨_, _, log, leads_bind_some.2 ⟨_, _, spawn,
        leads_bind_some.2 ⟨_, _, read, ?_⟩⟩⟩
      rw [held]
      exact led

variable (aside : storage.Orderly env life now)
include aside

lemma ends_awaitReady (born : life w child ≠ .unborn) :
    (awaitReady config programs storage launch child deadline rounds).Ends env w := by
  induction rounds generalizing w with
  | zero => exact ends_giveUp orderly born
  | succ rounds ih =>
    refine achieves_bind.2 ((orderly.poll child w).mono fun seen w₁ ⟨looked, _⟩ => ?_)
    have born := looked.born child born
    rcases seen with e | _ | status
    · exact ends_pure
    · refine achieves_bind.2 ((achieves_probe orderly).mono fun ready w₂ tried => ?_)
      have born := tried.born child born
      cases ready
      · refine achieves_bind.2 ((orderly.clock w₂).mono fun time w₃ ⟨told, _⟩ => ?_)
        have born := told.born child born
        split
        · exact ends_giveUp orderly born
        · exact achieves_bind.2 ((orderly.sleep _ w₃).mono fun _ w₄ ⟨rested, _⟩ =>
            ih (rested.born child born))
      · exact ends_pure
    · exact achieves_bind.2 (achieves_bind.2 ((aside.contentOf _ w₁).mono fun _ _ _ => trivial))

/-- A start ends unless the clock cannot hold the end of the timeout once the server has been
launched. -/
lemma ends_start_iff (others : ∀ w, ∃ w', env w w') :
    (start config programs storage launch).Ends env w ↔ ∀ (child : C) started w',
      Launched env config programs storage launch w child started w' →
      (deadline? started launch.timeout).isSome := by
  constructor
  · rintro ends child started w' ⟨w₁, w₂, made, spawned, read⟩
    have ends := (ends_bind.1 ends).2 _ _ made
    have ends := (ends_bind.1 ends).2 _ _ spawned
    have ends := (ends_bind.1 ends).2 _ _ read
    split at ends
    · exact absurd ends (not_ends_forever (others w'))
    · rename_i deadline held
      rw [held]
      rfl
  · intro held
    refine ends_bind.2 ⟨(aside.ensureFile _ w).ends, fun made w₁ log => ?_⟩
    cases made with
    | error e => exact ends_pure
    | ok =>
      refine ends_bind.2 ⟨(orderly.spawn _ _ w₁).ends, fun spawned w₂ spawn => ?_⟩
      cases spawned with
      | error e => exact ends_pure
      | ok child =>
        refine ends_bind.2 ⟨(orderly.clock w₂).ends, fun started w₃ read => ?_⟩
        have launched : Launched env config programs storage launch w child started w₃ :=
          ⟨w₁, w₂, log, spawn, read⟩
        split
        · rename_i missing
          have held := held child started w₃ launched
          rw [missing] at held
          cases held
        · exact ends_awaitReady orderly aside (launched.passes orderly).2

/-- What is decided about a server that was there: it is handed over, or it has ended. -/
lemma Decided.handed_over_or_ended
    (killed : ∀ child w r w', life w child ≠ .unborn →
      Leads env (programs.kill child) w (some r) w' → life w' child = .ended)
    (born : life w child ≠ .unborn)
    (h : Decided env config programs storage launch child deadline w r w') :
    r = .ok ⟨child, launch.dataDirectory⟩ ∨ (∃ e, r = .error e) ∧ life w' child = .ended := by
  cases h with
  | ready => exact .inl rfl
  | exited polled read =>
    obtain ⟨-, _, shown, ended⟩ := (orderly.poll child w).holds polled
    cases shown
    exact .inr ⟨⟨_, rfl⟩, ((aside.contentOf _ _).holds read).gone child (ended rfl)⟩
  | late polled probed read _ kills =>
    obtain ⟨looked, -⟩ := (orderly.poll child w).holds polled
    have tried := (achieves_probe orderly).holds probed
    obtain ⟨told, -⟩ := (orderly.clock _).holds read
    have born := ((looked.trans tried).trans told).born child born
    exact .inr ⟨⟨_, rfl⟩, killed child _ _ _ born kills⟩

/-- **A start is decided by the first event, and leaves no server behind.** Once the server has been
launched, a start ends if and only if the clock can hold the end of the timeout. What it ends with
is what the first round says that decides, after rounds that did not: the server is handed over if
it had not ended and accepts connections, its crash is reported if it had ended, and the time is
over only after a failed probe and at or past the deadline. There is no end of rounds without such
an event, and a server that is not handed over has ended. -/
theorem start_decided (positive : 0 < config.pollInterval.totalNanos)
    (others : ∀ w, ∃ w', env w w')
    (killed : ∀ child w r w', life w child ≠ .unborn →
      Leads env (programs.kill child) w (some r) w' → life w' child = .ended) :
    ((start config programs storage launch).Ends env w ↔ ∀ (child : C) started w',
      Launched env config programs storage launch w child started w' →
      (deadline? started launch.timeout).isSome) ∧
    (∀ r w', Leads env (start config programs storage launch) w (some r) w' ↔
      (∃ e, r = .error e ∧ Unlaunched env config programs storage launch w e w') ∨
      ∃ child started deadline w₁ w₂,
        Launched env config programs storage launch w child started w₁ ∧
        deadline? started launch.timeout = some deadline ∧
        ReflTransGen (Undecided env config programs launch child deadline) w₁ w₂ ∧
        Decided env config programs storage launch child deadline w₂ r w') ∧
    (∀ child deadline, WellFounded fun w' w =>
      Undecided env config programs launch child deadline w w') ∧
    ∀ child started deadline w₁ w₂ r w',
      Launched env config programs storage launch w child started w₁ →
      ReflTransGen (Undecided env config programs launch child deadline) w₁ w₂ →
      Decided env config programs storage launch child deadline w₂ r w' →
      r = .ok ⟨child, launch.dataDirectory⟩ ∨ (∃ e, r = .error e) ∧ life w' child = .ended := by
  refine ⟨ends_start_iff orderly aside others, fun r w' => leads_start orderly positive,
    fun child deadline => wellFounded_undecided orderly positive, ?_⟩
  intro child started deadline w₁ w₂ r w' launched undecided decided
  exact decided.handed_over_or_ended orderly aside killed
    ((passes_of_undecided orderly undecided).born child (launched.passes orderly).2)

end Starting

open Machine (Bench benchConfig benchLaunch benchStart)

/-- A server that hangs is given up once its time is over, and has ended then. -/
theorem hanging_server_ended : ∃ b child,
    benchStart.Ends (fun b b' => b' = b) (Bench.of { mode := .hang } {}) ∧
    Leads (fun b b' => b' = b) benchStart (Bench.of { mode := .hang } {})
      (some (.error (.startTimeout benchLaunch.timeout))) b ∧
    b.machine.life child = .ended := by
  have positive : 0 < benchConfig.pollInterval.totalNanos := by decide +kernel
  have alone (b : Bench) : ∃ b', b' = b := ⟨b, rfl⟩
  have killed (child : Nat) (b : Bench) (r : Except IoError Unit) (b' : Bench)
      (born : b.machine.life child ≠ .unborn)
      (kills : Leads (fun b b' => b' = b) ((Machine.programs Bench.machinePart).kill child) b
        (some r) b') : b'.machine.life child = .ended := by
    refine ((Machine.orderly_bench.kill child b born).holds kills).2 ?_
    have ran := congrArg Prod.fst (kills.quiet_run Task.quiet_eq)
    exact (Option.some.inj ran).symm
  obtain ⟨ends, leads, -, gone⟩ := @start_decided _ _ _ benchConfig _ _ benchLaunch _ _
    (Bench.of { mode := .hang } {}) Machine.orderly_bench Machine.orderly_benchStorage positive
    alone killed
  have representable (child started b) (launched : Launched (fun b b' => b' = b) benchConfig
      (Machine.programs Bench.machinePart) (Machine.storage Bench.machinePart) benchLaunch
      (Bench.of { mode := .hang } {}) child started b) :
      (deadline? started benchLaunch.timeout).isSome := by
    obtain ⟨b₁, b₂, made, spawned, read⟩ := launched
    have made : _ = b₁ := congrArg Prod.snd (made.quiet_run Task.quiet_eq)
    have spawned : _ = b₂ := congrArg Prod.snd (spawned.quiet_run Task.quiet_eq)
    have read : some b₂.machine.clock = some started :=
      congrArg Prod.fst (read.quiet_run Task.quiet_eq)
    have unmoved : b₂.machine.clock = 0 := by
      rw [← spawned, ← made]
      decide +kernel
    rw [← Option.some.inj read, unmoved]
    decide +kernel
  have led : Leads (fun b b' => b' = b) benchStart (Bench.of { mode := .hang } {})
      (some (.error (.startTimeout benchLaunch.timeout))) _ :=
    Task.leads_of_quiet_run Task.quiet_eq (by decide +kernel)
  obtain ⟨_, same, ⟨⟩⟩ | ⟨child, started, deadline, w₁, w₂, launched, -, undecided, decided⟩ :=
    (leads _ _).1 led
  · cases same
  · cases same
  · obtain same | ⟨-, ended⟩ := gone _ _ _ _ _ _ _ launched undecided decided
    · cases same
    · refine ⟨_, child, ?_, led, ended⟩
      rw [benchStart, ends]
      exact representable

end ShardCluster.Postgres
