import ShardCluster.Proofs.OrderlyPrograms

/-!
# Shutting servers down

A server is shut down through `pg_ctl`, and killed if `pg_ctl` reports a failure. `ShutDown` has the
courses that takes: there are three in which the server is gone, and two in which an error is
reported. One of these is a kill that failed; in the other `pg_ctl` could not be run at all, and
then nothing is killed. `stop_courses` says that there are no others, and what a clean-up makes of
them: it leaves the node running exactly where the shutdown reported an error.
-/

namespace ShardCluster

open ShardCluster.Task (Beside Fulfils Leads achieves_iff ends_pure fulfils_bind leads_bind_some
  leads_done)

namespace Postgres

section Courses

variable {C W : Type} (env : W → W → Prop) (config : Config) (programs : Programs C W)
  (process : Process C)

/-- **A course that shutting a server down takes**, and what is reported -/
inductive ShutDown (w : W) : Except EngineError Unit → W → Prop
  /-- The server had ended before. -/
  | gone {status : ExitStatus} {w' : W} :
      Leads env (programs.poll process.child) w (some (.ok (some status))) w' →
      ShutDown w (.ok ()) w'
  /-- `pg_ctl` reports that it has stopped the server, which has ended. -/
  | obeyed {output : Output} {status : ExitStatus} {w₁ w₂ w' : W} :
      Leads env (programs.poll process.child) w (some (.ok none)) w₁ →
      Leads env (programs.run (config.stop process.dataDirectory)) w₁ (some (.ok output)) w₂ →
      output.status.isSuccess = true →
      Leads env (programs.await process.child) w₂ (some (.ok status)) w' →
      ShutDown w (.ok ()) w'
  /-- `pg_ctl` reports a failure, and the server is killed. -/
  | killed {output : Output} {w₁ w₂ w' : W} :
      Leads env (programs.poll process.child) w (some (.ok none)) w₁ →
      Leads env (programs.run (config.stop process.dataDirectory)) w₁ (some (.ok output)) w₂ →
      output.status.isSuccess = false →
      Leads env (programs.kill process.child) w₂ (some (.ok ())) w' →
      ShutDown w (.ok ()) w'
  /-- `pg_ctl` reports a failure, and so does the kill. -/
  | unkillable {output : Output} {e : IoError} {w₁ w₂ w' : W} :
      Leads env (programs.poll process.child) w (some (.ok none)) w₁ →
      Leads env (programs.run (config.stop process.dataDirectory)) w₁ (some (.ok output)) w₂ →
      output.status.isSuccess = false →
      Leads env (programs.kill process.child) w₂ (some (.error e)) w' →
      ShutDown w (.error (.stop e.message)) w'
  /-- `pg_ctl` cannot be run, and nothing else is done. -/
  | unrunnable {e : IoError} {w₁ w' : W} :
      Leads env (programs.poll process.child) w (some (.ok none)) w₁ →
      Leads env (programs.run (config.stop process.dataDirectory)) w₁ (some (.error e)) w' →
      ShutDown w (.error (.io e)) w'

/-- `pg_ctl` reports success only where the server has ended. -/
def Obeyed (life : W → C → Life) (w : W) : Prop :=
  ∀ w₁ output w₂, Leads env (programs.poll process.child) w (some (.ok none)) w₁ →
    Leads env (programs.run (config.stop process.dataDirectory)) w₁ (some (.ok output)) w₂ →
    output.status.isSuccess = true → life w₂ process.child = .ended

end Courses

section Stopping

variable {C W : Type} {env : W → W → Prop} {config : Config} {programs : Programs C W}
  {process : Process C} {life : W → C → Life} {now : W → Nat} {w w' : W}
  {r : Except EngineError Unit} (orderly : programs.Orderly env life now)
include orderly

lemma leads_stop : Leads env (stop config programs process) w (some r) w' ↔
    ShutDown env config programs process w r w' := by
  constructor
  · intro led
    obtain ⟨seen, w₁, polled, led⟩ := leads_bind_some.1 led
    rcases seen with e | _ | status
    · obtain ⟨-, status, shown, -⟩ := (orderly.poll _ w).holds polled
      cases shown
    · obtain ⟨answer, w₂, ran, led⟩ := leads_bind_some.1 led
      rcases answer with e | output
      · obtain ⟨same, rfl⟩ := leads_done.1 led
        cases same
        exact .unrunnable polled ran
      · dsimp only at led
        split at led
        · rename_i success
          obtain ⟨ended, w₃, awaited, led⟩ := leads_bind_some.1 led
          obtain ⟨⟨status, rfl⟩, -⟩ := orderly.awaited _ _ _ _ awaited
          obtain ⟨same, rfl⟩ := leads_done.1 led
          cases same
          exact .obeyed polled ran success awaited
        · rename_i failure
          obtain ⟨killed, w₃, kills, led⟩ := leads_bind_some.1 led
          rcases killed with e | ⟨⟨⟩⟩
          · obtain ⟨same, rfl⟩ := leads_done.1 led
            cases same
            exact .unkillable polled ran (Bool.eq_false_iff.2 failure) kills
          · obtain ⟨same, rfl⟩ := leads_done.1 led
            cases same
            exact .killed polled ran (Bool.eq_false_iff.2 failure) kills
    · obtain ⟨same, rfl⟩ := leads_done.1 led
      cases same
      exact .gone polled
  · intro course
    cases course with
    | gone polled => exact leads_bind_some.2 ⟨_, _, polled, .done _ _⟩
    | obeyed polled ran success awaited =>
      refine leads_bind_some.2 ⟨_, _, polled, leads_bind_some.2 ⟨_, _, ran, ?_⟩⟩
      dsimp only
      rw [if_pos success]
      exact leads_bind_some.2 ⟨_, _, awaited, .done _ _⟩
    | killed polled ran failure kills | unkillable polled ran failure kills =>
      refine leads_bind_some.2 ⟨_, _, polled, leads_bind_some.2 ⟨_, _, ran, ?_⟩⟩
      dsimp only
      rw [if_neg (Bool.eq_false_iff.1 failure)]
      exact leads_bind_some.2 ⟨_, _, kills, .done _ _⟩
    | unrunnable polled ran =>
      exact leads_bind_some.2 ⟨_, _, polled, leads_bind_some.2 ⟨_, _, ran, .done _ _⟩⟩

variable (born : life w process.child ≠ .unborn)
include born

lemma ShutDown.ended (course : ShutDown env config programs process w (.ok ()) w') :
    life w' process.child = .ended := by
  cases course with
  | gone polled =>
    obtain ⟨-, status, shown, ended⟩ := (orderly.poll _ w).holds polled
    cases shown
    exact ended rfl
  | obeyed _ _ _ awaited => exact (orderly.awaited _ _ _ _ awaited).2
  | killed polled ran _ kills =>
    have passes := ((orderly.poll _ w).holds polled).1.trans ((orderly.run _ _).holds ran)
    exact ((orderly.kill _ _ (passes.born _ born)).holds kills).2 rfl

lemma ends_stop (obeyed : Obeyed env config programs process life w) :
    (stop config programs process).Ends env w := by
  refine Task.ends_bind.2 ⟨(orderly.poll _ w).ends, fun seen w₁ polled => ?_⟩
  have born := ((orderly.poll _ w).holds polled).1.born _ born
  rcases seen with e | _ | status
  · exact ends_pure
  · refine Task.ends_bind.2 ⟨(orderly.run _ w₁).ends, fun answer w₂ ran => ?_⟩
    have born := ((orderly.run _ w₁).holds ran).born _ born
    rcases answer with e | output
    · exact ends_pure
    · dsimp only
      split
      · rename_i success
        refine Task.ends_bind.2 ⟨orderly.await _ w₂ (obeyed _ _ _ polled ran success), ?_⟩
        rintro (e | status) w₃ -
        · exact ends_pure
        · exact ends_pure
      · refine Task.ends_bind.2 ⟨(orderly.kill _ w₂ born).ends, ?_⟩
        rintro (e | ⟨⟨⟩⟩) w₃ -
        · exact ends_pure
        · exact ends_pure
  · exact ends_pure

end Stopping

end Postgres

/-! ### Cleaning up -/

namespace Node

section CleaningUp

variable {P W : Type} {env : W → W → Prop} {host : Host P W} {n : Node P} {p : P} {w w' : W}
  {Q : Unit → Node P × W → Prop} {E : ClusterError → Node P × W → Prop}

/-- the node once its server has been shut down -/
def down (n : Node P) : Node P := { n with process := none, phase := .stopped }

lemma fulfils_cleanup_running (running : n.phase = .running) (serves : n.process = some p) :
    Fulfils (Beside env) Q E (cleanup host) (n, w) ↔
      (host.engine.stop p).Achieves env (fun r w₁ => r.casesOn
        (fun e => E (n.cleanupError e.message) (n, w₁))
        fun _ => Fulfils (Beside env) Q E (removeDirectory host n.down) (n.down, w₁)) w := by
  have same : removeDirectory host n = removeDirectory host n.down := rfl
  rw [cleanup_eq, stop]
  simp [running, serves, down, same]

lemma fulfils_removeDirectory {J : W → Prop}
    (kept : (host.storage.removeTree n.identity.dataDirectory).Achieves env (fun _ => J) w)
    (hJ : J w) :
    Fulfils (Beside env) (fun _ q => q.1 = { n with phase := .cleanedUp } ∧ J q.2)
      (fun _ q => q.1 = n ∧ J q.2) (removeDirectory host n) (n, w) := by
  unfold removeDirectory
  dsimp only
  split
  · simp only [fulfils_bind, fulfils_outside]
    refine kept.mono fun r w₁ hJ => ?_
    split
    · exact ⟨rfl, hJ⟩
    · exact ⟨rfl, hJ⟩
    · exact ⟨rfl, hJ⟩
  · exact ⟨rfl, hJ⟩

end CleaningUp

end Node

namespace Postgres

section Courses

variable {C W : Type} {env : W → W → Prop} {config : Config} {programs : Programs C W}
  {storage : Storage W} {process : Process C} {life : W → C → Life} {now : W → Nat} {w : W}

/-- What a clean-up comes to after the shutdown of the node's server: where an error is reported,
the node is as it was, and otherwise its server is gone, and its directory is if no error is
reported about that. -/
def CleanedUp (life : W → C → Life) (process : Process C)
    (shutDown : Except EngineError Unit → Prop) (n : Node (Process C))
    (r : Except ClusterError Unit) (n' : Node (Process C)) (w' : W) : Prop :=
  (∃ e, shutDown (.error e) ∧ r = .error (n.cleanupError e.message) ∧ n' = n) ∨
    shutDown (.ok ()) ∧ life w' process.child = .ended ∧ n'.process = none ∧
      (r = .ok () ∧ n'.phase = .cleanedUp ∨ (∃ e, r = .error e) ∧ n'.phase = .stopped)

/-- **All the courses of a shutdown.** For a server that is there, and a `pg_ctl` that reports
success only where the server has ended, a shutdown comes to its end, and in one of the five
courses. Where no error is reported the server is gone. The clean-up of a node comes to its end as
well, and leaves the node running only where the shutdown reports an error: `pg_ctl` could not be
run, or it failed and so did the kill. -/
theorem stop_courses (orderly : programs.Orderly env life now)
    (aside : storage.Orderly env life now) (born : life w process.child ≠ .unborn)
    (obeyed : Obeyed env config programs process life w) :
    (stop config programs process).Ends env w ∧
    (∀ r w', Leads env (stop config programs process) w (some r) w' ↔
      ShutDown env config programs process w r w') ∧
    (∀ w', ShutDown env config programs process w (.ok ()) w' → life w' process.child = .ended) ∧
    ∀ n : Node (Process C), n.phase = .running → n.process = some process →
      (Node.cleanup ⟨engine config programs storage, storage⟩).run.Ends (Beside env) (n, w) ∧
      ∀ r q, Leads (Beside env) (Node.cleanup ⟨engine config programs storage, storage⟩).run
          (n, w) (some r) q →
        CleanedUp life process (fun r => ∃ w₁, ShutDown env config programs process w r w₁)
          n r q.1 q.2 := by
  have ends := ends_stop orderly born obeyed
  have courses {r : Except EngineError Unit} {w' : W} :
      Leads env (stop config programs process) w (some r) w' ↔
        ShutDown env config programs process w r w' := leads_stop orderly
  refine ⟨ends, fun r w' => courses, fun w' => ShutDown.ended orderly born,
    fun n running serves => ?_⟩
  have cleanedUp : Fulfils (Beside env)
      (fun _ q => CleanedUp life process
        (fun r => ∃ w₁, ShutDown env config programs process w r w₁) n (.ok ()) q.1 q.2)
      (fun e q => CleanedUp life process
        (fun r => ∃ w₁, ShutDown env config programs process w r w₁) n (.error e) q.1 q.2)
      (Node.cleanup ⟨engine config programs storage, storage⟩) (n, w) := by
    rw [Node.fulfils_cleanup_running running serves]
    refine achieves_iff.2 ⟨ends, fun r w₁ led => ?_⟩
    have course := courses.1 led
    rcases r with e | ⟨⟨⟩⟩
    · exact .inl ⟨e, ⟨w₁, course⟩, rfl, rfl⟩
    · have ended := course.ended orderly born
      have removed := (aside.removeTree n.identity.dataDirectory w₁).mono
        fun _ w' passes => passes.gone _ ended
      refine (Node.fulfils_removeDirectory (J := fun w => life w process.child = .ended) removed
        ended).mono ?_ ?_
      · rintro _ ⟨n', w'⟩ ⟨rfl, ended⟩
        exact .inr ⟨⟨w₁, course⟩, ended, rfl, .inl ⟨rfl, rfl⟩⟩
      · rintro e ⟨n', w'⟩ ⟨rfl, ended⟩
        exact .inr ⟨⟨w₁, course⟩, ended, rfl, .inr ⟨⟨e, rfl⟩, rfl⟩⟩
  refine ⟨cleanedUp.ends, fun r q led => ?_⟩
  have cleaned := cleanedUp.holds led
  rcases r with e | ⟨⟨⟩⟩
  · exact cleaned
  · exact cleaned

end Courses

end Postgres

/-! ### On a bench -/

namespace Machine

/-- a bench on which a server runs, with a `pg_ctl` that goes by a script -/
def Bench.running (pgCtl : Script) : Bench := (benchStart.run [] (Bench.of {} pgCtl)).2

/-- the server that runs there -/
def benchProcess : Postgres.Process Nat := ⟨0, benchLaunch.dataDirectory⟩

/-- the node whose server that is -/
def benchNode : Node (Postgres.Process Nat) where
  identity := ⟨"W1", 5433, .ofString "w1"⟩
  phase := .running
  process := some benchProcess
  startTimeout := benchLaunch.timeout
  claimed := true

/-- the node's surroundings -/
def benchHost : Host (Postgres.Process Nat) Bench :=
  ⟨Postgres.engine benchConfig (programs Bench.machinePart) (storage Bench.machinePart),
    storage Bench.machinePart⟩

/-- A `pg_ctl` that cannot be executed blocks the clean-up: node and server go on running. -/
theorem unrunnable_blocks_cleanup : ∃ (e : EngineError) (b : Bench),
    Leads (Beside fun b b' => b' = b) (Node.cleanup benchHost).run
      (benchNode, Bench.running { executable := false })
      (some (.error (benchNode.cleanupError e.message))) (benchNode, b) ∧
    (∃ b', Postgres.ShutDown (fun b b' => b' = b) benchConfig (programs Bench.machinePart)
      benchProcess (Bench.running { executable := false }) (.error e) b') ∧
    b.machine.life benchProcess.child = .alive := by
  have born :
      (Bench.running { executable := false }).machine.life benchProcess.child ≠ .unborn := by
    decide +kernel
  have obeyed : Postgres.Obeyed (fun b b' => b' = b) benchConfig (programs Bench.machinePart)
      benchProcess (fun b => b.machine.life) (Bench.running { executable := false }) := by
    intro b₁ output b₂ polled ran
    have polled : _ = b₁ := congrArg Prod.snd (polled.quiet_run Task.quiet_eq)
    have ran : _ = some true :=
      congrArg (fun r => r.1.map Except.toBool) (ran.quiet_run Task.quiet_eq)
    rw [← polled] at ran
    exact absurd ran (by decide +kernel)
  obtain ⟨-, -, -, cleaned⟩ := Postgres.stop_courses orderly_bench orderly_benchStorage born obeyed
  obtain ⟨e, ⟨n, b⟩, led, alive⟩ : ∃ e q,
      Leads (Beside fun b b' => b' = b) (Node.cleanup benchHost).run
        (benchNode, Bench.running { executable := false }) (some (.error e)) q ∧
      q.2.machine.life benchProcess.child = .alive := by
    obtain ⟨e, failed⟩ : ∃ e, ((Node.cleanup benchHost).run.run []
        (benchNode, Bench.running { executable := false })).1 = some (.error e) :=
      eq_some_error (by decide +kernel)
    exact ⟨e, _, Task.leads_of_quiet_run Task.quiet_eq.beside failed, by decide +kernel⟩
  rcases (cleaned benchNode rfl rfl).2 _ _ led with ⟨cause, course, same, rfl⟩ | ⟨-, ended, -⟩
  · obtain rfl := Except.error.inj same
    exact ⟨cause, b, led, course, alive⟩
  · exact absurd (alive.symm.trans ended) (by decide)

end Machine

end ShardCluster
