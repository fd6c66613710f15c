import Mathlib.Logic.Basic
import ShardCluster.Cluster.Operations
import ShardCluster.Engine.Simulated
import ShardCluster.Task.Run

/-!
# Tasks that come to an end

A task is timed (`Task.Timed`) if each of its pauses lasts for a time, whatever happens meanwhile.
Such a task always comes to its end in virtual time (`Timed.run_ends`). Operations of nodes and
clusters are timed on every host whose own tasks are (`Host.Timed`), and the simulated engine with
files is such a host (`Simulated.timed_host`).
-/

namespace ShardCluster

namespace Task

variable {W S T X Y α β ε : Type}

/-- **A timed task**: each of its pauses ends by itself. -/
inductive Timed : Task W α → Prop
  | done (a : α) : Timed (done a)
  | act {effect : W → W} {next : W → Task W α} :
      (∀ w, Timed (next w)) → Timed (act effect next)
  | pause {nanos : Nat} {wake : W → Bool} {next : Task W α} :
      Timed next → Timed (pause (some nanos) wake next)

lemma pass_ends {nanos : Nat} {wake : W → Bool} (alarms : List (Alarm W)) (w : W) :
    (pass wake (some nanos) alarms w).1 = true := by
  induction alarms generalizing nanos w with
  | nil => simp [pass]
  | cons alarm later ih =>
    unfold pass
    split
    · rfl
    · dsimp only
      split
      · rfl
      · exact ih _

/-- **A timed task comes to its end**, whatever alarms ring meanwhile. -/
theorem Timed.run_ends {t : Task W α} (h : t.Timed) (alarms : List (Alarm W)) (w : W) :
    ∃ a, (t.run alarms w).1 = some a := by
  induction h generalizing alarms w with
  | done a => exact ⟨a, rfl⟩
  | act _ ih => exact ih w alarms _
  | @pause nanos wake next _ ih =>
    have ends := @pass_ends _ nanos wake alarms w
    unfold Task.run
    rcases hp : pass wake (some nanos) alarms w with ⟨passed, later, w'⟩
    rw [hp] at ends
    obtain rfl : passed = true := ends
    exact ih later w'

/-! ### Ways to build timed tasks -/

lemma timed_pure {a : α} : (pure a : Task W α).Timed := .done a

lemma Timed.bind {t : Task W α} {f : α → Task W β} (ht : t.Timed) (hf : ∀ a, (f a).Timed) :
    (t >>= f).Timed := by
  show (t.bind f).Timed
  induction ht with
  | done a => exact hf a
  | act _ ih => exact .act ih
  | pause _ ih => exact .pause ih

lemma timed_read {f : W → α} : (read f).Timed := .act fun _ => .done _

lemma timed_update {f : W → W} : (update f).Timed := .act fun _ => .done _

lemma timed_atomic {f : W → α × W} : (atomic f).Timed := .act fun _ => .act fun _ => .done _

lemma timed_yield : (yield : Task W Unit).Timed := .pause (.done ())

lemma timed_sleep {nanos : Nat} : (sleep nanos : Task W Unit).Timed := by
  unfold sleep
  split
  · exact .done ()
  · exact .pause (.done ())

lemma Timed.through {part : Part S W} {t : Task W α} (ht : t.Timed) :
    (t.through part).Timed := by
  induction ht with
  | done a => exact .done a
  | act _ ih => exact .act fun s => ih _
  | pause _ ih => exact .pause ih

lemma Timed.within {get : S → Option W} {put : W → S → S} {t : Task W α} (ht : t.Timed) :
    (t.within get put).Timed := by
  induction ht with
  | done a => exact .done _
  | act _ ih =>
    unfold Task.within
    refine .act fun s => ?_
    split
    · exact ih _
    · exact .done none
  | pause _ ih => exact .pause ih

/-! ### Operations that may fail -/

section Operations

variable {x : ExceptT ε (Task W) α} {f : α → ExceptT ε (Task W) β}

lemma timed_run_pure {a : α} : (pure a : ExceptT ε (Task W) α).run.Timed := .done _

lemma timed_run_throw {e : ε} : (throw e : ExceptT ε (Task W) α).run.Timed := .done _

lemma timed_run_bind (hx : x.run.Timed) (hf : ∀ a, (f a).run.Timed) : (x >>= f).run.Timed := by
  rw [ExceptT.run_bind]
  refine hx.bind fun r => ?_
  cases r with
  | error e => exact .done _
  | ok a => exact hf a

lemma timed_run_tryCatch {g : ε → ExceptT ε (Task W) α} (hx : x.run.Timed)
    (hg : ∀ e, (g e).run.Timed) : (tryCatch x g).run.Timed := by
  show Timed (x.run >>= _)
  refine hx.bind fun r => ?_
  cases r with
  | error e => exact hg e
  | ok a => exact .done _

lemma timed_run_lift {t : Task W α} (ht : t.Timed) :
    (liftM t : ExceptT ε (Task W) α).run.Timed :=
  ht.bind fun _ => .done _

lemma timed_run_ite {c : Prop} [Decidable c] {y : ExceptT ε (Task W) α} (hx : x.run.Timed)
    (hy : y.run.Timed) : (if c then x else y).run.Timed := by
  split
  · exact hx
  · exact hy

lemma timed_run_forM {l : List β} {f : β → ExceptT ε (Task W) PUnit}
    (hf : ∀ b ∈ l, (f b).run.Timed) : (l.forM f).run.Timed := by
  induction l with
  | nil => exact timed_run_pure
  | cons b rest ih =>
    rw [List.forall_mem_cons] at hf
    exact timed_run_bind hf.1 fun _ => ih hf.2

lemma timed_run_guard {c : Prop} [Decidable c] {e : ε} {f : PUnit → ExceptT ε (Task W) β}
    (hf : (f ⟨⟩).run.Timed) : (if c then throw e >>= f else f ⟨⟩).run.Timed :=
  timed_run_ite (timed_run_bind timed_run_throw fun _ => hf) hf

end Operations

end Task

open ShardCluster.Task (timed_pure timed_read timed_update timed_atomic timed_yield timed_sleep
  timed_run_pure timed_run_throw timed_run_bind timed_run_tryCatch timed_run_lift timed_run_ite
  timed_run_guard)

variable {P W α : Type}

/-- **A timed host**: whatever it is asked for comes to an end. -/
structure Host.Timed (host : Host P W) : Prop where
  init : ∀ directory, (host.engine.init directory).Timed
  start : ∀ launch, (host.engine.start launch).Timed
  stop : ∀ process, (host.engine.stop process).Timed
  execute : ∀ port database statement, (host.engine.execute port database statement).Timed
  portAvailable : ∀ port, (host.engine.portAvailable port).Timed
  pathExists : ∀ path, (host.storage.pathExists path).Timed
  namesIn : ∀ path, (host.storage.namesIn path).Timed
  createDirectories : ∀ path, (host.storage.createDirectories path).Timed
  append : ∀ path content, (host.storage.append path content).Timed
  removeTree : ∀ path, (host.storage.removeTree path).Timed

/-! ### Nodes -/

namespace Node

variable {ε : Type}

lemma timed_current : (current : NodeAction P W (Node P)).run.Timed := timed_run_lift timed_read

lemma timed_change {f : Node P → Node P} : (change f : NodeAction P W Unit).run.Timed :=
  timed_run_lift timed_update

lemma timed_outside {t : Task W α} (ht : t.Timed) : (outside t : NodeAction P W α).run.Timed :=
  timed_run_lift ht.through

lemma timed_attempt {meaning : ε → ClusterError} {t : Task W (Except ε α)} (ht : t.Timed) :
    (attempt meaning t : NodeAction P W α).run.Timed := by
  refine timed_run_bind (timed_outside ht) fun r => ?_
  cases r with
  | error e => exact timed_run_throw
  | ok a => exact timed_run_pure

variable {host : Host P W} (timed : host.Timed)
include timed

lemma timed_checkVacant (n : Node P) : (checkVacant host n).run.Timed := by
  refine timed_run_bind (timed_attempt (timed.pathExists _)) fun found => ?_
  refine timed_run_ite ?_ timed_run_pure
  exact timed_run_bind (timed_attempt (timed.namesIn _)) fun names =>
    timed_run_ite timed_run_throw timed_run_pure

lemma timed_init : (init host).run.Timed := by
  refine timed_run_bind timed_current fun n => timed_run_guard ?_
  refine timed_run_bind (timed_checkVacant timed n) fun _ => ?_
  refine timed_run_bind (timed_outside (timed.portAvailable _)) fun free => timed_run_guard ?_
  refine timed_run_bind timed_change fun _ => ?_
  refine timed_run_bind (timed_attempt (timed.createDirectories _)) fun _ => ?_
  exact timed_run_bind (timed_attempt (timed.init _)) fun _ => timed_change

lemma timed_appendConfig {text : String} : (appendConfig host text).run.Timed :=
  timed_run_bind timed_current fun _ => timed_run_guard (timed_attempt (timed.append _ _))

lemma timed_start : (start host).run.Timed := by
  refine timed_run_bind timed_current fun _ => timed_run_guard ?_
  exact timed_run_bind (timed_attempt (timed.start _)) fun _ => timed_change

lemma timed_runSql {n : Node P} {database statement : String} :
    (n.runSql host database statement).run.Timed := by
  unfold runSql
  refine timed_run_guard ?_
  refine timed_run_bind (timed_run_lift (timed.execute _ _ _)) fun r => ?_
  cases r with
  | error e => exact timed_run_throw
  | ok text => exact timed_run_pure

lemma timed_stop : (stop host).run.Timed := by
  refine timed_run_bind timed_current fun n => timed_run_ite timed_run_pure ?_
  have set_down : (change fun n : Node P =>
      { n with process := none, phase := .stopped } : NodeAction P W Unit).run.Timed := timed_change
  dsimp only
  split
  · exact timed_run_bind (timed_attempt (timed.stop _)) fun _ => set_down
  · exact set_down

lemma timed_cleanup : (cleanup host).run.Timed := by
  refine timed_run_bind timed_current fun n => timed_run_ite timed_run_pure ?_
  have set_gone : (change fun n : Node P => { n with phase := .cleanedUp } :
      NodeAction P W Unit).run.Timed := timed_change
  refine timed_run_bind (timed_stop timed) fun _ => timed_run_ite ?_ set_gone
  refine timed_run_bind (timed_outside (timed.removeTree _)) fun r => ?_
  split
  · exact set_gone
  · exact set_gone
  · exact timed_run_bind timed_run_throw fun _ => set_gone

end Node

/-! ### Clusters -/

namespace Cluster

lemma timed_current : (current : ClusterAction P W (Cluster P)).run.Timed :=
  timed_run_lift timed_read

lemma timed_change {f : Cluster P → Cluster P} : (change f : ClusterAction P W Unit).run.Timed :=
  timed_run_lift timed_update

lemma timed_outside {x : ExceptT ClusterError (Task W) α} (hx : x.run.Timed) :
    (outside x : ClusterAction P W α).run.Timed :=
  hx.through

lemma timed_onCoordinator {x : NodeAction P W α} (hx : x.run.Timed) :
    (onCoordinator x).run.Timed := by
  refine timed_run_bind (timed_run_lift hx.within) fun r => ?_
  rcases r with _ | (e | a)
  · exact timed_run_throw
  · exact timed_run_throw
  · exact timed_run_pure

lemma timed_onOnboarding {x : NodeAction P W α} (hx : x.run.Timed) :
    (onOnboarding x).run.Timed := by
  refine timed_run_bind (timed_run_lift hx.within) fun r => ?_
  rcases r with _ | (e | a)
  · exact timed_run_throw
  · exact timed_run_throw
  · exact timed_run_pure

variable {host : Host P W} (timed : host.Timed)
include timed

lemma timed_releaseCoordinator : (releaseCoordinator host).run.Timed := by
  refine timed_run_bind timed_current fun c => timed_run_ite ?_ timed_run_pure
  refine timed_run_bind (timed_run_tryCatch ?_ fun _ => timed_run_pure) fun _ => timed_change
  exact timed_run_bind (timed_onCoordinator (Node.timed_cleanup timed)) fun _ => timed_run_pure

lemma timed_releaseOnboarding : (releaseOnboarding host).run.Timed := by
  refine timed_run_bind timed_current fun c => timed_run_ite ?_ timed_run_pure
  refine timed_run_bind (timed_run_tryCatch ?_ fun _ => timed_run_pure) fun _ => timed_change
  exact timed_run_bind (timed_onOnboarding (Node.timed_cleanup timed)) fun _ => timed_run_pure

lemma timed_installExtension {n : Node P} {dbname : String} :
    (installExtension host n dbname).run.Timed := by
  refine timed_run_bind (timed_run_tryCatch (Node.timed_runSql timed) fun e => ?_)
    fun _ => timed_run_pure
  split
  · exact timed_run_throw
  · exact timed_run_throw

lemma timed_prepare {settings : String} : (prepare host settings).run.Timed := by
  refine timed_run_bind (Node.timed_init timed) fun _ => ?_
  exact timed_run_bind (Node.timed_appendConfig timed) fun _ => Node.timed_start timed

lemma timed_bringUpCoordinator : (bringUpCoordinator host).run.Timed := by
  refine timed_run_bind timed_current fun c => ?_
  split
  · refine timed_run_bind (timed_onCoordinator (timed_prepare timed)) fun _ => ?_
    refine timed_run_bind timed_current fun c' => ?_
    split
    · exact timed_outside (timed_installExtension timed)
    · exact timed_run_throw
  · exact timed_run_throw

/-- **Bootstrapping** comes to an end. -/
theorem timed_bootstrap {name : String} {port : UInt16} :
    (bootstrap host name port).run.Timed := by
  refine timed_run_bind timed_current fun c => timed_run_guard ?_
  refine timed_run_bind (.done _) fun _ => timed_run_bind timed_change fun _ => ?_
  refine timed_run_bind (timed_run_tryCatch (timed_bringUpCoordinator timed) fun e => ?_)
    fun _ => ?_
  · exact timed_run_bind (timed_releaseCoordinator timed) fun _ => timed_run_throw
  · refine timed_run_bind timed_current fun c' => ?_
    split
    · exact timed_run_bind timed_change fun _ => timed_run_pure
    · exact timed_run_throw

lemma timed_onboard {connection : ConnectionString} : (onboard host connection).run.Timed := by
  unfold onboard
  refine timed_run_bind timed_current fun c => ?_
  split
  · refine timed_run_guard ?_
    refine timed_run_bind (timed_onOnboarding (timed_prepare timed)) fun _ => ?_
    refine timed_run_bind timed_current fun c' => ?_
    split
    · refine timed_run_bind (timed_outside (timed_installExtension timed)) fun _ => ?_
      refine timed_run_bind timed_current fun c'' => ?_
      split
      · exact timed_run_bind (timed_outside (Node.timed_runSql timed)) fun _ => timed_run_pure
      · exact timed_run_throw
    · exact timed_run_throw
  · exact timed_run_throw

/-- **Adding a worker** comes to an end. -/
theorem timed_addWorker {name : String} {port : UInt16} :
    (addWorker host name port).run.Timed := by
  refine timed_run_bind timed_current fun c => ?_
  split
  · refine timed_run_guard (timed_run_bind (timed_releaseOnboarding timed) fun _ => ?_)
    refine timed_run_bind timed_current fun c' => ?_
    refine timed_run_bind (timed_run_tryCatch (.done _) fun _ => timed_run_throw) fun _ => ?_
    refine timed_run_bind timed_change fun _ => ?_
    refine timed_run_bind (timed_run_tryCatch (timed_onboard timed) fun e => ?_) fun _ => ?_
    · exact timed_run_bind (timed_releaseOnboarding timed) fun _ => timed_run_throw
    · refine timed_run_bind timed_current fun c'' => ?_
      split
      · exact timed_run_bind timed_change fun _ => timed_run_pure
      · exact timed_run_throw
  · exact timed_run_throw

lemma timed_executeOnCoordinator {statement : String} :
    (executeOnCoordinator host statement).run.Timed := by
  refine timed_run_bind timed_current fun c => timed_run_guard ?_
  split
  · exact timed_outside (Node.timed_runSql timed)
  · exact timed_run_throw

lemma timed_runOnNode {name statement : String} : (runOnNode host name statement).run.Timed := by
  refine timed_run_bind timed_current fun c => ?_
  split
  · exact timed_outside (Node.timed_runSql timed)
  · exact timed_run_throw

end Cluster

/-! ### The simulated engine -/

namespace Simulated

variable (state : Part W Simulated) (files : Part W FileSystem)

/-- the simulated engine on files, which both are parts of the world -/
def host : Host Process W := ⟨engine state (.ofFiles files), .ofFiles files⟩

variable {state files}

lemma timed_perform (action : FileAction α) : (Storage.perform files action).Timed :=
  timed_atomic.bind fun _ => timed_yield.bind fun _ => timed_pure

lemma timed_ask (question : FileSystem → Except IoError α) : (Storage.ask files question).Timed :=
  timed_read.bind fun _ => timed_yield.bind fun _ => timed_pure

lemma timed_appendTo (path : Path) (content : Bytes) :
    (Storage.appendTo files path content).Timed := by
  refine (timed_perform (FileSystem.openForAppending path)).bind fun r => ?_
  cases r with
  | error e => exact timed_pure
  | ok place => exact timed_update.bind fun _ => timed_yield.bind fun _ => timed_pure

lemma timed_step (f : Simulated → α × Simulated) : (step state f).Timed := timed_atomic

lemma timed_stored {t : Task W (Except IoError α)} (ht : t.Timed) : (stored t).run.Timed := by
  refine timed_run_bind (timed_run_lift ht) fun r => ?_
  cases r with
  | error e => exact timed_run_throw
  | ok a => exact timed_run_pure

/-- **The simulated engine on files** is a timed host. -/
theorem timed_host : (host state files).Timed where
  init directory := by
    have write (path : Path) (content : Bytes) :
        (stored ((Storage.ofFiles files).writeFile path content)).run.Timed :=
      timed_stored (timed_perform (FileSystem.writeFile path content))
    have create : (stored ((Storage.ofFiles files).createDirectories directory)).run.Timed :=
      timed_stored (timed_perform (FileSystem.createDirectories directory))
    show (populate _ directory).run.Timed
    unfold populate
    refine timed_run_bind (timed_stored (timed_ask (·.pathExists _))) fun found => ?_
    refine timed_run_guard (timed_run_bind create fun _ => ?_)
    exact timed_run_bind (write _ _) fun _ => write _ _
  start launch := by
    show (startServer _ _ launch).run.Timed
    unfold startServer
    refine timed_run_bind (timed_stored (timed_ask (·.pathExists _))) fun found => ?_
    refine timed_run_guard (timed_run_bind (timed_run_lift timed_atomic) fun outcome => ?_)
    cases outcome with
    | started => exact timed_run_pure
    | failed e => exact timed_run_throw
    | stalled => exact timed_run_bind (timed_run_lift timed_sleep) fun _ => timed_run_throw
  stop process := timed_step (shutDown process.port)
  execute port database statement := timed_step (runStatement port database statement)
  portAvailable _ := timed_read
  pathExists path := timed_ask (·.pathExists path)
  namesIn path := timed_ask (·.namesIn path)
  createDirectories path := timed_perform (FileSystem.createDirectories path)
  append path content := timed_appendTo path content
  removeTree path := timed_perform (FileSystem.removeTree path)

end Simulated

end ShardCluster
