import ShardCluster.Proofs.FileChanges
import ShardCluster.Proofs.Guarantees
import ShardCluster.Scenario.Stage

/-!
# Hosts on files

A host on files keeps all there is on disk in a file system. Its storage performs file actions; its
engine creates data directories and writes files in them, and leaves the files alone otherwise
(`Host.OnFiles`). The simulated engine does so whatever faults are in store for it
(`onFiles_floor`).
-/

namespace ShardCluster

open ShardCluster.Task (Ensures)
open FileAction (Leaves)

variable {P W α β : Type} {env : W → W → Prop} {files : W → FileSystem}

lemma Task.Assures.ensures {ε : Type} {I : W → Prop} {x : ExceptT ε (Task W) α} {w : W}
    (h : Task.Assures env I (fun _ => I) (fun _ => I) x w) :
    Ensures env I (fun _ => I) x.run w := by
  refine Ensures.mono h (fun _ h => h) ?_
  rintro (_ | _) _ h
  · exact h
  · exact h

/-- A task performs an action on the files, and waits only afterwards. -/
def Performs (env : W → W → Prop) (files : W → FileSystem) (action : FileAction α)
    (t : Task W (Except IoError α)) : Prop :=
  ∀ w, Ensures env (fun w' => files w' = (action.run (files w)).2)
    (fun r w' => r = (action.run (files w)).1 ∧ files w' = (action.run (files w)).2) t w

/-- a question about files, as an action that changes nothing -/
def FileAction.asking (question : FileSystem → Except IoError α) : FileAction α := do
  question (← get)

lemma FileAction.run_asking {question : FileSystem → Except IoError α} {fs : FileSystem} :
    (asking question).run fs = (question fs, fs) := by
  show (liftM (question fs) : FileAction α).run fs = _
  cases question fs <;> rfl

/-- What adding to the end of a file leaves. -/
def FileSystem.Appended (path : Path) (content : Bytes) (fs fs' : FileSystem) : Prop :=
  fs' = fs ∨ ∃ place, ((openForAppending path).run fs).1 = .ok place ∧
    fs' = appendAt place content fs

/-- **A host on files.** -/
structure Host.OnFiles (env : W → W → Prop) (files : W → FileSystem) (host : Host P W) : Prop where
  pathExists : ∀ path, Performs env files (.asking (·.pathExists path))
    (host.storage.pathExists path)
  namesIn : ∀ path, Performs env files (.asking (·.namesIn path)) (host.storage.namesIn path)
  createDirectories : ∀ path, Performs env files (FileSystem.createDirectories path)
    (host.storage.createDirectories path)
  removeTree : ∀ path, Performs env files (FileSystem.removeTree path)
    (host.storage.removeTree path)
  append : ∀ path content w, Ensures env
    (fun w' => FileSystem.Appended path content (files w) (files w'))
    (fun _ w' => FileSystem.Appended path content (files w) (files w'))
    (host.storage.append path content) w
  /-- A data directory is created and files are written in it. -/
  init : ∀ (directory : Path) (J : FileSystem → Prop),
    (∀ fs, J fs → Leaves (fun _ => J) (fun _ => J) (FileSystem.createDirectories directory) fs) →
    (∀ name content fs, Path.IsName name → J fs → Leaves (fun _ => J) (fun _ => J)
      (FileSystem.writeFile (directory.child name) content) fs) →
    Task.Keeps env (fun w => J (files w)) (host.engine.init directory)
  start : ∀ launch fs, Task.Keeps env (files · = fs) (host.engine.start launch)
  stop : ∀ process fs, Task.Keeps env (files · = fs) (host.engine.stop process)
  execute : ∀ port database statement fs, Task.Keeps env (files · = fs)
    (host.engine.execute port database statement)
  portAvailable : ∀ port fs, Task.Keeps env (files · = fs) (host.engine.portAvailable port)
  /-- The settings are in a file of the data directory. -/
  configFile : ∀ directory, ∃ name, Path.IsName name ∧
    host.engine.configFile directory = directory.child name
  /-- Nobody else changes files. -/
  others : ∀ w w', env w w' → files w' = files w

lemma Performs.keeps {action : FileAction α} {t : Task W (Except IoError α)}
    (h : Performs env files action t) {J : FileSystem → Prop}
    (kept : ∀ fs, J fs → Leaves (fun _ => J) (fun _ => J) action fs) :
    Task.Keeps env (fun w => J (files w)) t := by
  intro w hw
  have left := FileAction.leaves_const.1 (kept _ hw)
  refine (h w).mono (fun w' same => ?_) fun r w' same => ?_
  · rwa [same]
  · rwa [same.2]

lemma leaves_asking {question : FileSystem → Except IoError α} {J : FileSystem → Prop}
    {fs : FileSystem} (h : J fs) :
    Leaves (fun _ => J) (fun _ => J) (FileAction.asking question) fs := by
  rw [FileAction.leaves_const, FileAction.run_asking]
  exact h

/-! ### Storage -/

section Storage

variable (part : Part W FileSystem) (get_put : ∀ fs w, part.get (part.put fs w) = fs)
  (others : ∀ w w', env w w' → part.get w' = part.get w)
include get_put others

lemma performs_perform (action : FileAction α) :
    Performs env part.get action (Storage.perform part action) := by
  intro w
  unfold Storage.perform
  simp only [Task.ensures_bind, Task.ensures_atomic, Task.ensures_yield, Task.ensures_pure]
  refine ⟨get_put _ _, fun w' he => ⟨rfl, ?_⟩⟩
  rw [others _ _ he]
  exact get_put _ _

omit get_put in
lemma performs_ask (question : FileSystem → Except IoError α) :
    Performs env part.get (.asking question) (Storage.ask part question) := by
  intro w
  rw [FileAction.run_asking]
  unfold Storage.ask
  simp only [Task.ensures_bind, Task.ensures_read, Task.ensures_yield, Task.ensures_pure]
  exact ⟨trivial, fun w' he => ⟨trivial, others _ _ he⟩⟩

lemma appended_appendTo (path : Path) (content : Bytes) (w : W) : Ensures env
    (fun w' => FileSystem.Appended path content (part.get w) (part.get w'))
    (fun _ w' => FileSystem.Appended path content (part.get w) (part.get w'))
    (Storage.appendTo part path content) w := by
  unfold Storage.appendTo
  simp only [Task.ensures_bind]
  refine (performs_perform part get_put others _ w).mono ?_ ?_
  · intro w' same
    rw [FileSystem.openForAppending_same] at same
    exact .inl same
  · rintro r w' ⟨result, same⟩
    rw [FileSystem.openForAppending_same] at same
    cases r with
    | error e => exact Task.ensures_pure.2 (.inl same)
    | ok place =>
      have added : FileSystem.Appended path content (part.get w)
          (FileSystem.appendAt place content (part.get w')) :=
        .inr ⟨place, result.symm, by rw [same]⟩
      simp only [Task.ensures_bind, Task.ensures_update, Task.ensures_yield, Task.ensures_pure,
        get_put]
      refine ⟨added, fun w'' he => ?_⟩
      rw [others _ _ he, get_put]
      exact added

end Storage

/-! ### The simulated engine -/

section Simulated

open Scenario (Floor)

section Keeping

variable {env : Floor → Floor → Prop} {J : FileSystem → Prop}

lemma keeps_step (f : Simulated → α × Simulated) :
    Task.Keeps env (fun f => J f.files) (Simulated.step Floor.enginePart f) :=
  fun _ h => Task.ensures_atomic.2 h

lemma assures_stored {I : Floor → Prop} {Q : α → Floor → Prop} {E : EngineError → Floor → Prop}
    {t : Task Floor (Except IoError α)} {w : Floor} :
    Task.Assures env I Q E (Simulated.stored t) w ↔
      Ensures env I (fun r w => r.casesOn (fun cause => E (.io cause) w) (fun a => Q a w)) t w := by
  unfold Simulated.stored
  simp only [Task.assures_bind, Task.assures_liftM]
  refine iff_of_eq (congrArg (Ensures env I · t w) ?_)
  funext r w
  cases r <;> simp

variable (still : ∀ f f', env f f' → J f.files → J f'.files)
include still

lemma keeps_sleep (nanos : Nat) : Task.Keeps env (fun f => J f.files) (Task.sleep nanos) := by
  intro w h
  unfold Task.sleep
  split
  · exact Task.ensures_pure.2 h
  · exact Task.ensures_pause.2 ⟨h, fun w' he _ => Task.ensures_done.2 (still w w' he h)⟩

lemma keeps_guarded (call : EngineCall) (site : String) {t : Task Floor (Except EngineError α)}
    (h : Task.Keeps env (fun f => J f.files) t) :
    Task.Keeps env (fun f => J f.files)
      (Interference.guarded Floor.interferencePart call site t) := by
  intro w hw
  unfold Interference.guarded
  simp only [Task.ensures_bind, Task.ensures_read]
  refine (keeps_sleep still _ w hw).mono (fun _ h => h) fun _ w hw => ?_
  simp only [Task.ensures_atomic]
  split
  · exact Task.ensures_pure.2 hw
  · exact h _ hw

lemma keeps_perform {action : FileAction α}
    (kept : ∀ fs, J fs → Leaves (fun _ => J) (fun _ => J) action fs) :
    Task.Keeps env (fun f => J f.files) (Storage.perform Floor.filesPart action) := by
  intro w hw
  have left : J (action.run w.files).2 := FileAction.leaves_const.1 (kept _ hw)
  unfold Storage.perform
  simp only [Task.ensures_bind, Task.ensures_atomic, Task.ensures_yield, Task.ensures_pure]
  exact ⟨left, fun w' he => still _ w' he left⟩

lemma keeps_pathExists (path : Path) :
    Task.Keeps env (fun f => J f.files) (Floor.storage.pathExists path) := by
  intro w hw
  show Ensures env (fun f => J f.files) (fun _ f => J f.files)
    (Storage.ask Floor.filesPart (·.pathExists path)) w
  unfold Storage.ask
  simp only [Task.ensures_bind, Task.ensures_read, Task.ensures_yield, Task.ensures_pure]
  exact ⟨hw, fun w' he => still w w' he hw⟩

lemma keeps_populate (directory : Path)
    (created : ∀ fs, J fs →
      Leaves (fun _ => J) (fun _ => J) (FileSystem.createDirectories directory) fs)
    (written : ∀ name content fs, Path.IsName name → J fs → Leaves (fun _ => J) (fun _ => J)
      (FileSystem.writeFile (directory.child name) content) fs) :
    Task.Keeps env (fun f => J f.files) (Simulated.populate Floor.storage directory).run := by
  intro w hw
  refine Task.Assures.ensures ?_
  have write (name : String) (content : Bytes) (one : Path.IsName name) (w : Floor)
      (hw : J w.files) := keeps_perform still (fun fs h => written name content fs one h) w hw
  unfold Simulated.populate
  simp only [Task.assures_bind, assures_stored]
  refine (keeps_pathExists still _ w hw).mono (fun _ h => h) ?_
  rintro (e | found) w hw
  · exact hw
  simp only [Task.assures_ite]
  split
  · exact Task.assures_throw.2 hw
  simp only [Task.assures_bind, assures_stored]
  refine (keeps_perform still created w hw).mono (fun _ h => h) ?_
  rintro (e | _) w hw
  · exact hw
  refine (write "PG_VERSION" _ (by decide +kernel) w hw).mono (fun _ h => h) ?_
  rintro (e | _) w hw
  · exact hw
  refine (write "postgresql.conf" _ (by decide +kernel) w hw).mono (fun _ h => h) ?_
  rintro (e | _) w hw
  · exact hw
  · exact hw

lemma keeps_startServer (launch : Launch) :
    Task.Keeps env (fun f => J f.files)
      (Simulated.startServer Floor.enginePart Floor.storage launch).run := by
  intro w hw
  refine Task.Assures.ensures ?_
  unfold Simulated.startServer
  simp only [Task.assures_bind, assures_stored]
  refine (keeps_pathExists still _ w hw).mono (fun _ h => h) ?_
  rintro (e | found) w hw
  · exact hw
  simp only [Task.assures_ite]
  split
  · exact Task.assures_throw.2 hw
  simp only [Task.assures_bind, Task.assures_liftM]
  refine (keeps_step _ w hw).mono (fun _ h => h) fun outcome w hw => ?_
  cases outcome with
  | started => exact Task.assures_pure.2 hw
  | failed e => exact Task.assures_throw.2 hw
  | stalled =>
    simp only [Task.assures_bind, Task.assures_liftM, Task.assures_throw]
    exact keeps_sleep still _ w hw

/-- Servers come and go without a change to the files, and so do statements. -/
lemma keeps_start (launch : Launch) :
    Task.Keeps env (fun f => J f.files) (Floor.host.engine.start launch) :=
  keeps_guarded still _ _ (keeps_startServer still launch)

lemma keeps_stop (process : Simulated.Process) :
    Task.Keeps env (fun f => J f.files) (Floor.host.engine.stop process) :=
  keeps_guarded still _ _ (keeps_step (Simulated.shutDown process.port))

lemma keeps_execute (port : UInt16) (database statement : String) :
    Task.Keeps env (fun f => J f.files) (Floor.host.engine.execute port database statement) := by
  refine keeps_guarded still _ _ fun w hw => ?_
  unfold Interference.answered
  simp only [Task.ensures_bind]
  have ran : Task.Keeps env (fun f => J f.files) (Simulated.step Floor.enginePart
      (Simulated.runStatement port database statement)) := keeps_step _
  refine (ran w hw).mono (fun _ h => h) ?_
  rintro (e | text) w hw
  · exact Task.ensures_pure.2 hw
  · exact Task.ensures_bind.2 (Task.ensures_read.2 (Task.ensures_pure.2 hw))

end Keeping

variable {env : Floor → Floor → Prop} (others : ∀ f f', env f f' → f'.files = f.files)
include others

lemma unchanged (fs : FileSystem) (f f' : Floor) (he : env f f') (h : f.files = fs) :
    f'.files = fs :=
  (others f f' he).trans h

/-- **The simulated engine** and its storage are a host on files. -/
theorem onFiles_floor : Floor.host.OnFiles env Floor.files where
  pathExists _ := performs_ask Floor.filesPart others _
  namesIn _ := performs_ask Floor.filesPart others _
  createDirectories _ := performs_perform Floor.filesPart (fun _ _ => rfl) others _
  removeTree _ := performs_perform Floor.filesPart (fun _ _ => rfl) others _
  append path content w := appended_appendTo Floor.filesPart (fun _ _ => rfl) others path content w
  init directory J created written := by
    have still (f f' : Floor) (he : env f f') (h : J f.files) : J f'.files := others f f' he ▸ h
    exact keeps_guarded still _ _ (keeps_populate still directory created written)
  start launch fs := keeps_start (J := (· = fs)) (unchanged others fs) launch
  stop process fs := keeps_stop (J := (· = fs)) (unchanged others fs) process
  execute port database statement fs :=
    keeps_execute (J := (· = fs)) (unchanged others fs) port database statement
  portAvailable port fs w hw := Task.ensures_read.2 hw
  configFile directory := ⟨"postgresql.conf", by decide +kernel, rfl⟩
  others := others

end Simulated

end ShardCluster
