import ShardCluster.Proofs.History
import ShardCluster.Proofs.Takeover

/-!
# What is spared

A node asks for files only below its data directory, but each of its calls finds its own way there.
As long as all of them end up at the same place, what was there before the node was created is
spared: this is shown for every history of a node (`Node.history_left`) and for a call that adds a
worker to a cluster, with the clean-ups that are part of it (`Cluster.addWorker_files`).
`foreign_data_spared` puts the two together for the simulated engine. A path that goes up again
after a name at which nothing is leads to another place once something has been created there, and
then whatever is at that place goes with the node (`notes_lost_above`).
-/

namespace ShardCluster

open ShardCluster.Task (Ensures Assures Beside Leads)

/-! ### Histories of a node -/

/-- a call that can be made of a node -/
inductive NodeCall where
  | init
  | appendConfig (text : String)
  | start
  | runSql (database statement : String)
  | stop
  | cleanup
  deriving DecidableEq

/-- what became of a call of a node -/
inductive NodeEvent where
  | ended (call : NodeCall)
  | givenUp (call : NodeCall)
  deriving DecidableEq

section Histories

variable {P W : Type}

/-- The task of a call of a node, whatever it returns. -/
def NodeCall.task (host : Host P W) : NodeCall → Task (Node P × W) Unit
  | .init => discard (Node.init host).run
  | .appendConfig text => discard (Node.appendConfig host text).run
  | .start => discard (Node.start host).run
  | .runSql database statement => discard (ExceptT.run do
      let n ← Node.current
      Node.outside (n.runSql host database statement).run)
  | .stop => discard (Node.stop host).run
  | .cleanup => discard (Node.cleanup host).run

/-- **A history of a node**, with the latest event first. -/
inductive NodeHistory (env : W → W → Prop) (host : Host P W) (s : Node P × W) :
    List NodeEvent → Node P × W → Prop
  | start : NodeHistory env host s [] s
  | ended {events : List NodeEvent} {s₁ s₂ : Node P × W} (call : NodeCall) :
      NodeHistory env host s events s₁ → Leads (Beside env) (call.task host) s₁ (some ()) s₂ →
      NodeHistory env host s (.ended call :: events) s₂
  | givenUp {events : List NodeEvent} {s₁ s₂ : Node P × W} (call : NodeCall) :
      NodeHistory env host s events s₁ → Leads (Beside env) (call.task host) s₁ none s₂ →
      NodeHistory env host s (.givenUp call :: events) s₂
  | meanwhile {events : List NodeEvent} {n : Node P} {w w' : W} :
      NodeHistory env host s events (n, w) → env w w' → NodeHistory env host s events (n, w')

variable {env : W → W → Prop} {files : W → FileSystem} {host : Host P W} {fs₀ : FileSystem}
  {i : Identity} {n : Node P} {w : W}

namespace Node

/-- A guest, or a node that is gone. -/
abbrev Left (files : W → FileSystem) (fs₀ : FileSystem) (i : Identity) (p : Node P × W) : Prop :=
  Guest fs₀ i p.1 (files p.2) ∨ Gone fs₀ i p.1 (files p.2)

lemma Left.spares {p : Node P × W} (h : Left files fs₀ i p) :
    fs₀.Spares i.dataDirectory (files p.2) :=
  h.elim Guest.spares Gone.spares

lemma ensures_discard {I Q : Node P × W → Prop} {α : Type} {x : NodeAction P W α} {p : Node P × W}
    (h : Assures (Beside env) I (fun _ => Q) (fun _ => Q) x p) :
    Ensures (Beside env) I (fun _ => Q) (discard x.run) p :=
  Cluster.ensures_discard h fun _ _ h => h

lemma idle_of_cleanedUp {I Q : Node P × W → Prop} (call : NodeCall) (gone : n.phase = .cleanedUp)
    (hQ : Q (n, w)) : Ensures (Beside env) I (fun _ => Q) (call.task host) (n, w) := by
  cases call with
  | init =>
    refine ensures_discard ?_
    unfold init
    simpa [gone] using hQ
  | appendConfig text =>
    refine ensures_discard ?_
    unfold appendConfig
    simpa [gone] using hQ
  | start =>
    refine ensures_discard ?_
    unfold start
    simpa [gone] using hQ
  | runSql database statement =>
    refine ensures_discard ?_
    simp only [Task.assures_bind, assures_current, assures_outside]
    unfold runSql
    simpa [gone] using hQ
  | stop =>
    refine ensures_discard ?_
    unfold stop
    simpa [gone] using hQ
  | cleanup =>
    refine ensures_discard ?_
    unfold cleanup
    simpa [gone] using hQ

/-- **One call** leaves behind a guest or a node that is gone, and spares what was there even where
it is given up; only a clean-up that is given up may leave neither. -/
theorem call_left (works : host.OnFiles env files) (direct : fs₀.Direct i.dataDirectory)
    (call : NodeCall) (h : Left files fs₀ i (n, w)) :
    Ensures (Beside env)
      (fun p => fs₀.Spares i.dataDirectory (files p.2) ∧ (call ≠ .cleanup → Left files fs₀ i p))
      (fun _ => Left files fs₀ i) (call.task host) (n, w) := by
  rcases h with guest | gone
  · have stays {α : Type} {x : NodeAction P W α} (h : Assures (Beside env) (Stays files fs₀ i)
        (fun _ => Stays files fs₀ i) (fun _ => Stays files fs₀ i) x (n, w)) :
        Ensures (Beside env) (fun p => fs₀.Spares i.dataDirectory (files p.2) ∧
          (call ≠ .cleanup → Left files fs₀ i p)) (fun _ => Left files fs₀ i)
          (discard x.run) (n, w) :=
      ensures_discard (h.mono (fun _ h => ⟨h.spares, fun _ => .inl h⟩) (fun _ _ h => .inl h)
        fun _ _ h => .inl h)
    cases call with
    | init => exact stays (init_guest works direct guest)
    | appendConfig text => exact stays (appendConfig_guest works guest)
    | start => exact stays (start_guest works guest)
    | runSql database statement =>
      refine stays ?_
      simp only [Task.assures_bind, assures_current, assures_outside]
      exact (runSql_keeps (works.execute _ _ _ _) rfl (fun _ => guest.still)
        (fun _ _ => guest.still) fun _ _ => guest.still).ensures
    | stop =>
      exact stays (stop_guest works guest)
    | cleanup =>
      exact ensures_discard ((cleanup_guest works guest).mono
        (fun _ h => ⟨h, fun ne => absurd rfl ne⟩) (fun _ _ h => .inr h) fun _ _ h => .inl h)
  · exact idle_of_cleanedUp call gone.phase (.inr gone)

/-- **After any history** of a guest it is a guest or gone, unless a clean-up was given up, and what
was there has been spared, unless something has been asked of it since. -/
lemma history_left {events : List NodeEvent} {p : Node P × W} (works : host.OnFiles env files)
    (direct : fs₀.Direct i.dataDirectory) (guest : Guest fs₀ i n (files w))
    (h : NodeHistory env host (n, w) events p) :
    (.givenUp .cleanup ∉ events → Left files fs₀ i p) ∧
      (.givenUp .cleanup ∉ events.tail → fs₀.Spares i.dataDirectory (files p.2)) := by
  induction h with
  | start => exact ⟨fun _ => .inl guest, fun _ => guest.spares⟩
  | @ended events _ _ call _ led ih =>
    have left (whole : .givenUp .cleanup ∉ events) :=
      call_left works direct call (ih.1 whole) _ _ led
    exact ⟨fun whole => left fun h => whole (List.mem_cons_of_mem _ h), fun whole =>
      (left whole).spares⟩
  | @givenUp events _ _ call _ led ih =>
    have left (whole : .givenUp .cleanup ∉ events) :=
      call_left works direct call (ih.1 whole) _ _ led
    refine ⟨fun whole => (left fun h => whole (List.mem_cons_of_mem _ h)).2 ?_, fun whole =>
      (left whole).1⟩
    rintro rfl
    exact whole (List.mem_cons_self ..)
  | meanwhile _ he ih =>
    simp only [Left, works.others _ _ he] at ih ⊢
    exact ih

end Node

lemma NodeHistory.run {s s₁ : Node P × W} {events : List NodeEvent} (quiet : Task.Quiet env)
    (call : NodeCall) (h : NodeHistory env host s events s₁)
    (ends : ((call.task host).run [] s₁).1 = some ()) :
    NodeHistory env host s (.ended call :: events) ((call.task host).run [] s₁).2 :=
  h.ended call (Task.leads_of_quiet_run quiet.beside ends)

/-! ### Workers of a cluster -/

namespace Cluster

variable {c : Cluster P} {path : Path} {fs fs₁ : FileSystem} {name settings : String}
  {port : UInt16}

/-- What is left of the files once a worker that an earlier call left behind has been cleaned up. -/
def Relieved (c : Cluster P) (fs fs₁ : FileSystem) : Prop :=
  match c.onboarding with
  | some old => old.Removal fs fs₁
  | none => fs₁ = fs

/-- **What adding a worker may do to the files**: a worker that an earlier call left behind is
cleaned up, and all there is then is spared, provided that the path for the new worker is direct. -/
def Admitted (c : Cluster P) (path : Path) (fs fs' : FileSystem) : Prop :=
  ∃ fs₁, c.Relieved fs fs₁ ∧ (fs₁.Direct path → fs₁.Spares path fs')

lemma Relieved.refl : c.Relieved fs fs := by
  unfold Relieved
  split
  · exact .inl rfl
  · rfl

lemma Relieved.same (h : c.Relieved fs fs₁) (vacant : c.onboarding = none) : fs₁ = fs := by
  unfold Relieved at h
  rwa [vacant] at h

lemma Relieved.admitted (h : c.Relieved fs fs₁) : c.Admitted path fs fs₁ :=
  ⟨fs₁, h, fun _ => .refl⟩

/-- The place for a new worker is cleared, whatever becomes of the files. -/
lemma releaseOnboarding_files {J : W → Prop} {E : ClusterError → Cluster P × W → Prop}
    (vacant : c.onboarding = none → J w)
    (cleared : ∀ n, c.onboarding = some n → Assures (Beside env) (fun p => J p.2)
      (fun _ p => J p.2) (fun _ p => J p.2) (Node.cleanup host) (n, w)) :
    Assures (Beside env) (fun p => J p.2) (fun _ p => J p.2 ∧ p.1.config = c.config) E
      (releaseOnboarding host) (c, w) := by
  rcases there : c.onboarding with _ | n
  · unfold releaseOnboarding
    simpa [there] using vacant there
  · exact assures_releaseOnboarding there ((cleared n there).mono (fun _ h => h)
      (fun _ _ h => ⟨h, rfl⟩) fun _ _ h => ⟨h, rfl⟩)

variable (works : host.OnFiles env files)
include works

lemma prepare_guest (direct : fs₀.Direct i.dataDirectory) (hn : Node.Guest fs₀ i n (files w)) :
    Assures (Beside env) (Node.Stays files fs₀ i) (fun _ => Node.Stays files fs₀ i)
      (fun _ => Node.Stays files fs₀ i) (prepare host settings) (n, w) := by
  unfold prepare
  simp only [Task.assures_bind]
  refine (Node.init_guest works direct hn).mono (fun _ h => h) (fun _ p hp => ?_) fun _ _ h => h
  refine (Node.appendConfig_guest works hp).mono (fun _ h => h) (fun _ p hp => ?_) fun _ _ h => h
  exact Node.start_guest works hp

lemma onboard_guest {connection : ConnectionString} (direct : fs₀.Direct i.dataDirectory)
    (hn : Node.Guest fs₀ i n (files w)) :
    Assures (Beside env) (fun p => fs₀.Spares i.dataDirectory (files p.2))
      (fun _ p => fs₀.Spares i.dataDirectory (files p.2))
      (fun _ p => ∃ n', p.1 = c.withNewcomer n' ∧ Node.Guest fs₀ i n' (files p.2))
      (onboard host connection) (c.withNewcomer n, w) := by
  unfold onboard
  simp only [Task.assures_bind, assures_current, withNewcomer_onboarding, Task.assures_ite]
  split
  · exact Task.assures_throw.2 ⟨n, rfl, hn⟩
  refine assures_onOnboarding ((prepare_guest works direct hn).mono (fun _ h => h.spares) ?_
    fun _ p hp => ⟨p.1, rfl, hp⟩)
  rintro - ⟨n', w'⟩ hn'
  have spared : ∀ w, files w = files w' → fs₀.Spares i.dataDirectory (files w) :=
    fun w same => (hn'.still same).spares
  have failed : ∀ w, files w = files w' → ∃ m, c.withNewcomer n' = c.withNewcomer m ∧
      Node.Guest fs₀ i m (files w) := fun w same => ⟨n', rfl, hn'.still same⟩
  simp only [Task.assures_bind, assures_current, withNewcomer_onboarding, assures_outside]
  refine Node.installExtension_keeps (works.execute _ _ _ _) rfl spared (fun w same => ?_)
    fun _ => failed
  split
  · simp only [Task.assures_bind, assures_outside]
    exact Node.runSql_keeps (works.execute _ _ _ _) same spared
      (fun _ w same => Task.assures_pure.2 (spared w same)) fun _ => failed
  · exact Task.assures_throw.2 (failed w same)

/-- **Adding a worker** spares what is there. -/
theorem addWorker_files (c : Cluster P) (w : W) (name : String) (port : UInt16) :
    Assures (Beside env)
      (fun p => c.Admitted (c.config.baseDirectory.child name) (files w) (files p.2))
      (fun _ p => c.Admitted (c.config.baseDirectory.child name) (files w) (files p.2))
      (fun _ p => c.Admitted (c.config.baseDirectory.child name) (files w) (files p.2))
      (addWorker host name port) (c, w) := by
  unfold addWorker
  refine Task.assures_bind.2 (assures_current.2 ?_)
  rcases c.membership.coordinator with _ | lead
  · exact Task.assures_throw.2 Relieved.refl.admitted
  dsimp only
  split
  · exact Task.assures_bind.2 (Task.assures_throw.2 Relieved.refl.admitted)
  -- first the place is cleared
  refine Task.assures_bind.2 ((releaseOnboarding_files
    (J := fun w' => c.Relieved (files w) (files w'))
    (fun _ => .refl) fun n there => ?_).mono (fun _ h => h.admitted) ?_ fun _ _ => False.elim)
  · have relieved {fs : FileSystem} (h : n.Removal (files w) fs) : c.Relieved (files w) fs := by
      unfold Relieved
      rwa [there]
    exact (Node.cleanup_removal works).mono (fun _ => relieved) (fun _ _ => relieved)
      fun _ _ => relieved
  rintro - ⟨c', w'⟩ ⟨relieved, config⟩
  simp only at relieved config
  -- then the new worker is a guest
  by_cases direct : (files w').Direct (c.config.baseDirectory.child name)
  · have spared {w'' : W} (h : (files w').Spares (c.config.baseDirectory.child name) (files w'')) :
        c.Admitted (c.config.baseDirectory.child name) (files w) (files w'') :=
      ⟨files w', relieved, fun _ => h⟩
    simp only [Task.assures_bind, assures_current, Task.assures_tryCatch, Task.assures_liftExcept]
    rcases c'.checkIdentity (.under c.config.baseDirectory name port) with _ | _
    · exact Task.assures_throw.2 relieved.admitted
    simp only [assures_change]
    refine (onboard_guest works (i := .under c.config.baseDirectory name port) direct .create).mono
      (fun _ => spared) ?_ ?_
    · rintro - ⟨c'', w''⟩ h
      rw [assures_current]
      split
      · simp only [Task.assures_bind, assures_change, Task.assures_pure]
        exact spared h
      · exact Task.assures_throw.2 (spared h)
    · rintro e ⟨_, w''⟩ ⟨n, rfl, guest⟩
      refine (releaseOnboarding_files
        (J := fun w => (files w').Spares (c.config.baseDirectory.child name) (files w))
        (fun _ => guest.spares) fun m there => ?_).mono (fun _ => spared)
        (fun _ _ h => Task.assures_throw.2 (spared h.1)) fun _ _ => False.elim
      obtain rfl := Option.some.inj there
      exact (Node.cleanup_guest works guest).mono (fun _ h => h) (fun _ _ h => h.spares)
        fun _ _ h => h.spares
  · have admitted (w'' : W) :
        c.Admitted (c.config.baseDirectory.child name) (files w) (files w'') :=
      ⟨files w', relieved, fun h => absurd h direct⟩
    refine Task.ensures_of_forall (fun p => admitted p.2) ?_
    rintro (_ | _) p
    · exact admitted p.2
    · exact admitted p.2

end Cluster

end Histories

/-! ### On the floor -/

open Scenario (Floor)

lemma FileSystem.direct_of_down {fs : FileSystem} {path : Path} (given : path.bytes ≠ [])
    (down : Path.up ∉ path.names) : fs.Direct path where
  given := given
  down _ _ _ _ parts _ h := down (parts ▸ List.mem_append_right _ (List.mem_cons_of_mem _ h))

/-- **Foreign data is spared** by the simulated engine, whatever faults are in store for it,
provided that the path of the data directory is direct. This holds after any history of a node, up
to the first clean-up that is given up. When a worker is added, it holds of what is there once the
place for the worker is cleared, wherever the call stops and however it ends; with nobody in that
place nothing happens before. -/
theorem foreign_data_spared {env : Floor → Floor → Prop}
    (others : ∀ f f', env f f' → f'.files = f.files) :
    (∀ (i : Identity) (timeout : Duration) (f f' : Floor) (n : Node Simulated.Process)
      (events : List NodeEvent), NodeHistory env Floor.host (.create i timeout, f) events (n, f') →
      .givenUp .cleanup ∉ events.tail → f.files.Direct i.dataDirectory →
      f.files.Spares i.dataDirectory f'.files) ∧
    ∀ (c c' : Cluster Simulated.Process) (f f' : Floor) (name : String) (port : UInt16)
      (r : Option (Except ClusterError Identity)),
      Leads (Beside env) (Cluster.addWorker Floor.host name port).run (c, f) r (c', f') →
      ∃ fs, c.Relieved f.files fs ∧ (fs.Direct (c.config.baseDirectory.child name) →
        fs.Spares (c.config.baseDirectory.child name) f'.files) := by
  have works := onFiles_floor others
  refine ⟨fun i timeout f f' n events h whole direct => ?_, fun c c' f f' name port r h => ?_⟩
  · exact (Node.history_left works direct .create h).2 whole
  · exact (Cluster.addWorker_files works c f name port).holds h

/-- a floor with notes in the directory of its clusters -/
def Scenario.Floor.shared : Floor :=
  let base := Cluster.ofDefaults.config.baseDirectory
  { Floor.empty with
    files := ((do
      FileSystem.createDirectories base
      FileSystem.writeFile (base.child "notes") []).run Floor.empty.files).2 }

/-- a new node of that name, on that floor -/
def Node.beside (name : String) : Node Simulated.Process × Floor :=
  (.create (.under Cluster.ofDefaults.config.baseDirectory name 5433) (.ofSeconds 60), .shared)

/-- Notes are left alone by a node that is set up beside them and cleaned up, and by a worker that
is added there and whose server does not come up. -/
theorem notes_spared : ∃ p s s' e,
    NodeHistory (fun w w' => w' = w) Floor.host (Node.beside "W1")
      [.ended .cleanup, .ended .init] p ∧
    p.1.phase = .cleanedUp ∧
    Floor.shared.files.Spares (Cluster.ofDefaults.config.baseDirectory.child "W1") p.2.files ∧
    Leads (Beside fun w w' => w' = w) (Cluster.addWorker Floor.host "W1" 5433).run s
      (some (.error e)) s' ∧
    s.1.nodes.length = 1 ∧
    s.2.files.Spares (Cluster.ofDefaults.config.baseDirectory.child "W1") s'.2.files := by
  have quiet : Task.Quiet (fun w w' : Floor => w' = w) := Task.quiet_eq
  have direct (fs : FileSystem) : fs.Direct (Cluster.ofDefaults.config.baseDirectory.child "W1") :=
    FileSystem.direct_of_down (by decide +kernel) (by decide +kernel)
  obtain ⟨nodes, workers⟩ := @foreign_data_spared (fun w w' => w' = w)
    fun _ _ same => congrArg Floor.files same
  have spared {s s' : Cluster Simulated.Process × Floor} {r : Option (Except ClusterError Identity)}
      (led : Leads (Beside fun w w' => w' = w) (Cluster.addWorker Floor.host "W1" 5433).run s r s')
      (config : s.1.config = Cluster.ofDefaults.config) (vacant : s.1.onboarding.isNone) :
      s.2.files.Spares (Cluster.ofDefaults.config.baseDirectory.child "W1") s'.2.files := by
    obtain ⟨fs, relieved, spared⟩ := workers s.1 s'.1 s.2 s'.2 "W1" 5433 r led
    obtain rfl := relieved.same (Option.isNone_iff_eq_none.1 vacant)
    rw [config] at spared
    exact spared (direct _)
  have kept {p : Node Simulated.Process × Floor}
      (h : NodeHistory (fun w w' => w' = w) Floor.host (Node.beside "W1")
        [.ended .cleanup, .ended .init] p) :
      Floor.shared.files.Spares (Cluster.ofDefaults.config.baseDirectory.child "W1") p.2.files :=
    nodes _ _ _ _ p.1 _ h (by decide) (direct _)
  have new : NodeHistory (fun w w' => w' = w) Floor.host (Node.beside "W1") [] _ := .start
  have h := (new.run quiet .init (by decide +kernel)).run quiet .cleanup (by decide +kernel)
  obtain ⟨e, failed⟩ : ∃ e, ((Cluster.addWorker Floor.host "W1" 5433).run.run []
      (((Call.bootstrap "Lord" 5432).task Floor.host).run []
        (.ofDefaults, { Floor.shared with engine := { crashing := [5433] } })).2).1 =
      some (.error e) :=
    eq_some_error (by decide +kernel)
  have led := Task.leads_of_quiet_run quiet.beside failed
  exact ⟨_, _, _, _, h, by decide +kernel, kept h, led, by decide +kernel,
    spared led (by decide +kernel) (by decide +kernel)⟩

/-- **A path that is not direct**: it goes up after a name at which nothing is. The directory above
counts as vacant before that name is created, is taken over with all there is in it, and goes with
the node. -/
theorem notes_lost_above : ∃ p,
    NodeHistory (fun w w' => w' = w) Floor.host (Node.beside "W1/..")
      [.ended .cleanup, .ended .init] p ∧
    p.1.phase = .cleanedUp ∧
    ¬ Floor.shared.files.Spares (Cluster.ofDefaults.config.baseDirectory.child "W1/..")
      p.2.files := by
  have quiet : Task.Quiet (fun w w' : Floor => w' = w) := Task.quiet_eq
  have new : NodeHistory (fun w w' => w' = w) Floor.host (Node.beside "W1/..") [] _ := .start
  refine ⟨_, (new.run quiet .init (by decide +kernel)).run quiet .cleanup (by decide +kernel),
    by decide +kernel, fun spared => ?_⟩
  let notes : Place := ["tmp", "shardlord", "notes"].map Utf8.encode
  rcases spared notes (.file []) (by rfl) with there | ⟨-, vacant⟩
  · revert there
    decide +kernel
  · exact vacant

end ShardCluster
