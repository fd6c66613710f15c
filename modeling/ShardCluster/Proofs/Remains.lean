import ShardCluster.Proofs.Dismissals
import ShardCluster.Proofs.Settlements
import ShardCluster.Proofs.Sparing

/-!
# What remains

A node makes files and directories while it is set up, and other nodes make and remove theirs
before it is cleaned up. `Coexistence` is any such course of events, with what the node has made and
is still there. All of it stays together where the data directory is (`Coexistence.houses`), so that
none of it remains once the node has been cleaned up (`nothing_remains`). A data directory that is a
link is removed without what it leads to (`remains_behind_link`).
-/

namespace ShardCluster

open FileAction (Leaves)
open FileSystem (Appended Confined Grows KeepsWay LeftOf MadeSince Proper Settled)
open ShardCluster.Task (Ensures Assures Beside Leads)

variable {P W : Type} {env : W → W → Prop} {files : W → FileSystem} {host : Host P W}
  {i : Identity} {n : Node P} {w : W} {made made' : Place → Prop}

/-! ### What is set up -/

namespace FileSystem

variable {fs₀ fs : FileSystem} {path : Path}

lemma settled_child {name : String} (one : Path.IsName name) (fs : FileSystem)
    (h : fs₀.Settled path fs) : Leaves (fun _ => fs₀.Settled path) (fun _ => fs₀.Settled path)
      (createDirectories (path.child name)) fs := by
  have tenancy := FileAction.leaves_const.1 (Node.tenancy_child one fs h.tenancy)
  refine FileAction.leaves_const.2 ⟨h.ok, tenancy, fun home goal aims => ?_⟩
  exact FileAction.leaves_const.1 ((h.built home goal aims).createDirectories aims one.names_child
    one.isAbsolute_child (by simp [Ne.symm one.plain.2]))

lemma settled_file {first second : String} {content : Bytes} (one : Path.IsName first)
    (two : Path.IsName second) (fs : FileSystem) (h : fs₀.Settled path fs) :
    Leaves (fun _ => fs₀.Settled path) (fun _ => fs₀.Settled path)
      (writeFile ((path.child first).child second) content) fs := by
  obtain ⟨names, absolute, down⟩ := Node.names_behind path one two
  have written : Leaves (fun _ => fs₀.Tenancy path) (fun _ => fs₀.Tenancy path)
      (writeFile ((path.child first).child second) content) fs :=
    Node.tenancy_file one two fs h.tenancy
  refine FileAction.leaves_const.2
    ⟨h.ok, FileAction.leaves_const.1 written, fun home goal aims => ?_⟩
  exact FileAction.leaves_const.1 ((h.built home goal aims).writeFile aims names absolute down
    (List.cons_ne_nil _ _))

end FileSystem

namespace Node

/-! ### What a call comes to -/

/-- **What a call may come to** that is no clean-up: the files are left alone, something is added to
one of them, or the data directory is claimed and populated. -/
inductive Outcome (files : W → FileSystem) (n : Node P) (w : W) (J : FileSystem → Prop)
    (p : Node P × W) : Prop
  | still : p.1.identity = n.identity → p.1.claimed = n.claimed →
      (p.1.phase = .cleanedUp → n.phase = .cleanedUp) → files p.2 = files w → Outcome files n w J p
  | appended {path : Path} {content : Bytes} : p.1 = n →
      Appended path content (files w) (files p.2) → Outcome files n w J p
  | populated : p.1.identity = n.identity → p.1.claimed = true → p.1.phase ≠ .cleanedUp →
      J (files p.2) → Outcome files n w J p

section Outcomes

variable {J : FileSystem → Prop}

lemma Outcome.same {w' : W} (same : files w' = files w) : Outcome files n w J (n, w') :=
  .still rfl rfl id same

variable (works : host.OnFiles env files)
include works

theorem init_outcome
    (vacant : (files w).pathExists n.identity.dataDirectory = .ok false ∨
      (files w).namesIn n.identity.dataDirectory = .ok [] → J (files w))
    (created : ∀ name fs, Path.IsName name → J fs → Leaves (fun _ => J) (fun _ => J)
      (FileSystem.createDirectories (n.identity.dataDirectory.child name)) fs)
    (written : ∀ first second content fs, Path.IsName first → Path.IsName second → J fs →
      Leaves (fun _ => J) (fun _ => J)
        (FileSystem.writeFile ((n.identity.dataDirectory.child first).child second) content) fs) :
    Assures (Beside env) (Outcome files n w J) (fun _ => Outcome files n w J)
      (fun _ => Outcome files n w J) (init host) (n, w) := by
  have data : Path.IsName "data" := by decide +kernel
  have logs : Path.IsName "logs" := by decide +kernel
  unfold init
  simp only [Task.assures_bind, assures_current, Task.assures_ite]
  split
  · exact Task.assures_throw.2 (.same rfl)
  rename_i fresh
  have fresh : n.phase = .created := not_not.1 fresh
  refine checkVacant_files works rfl (fun _ => .same) (fun w₁ same checked => ?_) fun _ _ => .same
  simp only [assures_outside]
  refine (works.portAvailable _ (files w) w₁ same).mono (fun _ => .same) fun free w₂ same => ?_
  cases free
  · simpa using Outcome.same same
  simp only [Bool.not_true, Bool.false_eq_true, if_false, assures_change, assures_attempt]
  have ready : J (files w₂) := same ▸ vacant checked
  have populated (phase : Phase) (present : phase ≠ .cleanedUp) (w' : W) (h : J (files w')) :
      Outcome files n w J ({ n with claimed := true, phase }, w') :=
    .populated rfl rfl present h
  have claimed := populated n.phase (by simp [fresh])
  refine ((works.createDirectories _).keeps (fun fs => created _ fs logs) w₂ ready).mono claimed ?_
  rintro (e | _) w₃ ready
  · exact claimed w₃ ready
  refine (works.init _ _ (fun fs => created _ fs data) (fun name content fs one =>
    written _ name content fs data one) w₃ ready).mono claimed ?_
  rintro (e | _) w₄ ready
  · exact claimed w₄ ready
  · exact populated .initialized (by simp) w₄ ready

lemma appendConfig_outcome {text : String} : Assures (Beside env) (Outcome files n w J)
    (fun _ => Outcome files n w J) (fun _ => Outcome files n w J) (appendConfig host text)
    (n, w) := by
  unfold appendConfig
  simp only [Task.assures_bind, assures_current, Task.assures_ite]
  split
  · exact Task.assures_throw.2 (.same rfl)
  simp only [assures_attempt]
  refine (works.append _ _ w).mono (fun _ appended => .appended rfl appended) ?_
  rintro (e | _) w' appended
  · exact .appended rfl appended
  · exact .appended rfl appended

lemma start_outcome : Assures (Beside env) (Outcome files n w J) (fun _ => Outcome files n w J)
    (fun _ => Outcome files n w J) (start host) (n, w) := by
  unfold start
  simp only [Task.assures_bind, assures_current, Task.assures_ite]
  split
  · exact Task.assures_throw.2 (.same rfl)
  simp only [assures_attempt, assures_change]
  refine (works.start _ _ w rfl).mono (fun _ => .same) ?_
  rintro (e | p) w' same
  · exact .same same
  · exact .still rfl rfl (by simp) same

lemma stop_outcome : Assures (Beside env) (Outcome files n w J) (fun _ => Outcome files n w J)
    (fun _ => Outcome files n w J) (stop host) (n, w) := by
  refine (stop_files works).mono ?_ ?_ ?_
  · rintro ⟨_, w'⟩ ⟨rfl, same⟩
    exact .same same
  · rintro - ⟨m, w'⟩ ⟨same, rfl | ⟨-, rfl⟩⟩
    · exact .same same
    · exact .still rfl rfl (by simp) same
  · rintro - ⟨_, w'⟩ ⟨rfl, same⟩
    exact .same same

/-- **What any call comes to** that is no clean-up. -/
theorem call_outcome (call : NodeCall) (other : call ≠ .cleanup)
    (vacant : call = .init → (files w).pathExists n.identity.dataDirectory = .ok false ∨
      (files w).namesIn n.identity.dataDirectory = .ok [] → J (files w))
    (created : ∀ name fs, Path.IsName name → J fs → Leaves (fun _ => J) (fun _ => J)
      (FileSystem.createDirectories (n.identity.dataDirectory.child name)) fs)
    (written : ∀ first second content fs, Path.IsName first → Path.IsName second → J fs →
      Leaves (fun _ => J) (fun _ => J)
        (FileSystem.writeFile ((n.identity.dataDirectory.child first).child second) content) fs) :
    Ensures (Beside env) (Outcome files n w J) (fun _ => Outcome files n w J) (call.task host)
      (n, w) := by
  cases call with
  | init => exact ensures_discard (init_outcome works (vacant rfl) created written)
  | appendConfig text => exact ensures_discard (appendConfig_outcome works)
  | start => exact ensures_discard (start_outcome works)
  | runSql database statement =>
    refine ensures_discard ?_
    simp only [Task.assures_bind, assures_current, assures_outside]
    exact (runSql_keeps (works.execute _ _ _ _) rfl (fun _ => .same) (fun _ _ => .same)
      fun _ _ => .same).ensures
  | stop => exact ensures_discard (stop_outcome works)
  | cleanup => exact absurd rfl other

/-- **Only a clean-up takes anything away.** -/
theorem call_grows (call : NodeCall) (other : call ≠ .cleanup) :
    Ensures (Beside env) (fun p => (files w).Grows (files p.2))
      (fun _ p => (files w).Grows (files p.2)) (call.task host) (n, w) := by
  have grown {p : Node P × W} (h : Outcome files n w (files w).Grows p) :
      (files w).Grows (files p.2) := by
    cases h with
    | still _ _ _ same => exact same ▸ .refl
    | appended _ appended => exact appended.grows
    | populated _ _ _ grown => exact grown
  refine (call_outcome works call other (fun _ _ => .refl) ?_ ?_).mono (fun _ => grown)
    fun _ _ => grown
  · intro name fs _ h
    exact FileAction.leaves_const.2
      (h.trans (FileAction.leaves_const.1 FileSystem.createDirectories_grows))
  · intro first second content fs _ _ h
    exact FileAction.leaves_const.2
      (h.trans (FileAction.leaves_const.1 FileSystem.writeFile_grows))

/-- **What any call does to the files** at most. -/
theorem call_alters (call : NodeCall) :
    Ensures (Beside env) (fun p => (files w).Alters (files p.2))
      (fun _ p => (files w).Alters (files p.2)) (call.task host) (n, w) := by
  by_cases other : call = .cleanup
  · rw [other]
    have altered {fs : FileSystem} (removal : n.Removal (files w) fs) : (files w).Alters fs := by
      rcases removal with rfl | ⟨-, emptied | cleared⟩
      · exact .refl
      · exact emptied.alters
      · exact cleared.alters
    exact ensures_discard ((cleanup_removal works).mono (fun _ => altered) (fun _ _ => altered)
      fun _ _ => altered)
  · exact (call_grows works call other).mono (fun _ h => h.alters) fun _ _ h => h.alters

end Outcomes

/-! ### What a node has made -/

/-- **What a node has made** is where its data directory is, and nothing before it has claimed that
or once it is gone. -/
structure Houses (files : W → FileSystem) (i : Identity) (made : Place → Prop) (p : Node P × W) :
    Prop where
  identity : p.1.identity = i
  unclaimed : p.1.claimed = false → ∀ q, ¬ made q
  gone : p.1.phase = .cleanedUp → ∀ q, ¬ made q
  confined : (files p.2).Confined i.dataDirectory made

/-- The same with what a call has made that began in the world `w`. -/
abbrev HousesSince (files : W → FileSystem) (i : Identity) (made : Place → Prop) (w : W)
    (p : Node P × W) : Prop :=
  Houses files i (MadeSince (files w) i.dataDirectory made (files p.2)) p

lemma Houses.of_nothing {p : Node P × W} (identity : p.1.identity = i)
    (nothing : ∀ q, ¬ made q) : Houses files i made p :=
  ⟨identity, fun _ => nothing, fun _ => nothing, .inl nothing⟩

lemma Houses.create {timeout : Duration} :
    Houses files i (fun _ => False) ((.create i timeout : Node P), w) :=
  .of_nothing rfl fun _ => id

lemma Houses.onward {p : Node P × W} (h : Houses files i made (n, w))
    (identity : p.1.identity = n.identity) (claimed : p.1.claimed = n.claimed)
    (present : p.1.phase = .cleanedUp → n.phase = .cleanedUp)
    (nothing_new : ∀ q, (files w).layout q = none → (files p.2).layout q = none)
    (confined : (files p.2).Confined i.dataDirectory (LeftOf made (files p.2))) :
    HousesSince files i made w p where
  identity := identity.trans h.identity
  unclaimed unclaimed q made' :=
    h.unclaimed (claimed.symm.trans unclaimed) q (made'.leftOf nothing_new).1
  gone gone q made' := h.gone (present gone) q (made'.leftOf nothing_new).1
  confined := confined.less fun _ made' => made'.leftOf nothing_new

lemma Houses.still {p : Node P × W} (h : Houses files i made (n, w))
    (identity : p.1.identity = n.identity) (claimed : p.1.claimed = n.claimed)
    (present : p.1.phase = .cleanedUp → n.phase = .cleanedUp) (same : files p.2 = files w) :
    HousesSince files i made w p := by
  refine h.onward identity claimed present (fun q missing => same ▸ missing) ?_
  rw [same]
  exact h.confined.less fun _ left => left.1

lemma Houses.removing {p : Node P × W} (h : Houses files i made (n, w))
    (identity : p.1.identity = n.identity) (claimed : p.1.claimed = n.claimed)
    (present : p.1.phase ≠ .cleanedUp)
    (removed : (files w).Emptied i.dataDirectory (files p.2) ∨
      (files w).Cleared i.dataDirectory (files p.2)) : HousesSince files i made w p :=
  h.onward identity claimed (fun gone => absurd gone present)
    (fun _ => FileSystem.nothing_new_of_removed removed) (h.confined.removed removed)

/-- Once its directory has been removed, nothing is left of what a node has made. -/
lemma Houses.removed {p : Node P × W} (h : Houses files i made (n, w))
    (identity : p.1.identity = n.identity)
    (removed : (files w).Emptied i.dataDirectory (files p.2) ∨
      (files w).Cleared i.dataDirectory (files p.2))
    (missing : (files p.2).pathExists i.dataDirectory = .ok false) :
    HousesSince files i made w p ∧ ∀ q, made q → (files p.2).layout q = none := by
  have nothing : ∀ q, made q → (files p.2).layout q = none := fun _ =>
    h.confined.vacated removed missing
  refine ⟨.of_nothing (identity.trans h.identity) fun q made' => ?_, nothing⟩
  have there : made q := (made'.leftOf fun _ => FileSystem.nothing_new_of_removed removed).1
  exact made'.1 (nothing q there)

lemma Outcome.houses {p : Node P × W} {J : FileSystem → Prop} (h : Houses files i made (n, w))
    (outcome : Outcome files n w J p)
    (settled : J (files p.2) → (files p.2).Confined i.dataDirectory
      (MadeSince (files w) i.dataDirectory made (files p.2))) : HousesSince files i made w p := by
  cases outcome with
  | still identity claimed present same => exact h.still identity claimed present same
  | appended same appended =>
    refine h.onward (by rw [same]) (by rw [same]) (fun gone => by rwa [same] at gone)
      (fun q => appended.nothing_new) ?_
    exact (h.confined.appended appended).less fun _ left => left.1
  | populated identity claimed present ready =>
    refine ⟨identity.trans h.identity, fun unclaimed => ?_, fun gone => absurd gone present,
      settled ready⟩
    rw [claimed] at unclaimed
    cases unclaimed

section Own

variable (works : host.OnFiles env files)
include works

/-- **A clean-up** keeps together what a node has made, and once it has succeeded, nothing of that
is left. -/
theorem cleanup_houses (h : Houses files i made (n, w)) :
    Assures (Beside env) (HousesSince files i made w)
      (fun _ p => HousesSince files i made w p ∧ ∀ q, made q → (files p.2).layout q = none)
      (fun _ => HousesSince files i made w) (cleanup host) (n, w) := by
  obtain rfl : n.identity = i := h.identity
  unfold cleanup
  refine Task.assures_bind.2 (assures_current.2 ?_)
  split
  · rename_i gone
    exact Task.assures_pure.2 ⟨h.still rfl rfl id rfl, fun q there => absurd there (h.gone gone q)⟩
  rename_i present
  refine Task.assures_bind.2 ((stop_files works).mono ?_ ?_ ?_)
  · rintro ⟨_, w'⟩ ⟨rfl, same⟩
    exact h.still rfl rfl id same
  swap
  · rintro - ⟨_, w'⟩ ⟨rfl, same⟩
    exact h.still rfl rfl id same
  rintro - ⟨m, w'⟩ ⟨same, stopped⟩
  obtain ⟨identity, claimed, present'⟩ :
      m.identity = n.identity ∧ m.claimed = n.claimed ∧ m.phase ≠ .cleanedUp := by
    rcases stopped with rfl | ⟨-, rfl⟩
    · exact ⟨rfl, rfl, present⟩
    · exact ⟨rfl, rfl, by simp⟩
  split
  swap
  · -- nothing had been claimed, so that nothing has been made
    rename_i unclaimed
    have nothing : ∀ q, ¬ made q := h.unclaimed (by simpa using unclaimed)
    refine assures_change.2 ⟨.of_nothing identity fun q made' => ?_,
      fun q there => absurd there (nothing q)⟩
    rw [same] at made'
    exact nothing q (made'.leftOf fun _ missing => missing).1
  have removal := FileSystem.removeTree_spec n.identity.dataDirectory (files w')
  have vacates := FileSystem.removeTree_vacates n.identity.dataDirectory (files w')
  rw [same] at removal vacates
  refine Task.assures_bind.2 (assures_outside.2
    ((works.removeTree _ w').mono (fun w'' removed => ?_) ?_))
  · rw [same] at removed
    refine h.removing identity claimed present' ?_
    rw [removed]
    exact FileAction.leaves_const.1 (removal.mono (fun _ _ h => h) fun _ _ => .inl)
  rintro r w'' ⟨result, removed⟩
  rw [same] at result removed
  unfold FileAction.Leaves at removal vacates
  rw [← result, ← removed] at removal vacates
  split
  · exact assures_change.2 (h.removed identity removal vacates)
  · exact assures_change.2 (h.removed identity (.inl removal) (vacates rfl))
  · exact Task.assures_bind.2
      (Task.assures_throw.2 (h.removing identity claimed present' (.inl removal)))

/-- **Each call of the node** keeps together what it has made. -/
theorem call_houses (call : NodeCall) (proper : call = .init → (files w).Proper i.dataDirectory)
    (h : Houses files i made (n, w)) :
    Ensures (Beside env) (HousesSince files i made w) (fun _ => HousesSince files i made w)
      (call.task host) (n, w) := by
  by_cases other : call = .cleanup
  · rw [other]
    exact ensures_discard ((cleanup_houses works h).mono (fun _ h => h) (fun _ _ h => h.1)
      fun _ _ h => h)
  obtain rfl : n.identity = i := h.identity
  have housed {p : Node P × W} (outcome : Outcome files n w (fun fs => call = .init ∧
      (files w).Settled n.identity.dataDirectory fs) p) :
      HousesSince files n.identity made w p :=
    outcome.houses h fun ⟨setUp, settled⟩ => settled.confined (proper setUp) h.confined
  refine (call_outcome works call other ?_ ?_ ?_).mono (fun _ => housed) fun _ _ => housed
  · intro setUp checked
    exact ⟨setUp, FileSystem.settled_of_checked (proper setUp) checked⟩
  · rintro name fs one ⟨setUp, settled⟩
    exact FileAction.leaves_const.2
      ⟨setUp, FileAction.leaves_const.1 (FileSystem.settled_child one fs settled)⟩
  · rintro first second content fs one two ⟨setUp, settled⟩
    exact FileAction.leaves_const.2
      ⟨setUp, FileAction.leaves_const.1 (FileSystem.settled_file one two fs settled)⟩

end Own

end Node

/-! ### Coexistence -/

/-- **A node among others**, and what it has made that is still there. Calls of the node and of
any others end or are given up, and what is not known of the others may change in between. The node
is set up only where its data directory is proper, and a clean-up of another node leaves the path
of the data directory its way. -/
inductive Coexistence (env : W → W → Prop) (files : W → FileSystem) (host : Host P W)
    (i : Identity) : (Place → Prop) → Node P × W → Prop
  | start (timeout : Duration) (w : W) :
      Coexistence env files host i (fun _ => False) (.create i timeout, w)
  | own {made : Place → Prop} {s s' : Node P × W} {r : Option Unit} (call : NodeCall) :
      Coexistence env files host i made s →
      (call = .init → (files s.2).Proper i.dataDirectory) →
      Leads (Beside env) (call.task host) s r s' →
      Coexistence env files host i (MadeSince (files s.2) i.dataDirectory made (files s'.2)) s'
  | other {made : Place → Prop} {s t : Node P × W} {m : Node P} {r : Option Unit}
      (call : NodeCall) : Coexistence env files host i made s →
      (call = .cleanup → KeepsWay i.dataDirectory (files s.2) (files t.2)) →
      Leads (Beside env) (call.task host) (m, s.2) r t →
      Coexistence env files host i (LeftOf made (files t.2)) (s.1, t.2)
  | meanwhile {made : Place → Prop} {s : Node P × W} {w : W} :
      Coexistence env files host i made s → env s.2 w → Coexistence env files host i made (s.1, w)

/-- **What a node has made stays together**, whatever it and the others do. -/
theorem Coexistence.houses {s : Node P × W} (works : host.OnFiles env files)
    (h : Coexistence env files host i made s) : Node.Houses files i made s := by
  induction h with
  | start => exact .create
  | own call _ proper led ih => exact (Node.call_houses works call proper ih).holds led
  | @other _ s t m r call _ way led ih =>
    have alters : (files s.2).Alters (files t.2) := (Node.call_alters works call).holds led
    have way : KeepsWay i.dataDirectory (files s.2) (files t.2) := by
      by_cases cleanup : call = .cleanup
      · exact way cleanup
      · have grown : (files s.2).Grows (files t.2) :=
          (Node.call_grows works call cleanup).holds led
        exact grown.keepsWay
    exact ⟨ih.identity, fun unclaimed q left => ih.unclaimed unclaimed q left.1,
      fun gone q left => ih.gone gone q left.1, ih.confined.altered alters way⟩
  | meanwhile _ he ih =>
    have same := works.others _ _ he
    exact ⟨ih.identity, ih.unclaimed, ih.gone, same ▸ ih.confined⟩

/-- Where the path of the data directory is straight, others may do what they like. -/
theorem Coexistence.beside {s t : Node P × W} {m : Node P} {r : Option Unit}
    (works : host.OnFiles env files) (h : Coexistence env files host i made s)
    (straight : (files s.2).Straight i.dataDirectory) (call : NodeCall)
    (led : Leads (Beside env) (call.task host) (m, s.2) r t) :
    Coexistence env files host i (LeftOf made (files t.2)) (s.1, t.2) :=
  h.other call (fun _ => straight.keepsWay ((Node.call_alters works call).holds led)) led

lemma Coexistence.run {s : Node P × W} (quiet : Task.Quiet env)
    (h : Coexistence env files host i made s) (call : NodeCall)
    (proper : call = .init → (files s.2).Proper i.dataDirectory)
    (ends : ((call.task host).run [] s).1 = some ()) :
    Coexistence env files host i
      (MadeSince (files s.2) i.dataDirectory made (files ((call.task host).run [] s).2.2))
      ((call.task host).run [] s).2 :=
  h.own call proper (Task.leads_of_quiet_run quiet.beside ends)

lemma Coexistence.runBeside {s : Node P × W} (works : host.OnFiles env files)
    (quiet : Task.Quiet env) (h : Coexistence env files host i made s)
    (straight : (files s.2).Straight i.dataDirectory) (m : Node P) (call : NodeCall)
    (ends : ((call.task host).run [] (m, s.2)).1 = some ()) :
    Coexistence env files host i (LeftOf made (files ((call.task host).run [] (m, s.2)).2.2))
      (s.1, ((call.task host).run [] (m, s.2)).2.2) :=
  h.beside works straight call (Task.leads_of_quiet_run quiet.beside ends)

/-! ### On the floor -/

open Scenario (Floor)

/-- **Nothing remains** of what a node of the simulated engine has made, whatever faults are in
store for it and whatever other nodes have done, once the node has been cleaned up. Only directories
above its data directory do not count. -/
theorem nothing_remains {env : Floor → Floor → Prop}
    (others : ∀ f f', env f f' → f'.files = f.files) {made : Place → Prop}
    {s s' : Node Simulated.Process × Floor} (h : Coexistence env Floor.files Floor.host i made s)
    (cleaned : Leads (Beside env) (Node.cleanup Floor.host).run s (some (.ok ())) s') :
    ∀ p, made p → s'.2.files.layout p = none := by
  have held : Node.Houses Floor.files i made s := h.houses (onFiles_floor others)
  exact (Node.cleanup_houses (onFiles_floor others) held _ _ cleaned).2

/-- A node is set up beside another one, which comes and goes before the first one is configured and
cleaned up. -/
theorem first_of_two_removed : ∃ made s s' p,
    Coexistence (fun w w' => w' = w) Floor.files Floor.host (Node.beside "W1").1.identity made s ∧
    made p ∧
    Leads (Beside fun w w' => w' = w) (Node.cleanup Floor.host).run s (some (.ok ())) s' ∧
    s'.2.files.layout p = none := by
  have quiet : Task.Quiet (fun w w' : Floor => w' = w) := Task.quiet_eq
  have still (w w' : Floor) (same : w' = w) : w'.files = w.files := congrArg Floor.files same
  have works := onFiles_floor still
  let path := (Node.beside "W1").1.identity.dataDirectory
  have no_up : Path.up ∉ path.names := by decide +kernel
  have proper : Floor.shared.files.Proper path := by
    refine ⟨FileSystem.direct_of_down (by decide +kernel) no_up, fun place target found => ?_⟩
    have missing : (Floor.shared.files.find path .kept).isOk = false := by decide +kernel
    rw [found] at missing
    cases missing
  have straight {fs : FileSystem} (unlinked : fs.layout.Unlinked (fs.origin path) path.names) :
      fs.Straight path := FileSystem.straight_of_down no_up unlinked
  let first := (NodeCall.init.task Floor.host).run [] (Node.beside "W1")
  let second := (NodeCall.init.task Floor.host).run [] ((Node.beside "W2").1, first.2.2)
  have new : Coexistence (fun w w' => w' = w) Floor.files Floor.host
    (Node.beside "W1").1.identity (fun _ => False) (Node.beside "W1") := .start _ _
  have set_up := new.run quiet .init (fun _ => proper) (by decide +kernel)
  have joined := set_up.runBeside works quiet (straight (by decide +kernel)) (Node.beside "W2").1
    .init (by decide +kernel)
  have alone := joined.runBeside works quiet (straight (by decide +kernel)) second.2.1 .cleanup
    (by decide +kernel)
  have configured := alone.run quiet (.appendConfig "fsync = off") nofun (by decide +kernel)
  have cleans {s : Node Simulated.Process × Floor} {made : Place → Prop}
      (_ : Coexistence (fun w w' => w' = w) Floor.files Floor.host (Node.beside "W1").1.identity
        made s) (ends : ((Node.cleanup Floor.host).run.run [] s).1.map Except.toBool = some true) :
      Leads (Beside fun w w' => w' = w) (Node.cleanup Floor.host).run s (some (.ok ()))
        ((Node.cleanup Floor.host).run.run [] s).2 :=
    Task.leads_of_quiet_run quiet.beside (eq_some_ok ends)
  have cleaned := cleans configured (by decide +kernel)
  let p : Place := ["tmp", "shardlord", "W1", "data", "PG_VERSION"].map Utf8.encode
  refine ⟨_, _, _, p, configured, ?made, cleaned, nothing_remains still configured cleaned p ?made⟩
  refine ⟨?_, .inl ⟨⟨⟨?_, .inr ⟨?_, fun above => ?_⟩⟩, ?_⟩, ?_⟩⟩
  · decide +kernel
  · decide +kernel
  · decide +kernel
  · exact absurd (FileSystem.above_of_down no_up (by decide +kernel) above) (by decide +kernel)
  · decide +kernel
  · decide +kernel

/-- a floor with an empty directory in the directory of its clusters, and a link to it -/
def Scenario.Floor.linked : Floor :=
  let base := Cluster.ofDefaults.config.baseDirectory
  { Floor.empty with
    files := ((do
      FileSystem.createDirectories (base.child "real")
      FileSystem.createLink (.ofString "real") (base.child "W1")).run Floor.empty.files).2 }

/-- **A data directory that is a link**: the node is set up where it leads, and when the node is
cleaned up, only the link is removed. -/
theorem remains_behind_link : ∃ p q,
    NodeHistory (fun w w' => w' = w) Floor.host ((Node.beside "W1").1, .linked)
      [.ended .cleanup, .ended .init] p ∧
    p.1.phase = .cleanedUp ∧
    Floor.linked.files.layout q = none ∧ p.2.files.layout q ≠ none := by
  have quiet : Task.Quiet (fun w w' : Floor => w' = w) := Task.quiet_eq
  have new : NodeHistory (fun w w' => w' = w) Floor.host ((Node.beside "W1").1, .linked) [] _ :=
    .start
  exact ⟨_, ["tmp", "shardlord", "real", "data", "PG_VERSION"].map Utf8.encode,
    (new.run quiet .init (by decide +kernel)).run quiet .cleanup (by decide +kernel),
    by decide +kernel, by decide +kernel, by decide +kernel⟩

end ShardCluster
