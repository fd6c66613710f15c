import ShardCluster.Proofs.LoggedHosts
import ShardCluster.Proofs.Lodgings
import ShardCluster.Proofs.Sparing

/-!
# Lodgers

What the operations of a node do to the lodging, on a host on files with a log. Setting a node up
keeps it (`prepare_lodged`): the log tells of the claim only once the place has been found vacant
(`Told`), and from there on the node is a tenant of its place. On a host that never refuses to stop
a server, cleaning a node up cannot fail, and keeps the lodging (`cleanup_lodged`).
-/

namespace ShardCluster

open ShardCluster.Task (Ensures Assures Beside Keeps)
open FileSystem (Ground Razed)

/-- A host on which servers that have been started can be stopped. -/
def Host.Obliging {P W : Type} (env : W → W → Prop) (held : Estate P → W → Prop)
    (host : Host P W) : Prop :=
  ∀ p e w, held (Estate.server p + e) w →
    Ensures env (fun _ => True) (fun r _ => r = .ok ()) (host.engine.stop p) w

/-- what is held of a log and the world beside it -/
abbrev Host.Booked {P W : Type} [DecidableEq P] (held : Estate P → W → Prop) (e : Estate P)
    (s : Log P × W) : Prop :=
  s.1.estate = e ∧ held e s.2

section Log

variable {P : Type} [DecidableEq P] {l l₁ : Log P} {logs : Path} {p : P}

lemma Log.Claims.started (h : l.Claims logs l₁) :
    l.Claims logs (.started p :: l₁) := by
  refine ⟨fun other => ?_, ?_⟩
  · rw [← h.claims other, List.mem_cons, or_iff_right (by simp)]
  · rw [← h.directories]
    simp [Log.estate, Estate.server]

/-- What is entered about servers says nothing of directories. -/
lemma Log.alike_stopped : l.Alike (.stopped p :: l) where
  claims logs := by rw [List.mem_cons, or_iff_right (by simp)]
  directories := rfl

omit [DecidableEq P] in
lemma Log.claimed_cleared {d : Path} (logs : Path) :
    .claimed logs ∈ (.cleared d :: l : Log P) ↔ .claimed logs ∈ l := by
  rw [List.mem_cons, or_iff_right (by simp)]

lemma Log.mem_cleared {d : Path} (other : logs ≠ logsIn d)
    (given_back : logs ∉ (Log.estate (.cleared d :: l)).2) : logs ∉ l.estate.2 :=
  mt (Multiset.mem_erase_of_ne other).2 given_back

lemma Log.claims_cons : l.Claims logs (.claimed logs :: l) := by
  refine ⟨fun other => ?_, ?_⟩
  · rw [List.mem_cons, LogEntry.claimed.injEq]
  · simp [Log.estate, Estate.directory]

end Log

namespace Node

variable {P W : Type} {env : W → W → Prop} {files : W → FileSystem} {host : Host P W} {l l₁ : Log P}
  {i : Identity} {n : Node P} {w : W} {settings : String}

lemma keeps_log {α : Type} {t : Task W α} :
    Keeps (Beside env) (fun s : Log P × W => s.1 = l) (noting (fun _ => []) t) := by
  rintro ⟨_, w⟩ rfl
  exact ensures_noting (fun _ => rfl) fun _ _ => rfl

/-- A check that passes has found the place vacant, and there is no entry for it. -/
lemma checkVacant_told (works : host.OnFiles env files) :
    Assures (Beside (Beside env)) (fun p => p.1 = n ∧ p.2.1 = l)
      (fun _ p => ((files w).pathExists n.identity.dataDirectory = .ok false ∨
        (files w).namesIn n.identity.dataDirectory = .ok []) ∧ p.1 = n ∧ p.2.1 = l)
      (fun _ p => p.1 = n ∧ p.2.1 = l) (checkVacant host.logged n) (n, (l, w)) := by
  have looks : Assures (Beside (Beside env)) (fun _ => True)
      (fun _ _ => (files w).pathExists n.identity.dataDirectory = .ok false ∨
        (files w).namesIn n.identity.dataDirectory = .ok []) (fun _ _ => True)
      (checkVacant host.logged n) (n, (l, w)) :=
    checkVacant_files works.logged rfl (fun _ _ => trivial) (fun _ _ checked => checked)
      fun _ _ _ => trivial
  have silent : Assures (Beside (Beside env)) (fun p => p.1 = n ∧ p.2.1 = l)
      (fun _ p => p.1 = n ∧ p.2.1 = l) (fun _ p => p.1 = n ∧ p.2.1 = l)
      (checkVacant host.logged n) (n, (l, w)) :=
    checkVacant_keeps (fun _ => keeps_log) (fun _ => keeps_log) rfl (fun _ same => ⟨rfl, same⟩)
      (fun _ same => ⟨rfl, same⟩) fun _ _ same => ⟨rfl, same⟩
  exact (looks.and silent).mono (fun _ h => h.2) (fun _ _ h => h) fun _ _ h => h.2

/-! ### What the log tells of a claim -/

section Told

variable [DecidableEq P] {fs : FileSystem}

/-- **A claim that has been entered**: the place had passed for vacant in the files `fs`. -/
structure Entered (fs : FileSystem) (i : Identity) (l : Log P) (n : Node P) (l₁ : Log P) :
    Prop where
  claimed : n.claimed = true
  checked : fs.pathExists i.dataDirectory = .ok false ∨ fs.namesIn i.dataDirectory = .ok []
  entered : l.Claims i.logDirectory l₁

/-- **What the log tells** of a node since it was `l`: nothing, or that the place is claimed. -/
def Told (fs : FileSystem) (i : Identity) (l : Log P) (n : Node P) (l₁ : Log P) : Prop :=
  n.claimed = false ∧ l₁ = l ∨ Entered fs i l n l₁

variable (works : host.OnFiles env files)
include works

lemma init_told (identity : n.identity = i) (unclaimed : n.claimed = false) :
    Assures (Beside (Beside env)) (fun p => Told (files w) i l p.1 p.2.1)
      (fun _ p => Entered (files w) i l p.1 p.2.1) (fun _ p => Told (files w) i l p.1 p.2.1)
      (init host.logged) (n, (l, w)) := by
  subst identity
  have silent (s : Log P × W) (same : s.1 = l) : Told (files w) n.identity l n s.1 :=
    .inl ⟨unclaimed, same⟩
  unfold init
  simp only [Task.assures_bind, assures_current, Task.assures_ite]
  split
  · exact Task.assures_throw.2 (silent _ rfl)
  refine (checkVacant_told works).mono ?_ ?_ ?_
  · rintro ⟨_, s⟩ ⟨rfl, same⟩
    exact silent s same
  · rintro - ⟨n, l, w₁⟩ ⟨checked, rfl, rfl⟩
    simp only [assures_outside]
    refine ensures_noting (fun _ => silent _ rfl) fun free w₂ => ?_
    cases free
    · simpa using silent (l, w₂) rfl
    simp only [Bool.not_true, Bool.false_eq_true, if_false, assures_change, assures_attempt]
    have entered (phase : Phase) : Entered (files w) n.identity l { n with claimed := true, phase }
        (.claimed n.identity.logDirectory :: l) := ⟨rfl, checked, Log.claims_cons⟩
    refine Task.ensures_bind.2 (Task.ensures_update.2
      (ensures_noting (fun _ => .inr (entered _)) fun r w₃ => ?_))
    rcases r with e | _
    · exact .inr (entered _)
    refine ensures_noting (fun _ => .inr (entered _)) fun r w₄ => ?_
    rcases r with e | _
    · exact .inr (entered _)
    · exact entered .initialized
  · rintro - ⟨_, s⟩ ⟨rfl, same⟩
    exact silent s same

/-- **Setting a node up** is told by the log once the claim is made. -/
theorem prepare_told (identity : n.identity = i) (unclaimed : n.claimed = false) :
    Assures (Beside (Beside env)) (fun p => Told (files w) i l p.1 p.2.1)
      (fun _ p => Told (files w) i l p.1 p.2.1) (fun _ p => Told (files w) i l p.1 p.2.1)
      (Cluster.prepare host.logged settings) (n, (l, w)) := by
  unfold Cluster.prepare
  simp only [Task.assures_bind]
  refine (init_told works identity unclaimed).mono (fun _ h => h) ?_ fun _ _ h => h
  rintro - ⟨n₁, l₁, w₁⟩ entered
  have unchanged (s : Log P × W) (same : s.1 = l₁) : Entered (files w) i l n₁ s.1 := by
    rwa [same]
  unfold appendConfig
  simp only [Task.assures_bind, assures_current, Task.assures_ite]
  split
  · exact Task.assures_throw.2 (.inr entered)
  refine attempt_keeps keeps_log (show (l₁, w₁).1 = l₁ from rfl)
    (fun s same => .inr (unchanged s same)) ?_ fun _ s same => .inr (unchanged s same)
  rintro - ⟨_, w₂⟩ rfl
  unfold start
  simp only [Task.assures_bind, assures_current, Task.assures_ite]
  split
  · exact Task.assures_throw.2 (.inr entered)
  simp only [assures_attempt, assures_change]
  refine ensures_noting (fun _ => .inr entered) fun r w₃ => ?_
  rcases r with e | p
  · exact .inr entered
  · exact .inr ⟨entered.claimed, entered.checked, entered.entered.started⟩

end Told

/-! ### Lodging -/

section Lodged

variable [DecidableEq P] {fs₀ : FileSystem} {base : Path} {q : Place} {known : List Identity}
  {held : Estate P → W → Prop} {rest : Estate P}

/-- The lodging, in a world with a log. -/
abbrev Lodged (files : W → FileSystem) (fs₀ : FileSystem) (q : Place) (known : List Identity)
    (s : Log P × W) : Prop :=
  Lodging fs₀ q known s.1 (files s.2)

/-- Only the files of a world matter. -/
lemma lodged_of_files {w' : W} (h : Lodging fs₀ q known l (files w)) (same : files w' = files w) :
    Lodged files fs₀ q known (l, w') := by
  show Lodging fs₀ q known l (files w')
  rwa [same]

variable (works : host.OnFiles env files) (named : ∀ i ∈ known, i.NamedIn base) (member : i ∈ known)
  (ground : fs₀.Ground base known q)
include works named member ground

/-- **Setting a new node up** keeps the lodging. -/
theorem prepare_lodged {timeout : Duration} (h : Lodging fs₀ q known l (files w)) :
    Assures (Beside (Beside env)) (fun p => Lodged files fs₀ q known p.2)
      (fun _ p => Lodged files fs₀ q known p.2) (fun _ p => Lodged files fs₀ q known p.2)
      (Cluster.prepare host.logged settings) (create i timeout, (l, w)) := by
  have direct : (files w).Direct i.dataDirectory := by
    rw [(named i member).directory]
    exact FileSystem.direct_child (h.reaches ground).1 (named i member).one
  have lodges (p : Node P × Log P × W) (guest : Guest (files w) i p.1 (files p.2.2))
      (told : Told (files w) i l p.1 p.2.1) : Lodged files fs₀ q known p.2 := by
    obtain ⟨n, l₁, w₁⟩ := p
    rcases told with ⟨unclaimed, rfl⟩ | ⟨claimed, checked, entered⟩
    · rcases guest.place with ⟨claimed, -⟩ | ⟨-, -, same⟩
      · exact absurd claimed (by simp [show n.claimed = false from unclaimed])
      · exact lodged_of_files h same
    · rcases guest.place with ⟨-, tenant⟩ | ⟨unclaimed, -⟩
      · exact h.settle named member ground checked tenant entered
      · exact absurd claimed (by simp [show n.claimed = false from unclaimed])
  have guest : Assures (Beside (Beside env)) (Stays (fun s => files s.2) (files w) i)
      (fun _ => Stays (fun s => files s.2) (files w) i)
      (fun _ => Stays (fun s => files s.2) (files w) i) (Cluster.prepare host.logged settings)
      (create i timeout, (l, w)) :=
    Cluster.prepare_guest works.logged direct .create
  exact (guest.and (prepare_told works rfl rfl)).mono (fun p h => lodges p h.1 h.2)
    (fun _ p h => lodges p h.1 h.2) fun _ p h => lodges p h.1 h.2

omit named member ground in
lemma stop_lodged (obliging : host.Obliging env held)
    (hn : n.InHand (Host.Booked held) i rest (l, w)) (h : Lodging fs₀ q known l (files w)) :
    Assures (Beside (Beside env)) (fun p => Lodged files fs₀ q known p.2)
      (fun _ p => Lodged files fs₀ q known p.2 ∧ l.Alike p.2.1) (fun _ _ => False)
      (stop host.logged) (n, (l, w)) := by
  unfold stop
  simp only [Task.assures_bind, assures_current, Task.assures_ite]
  by_cases running : n.phase = .running
  · obtain ⟨p, serving⟩ := hn.sound.server running
    obtain ⟨e, mine⟩ : ∃ e, n.estate + rest = Estate.server p + e := by
      unfold Node.estate
      rw [serving]
      exact ⟨_, add_assoc _ _ _⟩
    have stops := obliging p e w (mine ▸ hn.estate.2)
    have leaves := works.stop p (files w) w rfl
    simp only [running, ne_eq, not_true_eq_false, if_false, serving, Task.assures_bind,
      assures_attempt, assures_change]
    refine ensures_noting_iff.2 ((stops.and leaves).mono (fun w' same => ?_) ?_)
    · exact lodged_of_files h same.2
    · rintro _ w' ⟨rfl, same⟩
      exact ⟨lodged_of_files (h.relogged Log.alike_stopped) same, Log.alike_stopped⟩
  · simp only [running, ne_eq, not_false_eq_true, if_true, Task.assures_pure]
    exact ⟨h, fun _ => .rfl, rfl⟩

/-- **Cleaning a node up** keeps the lodging, and does not fail. -/
theorem cleanup_lodged (obliging : host.Obliging env held)
    (hn : n.InHand (Host.Booked held) i rest (l, w)) (h : Lodging fs₀ q known l (files w)) :
    Assures (Beside (Beside env)) (fun p => Lodged files fs₀ q known p.2)
      (fun _ p => Lodged files fs₀ q known p.2) (fun _ _ => False) (cleanup host.logged)
      (n, (l, w)) := by
  have claim (claimed : n.claimed = true) : .claimed i.logDirectory ∈ l := by
    refine Log.claimed_of_mem_estate ?_
    rw [hn.estate.1]
    simp [Node.estate, claimed, hn.present, hn.identity, Estate.directory]
  unfold cleanup
  simp only [Task.assures_bind, assures_current, Task.assures_ite, hn.present, if_false]
  refine (stop_lodged works obliging hn h).mono (fun _ h => h) ?_ fun _ _ => id
  rintro - ⟨m, l₁, w₁⟩ ⟨h₁, alike⟩
  simp only at h₁ alike
  split
  · rename_i claimed
    have claimed₁ := (alike.claims _).2 (claim claimed)
    have removes := h₁.removeTree named member ground claimed₁
    have razed : Razed (i.home q) (files w₁)
        ((FileSystem.removeTree i.dataDirectory).run (files w₁)).2 :=
      FileAction.leaves_const.1 (removes.mono (fun _ _ h => h) fun _ _ h => h.2)
    rw [hn.identity]
    simp only [assures_outside]
    refine ensures_noting_iff.2 ((works.removeTree i.dataDirectory w₁).mono (fun w₂ left => ?_) ?_)
    · rw [← left] at razed
      exact h₁.vacate named member claimed₁ razed (fun _ => .rfl) fun _ _ => id
    · rintro r w₂ ⟨result, left⟩
      have vacated : Lodging fs₀ q known (.cleared i.dataDirectory :: l₁) (files w₂) := by
        rw [← left] at razed
        exact h₁.vacate named member claimed₁ razed Log.claimed_cleared fun _ => Log.mem_cleared
      unfold FileAction.Leaves at removes
      rw [← result] at removes
      rcases r with e | ⟨⟩
      · obtain rfl : e = .notFound := removes.1
        exact assures_change.2 vacated
      · exact assures_change.2 vacated
  · exact assures_change.2 h₁

end Lodged

end Node

end ShardCluster
