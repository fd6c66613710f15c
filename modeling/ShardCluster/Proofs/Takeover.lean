import ShardCluster.Proofs.FileHosts
import ShardCluster.Proofs.Tenancy

/-!
# Taking a data directory over

What the operations of a node do to the files of a host on files. A node is a guest (`Guest`) as
long as it has changed nothing, or is a tenant at its data directory. Setting it up makes it a
tenant (`init_guest`), since the directory is found vacant before it is claimed, and every other
operation leaves it what it is. A clean-up ends the tenancy or, where it fails, does not
(`cleanup_guest`). `cleanup_files` says what any node that is cleaned up may take with it.
-/

namespace ShardCluster

open ShardCluster.Task (Ensures Assures Beside)

namespace Node

variable {P W : Type}

/-- **A guest on a file system** that was `fs₀` when the node was created: before it has claimed its
data directory nothing has changed, and then it is a tenant there. -/
structure Guest (fs₀ : FileSystem) (i : Identity) (n : Node P) (fs : FileSystem) : Prop where
  identity : n.identity = i
  present : n.phase ≠ .cleanedUp
  place : n.claimed = true ∧ fs₀.Tenancy i.dataDirectory fs ∨
    n.claimed = false ∧ n.phase = .created ∧ fs = fs₀

section Specs

variable {env : W → W → Prop} {files : W → FileSystem} {host : Host P W} {fs₀ : FileSystem}
  {i : Identity} {n : Node P} {w : W}

lemma Guest.create {timeout : Duration} : Guest fs₀ i (Node.create i timeout : Node P) fs₀ where
  identity := rfl
  present := by simp [Node.create]
  place := .inr ⟨rfl, rfl, rfl⟩

lemma Guest.spares {fs : FileSystem} (h : Guest fs₀ i n fs) : fs₀.Spares i.dataDirectory fs := by
  rcases h.place with ⟨-, tenant⟩ | ⟨-, -, rfl⟩
  · exact tenant.spares
  · exact .refl

lemma Guest.tenant {fs : FileSystem} (h : Guest fs₀ i n fs) (set_up : n.phase ≠ .created) :
    n.claimed = true ∧ fs₀.Tenancy i.dataDirectory fs :=
  h.place.resolve_right fun h => set_up h.2.1

lemma Guest.still {w' : W} (hn : Guest fs₀ i n (files w)) (same : files w' = files w) :
    Guest fs₀ i n (files w') := by
  rwa [same]

/-- The condition of a guest, of a node and the world together. -/
abbrev Stays (files : W → FileSystem) (fs₀ : FileSystem) (i : Identity) (p : Node P × W) : Prop :=
  Guest fs₀ i p.1 (files p.2)

variable (works : host.OnFiles env files)
include works

lemma checkVacant_files {I : Node P × W → Prop} {Q : Unit → Node P × W → Prop}
    {E : ClusterError → Node P × W → Prop} {m : Node P} {fs : FileSystem} (h : files w = fs)
    (hI : ∀ w, files w = fs → I (n, w))
    (hQ : ∀ w, files w = fs → (fs.pathExists m.identity.dataDirectory = .ok false ∨
      fs.namesIn m.identity.dataDirectory = .ok []) → Q () (n, w))
    (hE : ∀ e w, files w = fs → E e (n, w)) :
    Assures (Beside env) I Q E (checkVacant host m) (n, w) := by
  subst h
  unfold checkVacant
  simp only [Task.assures_bind, assures_attempt]
  refine (works.pathExists _ w).mono (fun w' same => ?_) fun r w' same => ?_
  · rw [FileAction.run_asking] at same
    exact hI w' same
  rw [FileAction.run_asking] at same
  obtain ⟨asked, same⟩ := same
  rcases r with e | _ | _
  · exact hE _ w' same
  · simp only [Bool.false_eq_true, if_false, Task.assures_pure]
    exact hQ w' same (.inl asked.symm)
  · simp only [if_true, Task.assures_bind, assures_attempt]
    refine (works.namesIn _ w').mono (fun w'' same' => ?_) fun r w'' same' => ?_
    · rw [FileAction.run_asking] at same'
      exact hI w'' (same'.trans same)
    rw [FileAction.run_asking] at same'
    obtain ⟨asked', same'⟩ := same'
    rcases r with e | names
    · exact hE _ w'' (same'.trans same)
    · simp only [Task.assures_ite]
      split
      · exact Task.assures_throw.2 (hE _ w'' (same'.trans same))
      · rename_i empty
        have : names = [] := by simpa using empty
        rw [this, same] at asked'
        exact Task.assures_pure.2 (hQ w'' (same'.trans same) (.inr asked'.symm))

omit works in
lemma names_behind (path : Path) {first second : String} (one : Path.IsName first)
    (two : Path.IsName second) :
    ((path.child first).child second).names =
        path.names ++ [Utf8.encode first, Utf8.encode second] ∧
      ((path.child first).child second).isAbsolute = path.isAbsolute ∧
      Path.up ∉ [Utf8.encode first, Utf8.encode second] := by
  refine ⟨?_, ?_, ?_⟩
  · rw [two.names_child, one.names_child, List.append_assoc]
    rfl
  · rw [two.isAbsolute_child, one.isAbsolute_child]
  · simp [Ne.symm one.plain.2, Ne.symm two.plain.2]

omit works in
lemma tenancy_child {path : Path} {name : String} (one : Path.IsName name) (fs : FileSystem)
    (h : fs₀.Tenancy path fs) : FileAction.Leaves (fun _ => fs₀.Tenancy path)
      (fun _ => fs₀.Tenancy path) (FileSystem.createDirectories (path.child name)) fs :=
  h.createDirectories one.names_child one.isAbsolute_child (by simp [Ne.symm one.plain.2])

omit works in
lemma tenancy_file {path : Path} {first second : String} {content : Bytes}
    (one : Path.IsName first) (two : Path.IsName second) (fs : FileSystem)
    (h : fs₀.Tenancy path fs) : FileAction.Leaves (fun _ => fs₀.Tenancy path)
      (fun _ => fs₀.Tenancy path)
      (FileSystem.writeFile ((path.child first).child second) content) fs := by
  obtain ⟨names, absolute, down⟩ := names_behind path one two
  refine FileSystem.writeFile_spec.mono ?_ fun _ _ same => same ▸ h
  rintro - _ ⟨place, ends, rfl⟩
  exact h.insertFile names absolute down (List.cons_ne_nil _ _) ends

variable (direct : fs₀.Direct i.dataDirectory)

include direct in
/-- **Setting up** keeps a guest a guest. -/
theorem init_guest (hn : Guest fs₀ i n (files w)) :
    Assures (Beside env) (Stays files fs₀ i) (fun _ => Stays files fs₀ i)
      (fun _ => Stays files fs₀ i) (init host) (n, w) := by
  obtain ⟨rfl, present, place⟩ := hn
  have unchanged : ∀ w', files w' = files w → Stays files fs₀ n.identity (n, w') :=
    fun w' same => Guest.still ⟨rfl, present, place⟩ same
  unfold init
  simp only [Task.assures_bind, assures_current, Task.assures_ite]
  split
  · exact Task.assures_throw.2 (unchanged w rfl)
  refine checkVacant_files works rfl unchanged (fun w₁ same vacant => ?_) fun _ => unchanged
  simp only [assures_outside]
  refine (works.portAvailable _ (files w) w₁ same).mono unchanged fun free w₂ same => ?_
  cases free
  · simpa using unchanged w₂ same
  simp only [Bool.not_true, Bool.false_eq_true, if_false, assures_change, assures_attempt]
  -- the directory is vacant when it is claimed, so that the claim makes a tenant
  have tenant : fs₀.Tenancy n.identity.dataDirectory (files w₂) := by
    rw [same]
    rcases place with ⟨-, tenant⟩ | ⟨-, -, new⟩
    · exact tenant
    · rw [new] at vacant ⊢
      exact vacant.elim (FileSystem.tenancy_of_missing direct) FileSystem.tenancy_of_empty
  have claimed (phase : Phase) (present : phase ≠ .cleanedUp) (w' : W)
      (h : fs₀.Tenancy n.identity.dataDirectory (files w')) :
      Stays files fs₀ n.identity ({ n with claimed := true, phase }, w') :=
    ⟨rfl, present, .inl ⟨rfl, h⟩⟩
  have claimed' := claimed n.phase present
  refine ((works.createDirectories _).keeps (tenancy_child (by decide +kernel)) w₂ tenant).mono
    claimed' ?_
  rintro (e | _) w₃ tenant
  · exact claimed' w₃ tenant
  refine (works.init _ _ (tenancy_child (by decide +kernel))
    (fun name content fs one => tenancy_file (by decide +kernel) one fs) w₃ tenant).mono claimed' ?_
  rintro (e | _) w₄ tenant
  · exact claimed' w₄ tenant
  · exact claimed .initialized (by simp) w₄ tenant

omit works in
lemma tenancy_appended {path : Path} {first second : String} {content : Bytes} {fs fs' : FileSystem}
    (one : Path.IsName first) (two : Path.IsName second) (h : fs₀.Tenancy path fs)
    (appended : FileSystem.Appended ((path.child first).child second) content fs fs') :
    fs₀.Tenancy path fs' := by
  rcases appended with rfl | ⟨place, opened, rfl⟩
  · exact h
  obtain ⟨names, absolute, down⟩ := names_behind path one two
  have ends : fs.EndsAt ((path.child first).child second) place := by
    have spec : FileAction.Leaves _ _ _ fs := FileSystem.openForAppending_spec
      (Path.IsName.isOpen_child (p := path.child first) two)
      (Path.IsName.names_child (p := path.child first) two) two.plain
    unfold FileAction.Leaves at spec
    rw [opened] at spec
    exact spec.2
  unfold FileSystem.appendAt
  split
  · exact h.insertFile names absolute down (List.cons_ne_nil _ _) ends
  · exact h

theorem appendConfig_guest {text : String} (hn : Guest fs₀ i n (files w)) :
    Assures (Beside env) (Stays files fs₀ i) (fun _ => Stays files fs₀ i)
      (fun _ => Stays files fs₀ i) (appendConfig host text) (n, w) := by
  unfold appendConfig
  simp only [Task.assures_bind, assures_current, Task.assures_ite]
  split
  · exact Task.assures_throw.2 hn
  rename_i populated
  obtain ⟨claimed, tenant⟩ := hn.tenant fun new => populated (.inl new)
  obtain ⟨rfl, present, -⟩ := hn
  obtain ⟨name, one, file⟩ := works.configFile n.identity.engineDirectory
  have added : ∀ w', FileSystem.Appended (host.engine.configFile n.identity.engineDirectory)
      (Utf8.encode (configBlock text)) (files w) (files w') →
      Stays files fs₀ n.identity (n, w') := by
    intro w' appended
    rw [file] at appended
    exact ⟨rfl, present, .inl ⟨claimed, tenancy_appended (by decide +kernel) one tenant appended⟩⟩
  simp only [assures_attempt]
  refine (works.append _ _ w).mono added ?_
  rintro (e | _) w' appended
  · exact added w' appended
  · exact added w' appended

theorem start_guest (hn : Guest fs₀ i n (files w)) :
    Assures (Beside env) (Stays files fs₀ i) (fun _ => Stays files fs₀ i)
      (fun _ => Stays files fs₀ i) (start host) (n, w) := by
  unfold start
  simp only [Task.assures_bind, assures_current, Task.assures_ite]
  split
  · exact Task.assures_throw.2 hn
  rename_i populated
  obtain ⟨claimed, tenant⟩ := hn.tenant (by rintro new; simp [new] at populated)
  simp only [assures_attempt, assures_change]
  refine (works.start _ _ w rfl).mono (fun _ => hn.still) ?_
  rintro (e | p) w' same
  · exact hn.still same
  · exact ⟨hn.identity, by simp, .inl ⟨claimed, same ▸ tenant⟩⟩

lemma stop_files : Assures (Beside env) (fun p => p.1 = n ∧ files p.2 = files w)
    (fun _ p => files p.2 = files w ∧ (p.1 = n ∨ n.phase = .running ∧
      p.1 = { n with process := none, phase := .stopped }))
    (fun _ p => p.1 = n ∧ files p.2 = files w) (stop host) (n, w) := by
  unfold stop
  simp only [Task.assures_bind, assures_current, Task.assures_ite]
  split
  · exact Task.assures_pure.2 ⟨rfl, .inl rfl⟩
  rename_i running
  have running : n.phase = .running := not_not.1 running
  split
  · rw [Task.assures_bind, assures_attempt]
    refine (works.stop _ _ w rfl).mono (fun _ same => ⟨rfl, same⟩) ?_
    rintro (e | _) w' same
    · exact ⟨rfl, same⟩
    · exact assures_change.2 ⟨same, .inr ⟨running, rfl⟩⟩
  · rw [assures_change]
    exact ⟨rfl, .inr ⟨running, rfl⟩⟩

/-- What a clean-up may leave of the files: all of them, unless the node has claimed its data
directory. -/
def Removal (n : Node P) (fs fs' : FileSystem) : Prop :=
  fs' = fs ∨ n.claimed = true ∧
    (fs.Emptied n.identity.dataDirectory fs' ∨ fs.Cleared n.identity.dataDirectory fs')

/-- **What a clean-up does to the files.** Where it fails, it has not got further than the contents
of the data directory. -/
theorem cleanup_files : Assures (Beside env) (fun p => n.Removal (files w) (files p.2))
    (fun _ p => p.1.phase = .cleanedUp ∧ n.Removal (files w) (files p.2))
    (fun _ p => (p.1 = n ∧ files p.2 = files w) ∨
      (p.1.identity = n.identity ∧ p.1.claimed = true ∧ n.claimed = true ∧
        p.1.phase ≠ .cleanedUp ∧ (files w).Emptied n.identity.dataDirectory (files p.2)))
    (cleanup host) (n, w) := by
  unfold cleanup
  simp only [Task.assures_bind, assures_current, Task.assures_ite]
  split
  · exact Task.assures_pure.2 ⟨‹_›, .inl rfl⟩
  rename_i present
  refine (stop_files works).mono (fun _ h => .inl h.2) ?_ fun _ _ h => .inl h
  rintro - ⟨m, w'⟩ ⟨same, stopped⟩
  simp only at same stopped
  split
  · rename_i claimed
    obtain ⟨identity, claimed', present⟩ :
        m.identity = n.identity ∧ m.claimed = true ∧ m.phase ≠ .cleanedUp := by
      rcases stopped with rfl | ⟨-, rfl⟩
      · exact ⟨rfl, claimed, present⟩
      · exact ⟨rfl, claimed, by simp⟩
    have left := FileSystem.removeTree_spec n.identity.dataDirectory (files w)
    rw [assures_outside]
    refine (works.removeTree _ w').mono (fun w'' removed => ?_) fun r w'' removed => ?_
    · rw [removed, same]
      exact .inr ⟨claimed, FileAction.leaves_const.1 (left.mono (fun _ _ h => h) fun _ _ => .inl)⟩
    obtain ⟨result, removed⟩ := removed
    unfold FileAction.Leaves at left
    rw [same] at result removed
    rw [← result, ← removed] at left
    split
    · exact assures_change.2 ⟨rfl, .inr ⟨claimed, left⟩⟩
    · exact assures_change.2 ⟨rfl, .inr ⟨claimed, .inl left⟩⟩
    · exact Task.assures_bind.2 (Task.assures_throw.2
        (.inr ⟨identity, claimed', claimed, present, left⟩))
  · rw [assures_change]
    exact ⟨rfl, .inl same⟩

lemma cleanup_removal : Assures (Beside env) (fun p => n.Removal (files w) (files p.2))
    (fun _ p => n.Removal (files w) (files p.2)) (fun _ p => n.Removal (files w) (files p.2))
    (cleanup host) (n, w) := by
  refine (cleanup_files works).mono (fun _ h => h) (fun _ _ h => h.2) ?_
  rintro - p (⟨-, same⟩ | ⟨-, -, claimed, -, emptied⟩)
  · exact .inl same
  · exact .inr ⟨claimed, .inl emptied⟩

theorem stop_guest (hn : Guest fs₀ i n (files w)) :
    Assures (Beside env) (Stays files fs₀ i) (fun _ => Stays files fs₀ i)
      (fun _ => Stays files fs₀ i) (stop host) (n, w) := by
  refine (stop_files works).mono ?_ ?_ ?_
  · rintro ⟨_, w'⟩ ⟨rfl, same⟩
    exact hn.still same
  · rintro - ⟨m, w'⟩ ⟨same, rfl | ⟨running, rfl⟩⟩
    · exact hn.still same
    · exact ⟨hn.identity, by simp, .inl ((hn.still same).tenant (by simp [running]))⟩
  · rintro - ⟨_, w'⟩ ⟨rfl, same⟩
    exact hn.still same

/-- A node that is gone has spared what was there. -/
structure Gone (fs₀ : FileSystem) (i : Identity) (n : Node P) (fs : FileSystem) : Prop where
  phase : n.phase = .cleanedUp
  spares : fs₀.Spares i.dataDirectory fs

/-- **Cleaning up** spares what was there, and where it fails, the guest stays. -/
theorem cleanup_guest (hn : Guest fs₀ i n (files w)) :
    Assures (Beside env) (fun p => fs₀.Spares i.dataDirectory (files p.2))
      (fun _ p => Gone fs₀ i p.1 (files p.2)) (fun _ => Stays files fs₀ i)
      (cleanup host) (n, w) := by
  have spared {fs : FileSystem} (removal : n.Removal (files w) fs) :
      fs₀.Spares i.dataDirectory fs := by
    obtain ⟨rfl, present, ⟨claimed, tenant⟩ | ⟨unclaimed, -, same⟩⟩ := hn
    · rcases removal with rfl | ⟨-, emptied | cleared⟩
      · exact tenant.spares
      · exact (tenant.emptied emptied).spares
      · exact tenant.cleared cleared
    · rcases removal with rfl | ⟨claimed, -⟩
      · rw [same]
        exact .refl
      · rw [unclaimed] at claimed
        cases claimed
  refine (cleanup_files works).mono (fun _ => spared) (fun _ p h => ⟨h.1, spared h.2⟩) ?_
  rintro - ⟨m, w'⟩ (⟨rfl, same⟩ | ⟨identity, claimed', claimed, present, emptied⟩)
  · exact hn.still same
  · obtain ⟨rfl, -, ⟨-, tenant⟩ | ⟨unclaimed, -⟩⟩ := hn
    · exact ⟨identity, present, .inl ⟨claimed', tenant.emptied emptied⟩⟩
    · rw [unclaimed] at claimed
      cases claimed

end Specs

end Node

end ShardCluster
