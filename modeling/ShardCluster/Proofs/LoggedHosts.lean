import ShardCluster.Proofs.Accounts
import ShardCluster.Proofs.FileHosts

/-!
# Hosts with a log

A log beside the world of a host changes nothing of what the host does: it is still a host on files
(`Host.OnFiles.logged`), and what it accounts for, it accounts for together with the estate of the
log (`Host.Accounts.logged`).
-/

namespace ShardCluster

open ShardCluster.Task (Ensures Keeps Beside)

variable {P W α : Type} {env : W → W → Prop} {host : Host P W}

section Noting

variable {I : Log P × W → Prop} {Q : α → Log P × W → Prop} {J : W → Prop} {entries : α → Log P}
  {t : Task W α} {l : Log P} {w : W}

lemma ensures_noting_iff : Ensures (Beside env) I Q (noting entries t) (l, w) ↔
    Ensures env (fun w => I (l, w)) (fun a w => Q a (entries a ++ l, w)) t w := by
  constructor
  · rintro h (_ | a) w' led
    · exact h none (l, w') (leads_noting.2 ⟨w', rfl, led⟩)
    · exact h (some a) (entries a ++ l, w') (leads_noting.2 ⟨w', rfl, led⟩)
  · rintro h (_ | a) s' led
    · obtain ⟨w', rfl, waits⟩ := leads_noting.1 led
      exact h none w' waits
    · obtain ⟨w', rfl, ends⟩ := leads_noting.1 led
      exact h (some a) w' ends

lemma keeps_noting (h : Keeps env J t) :
    Keeps (Beside env) (fun s : Log P × W => J s.2) (noting entries t) :=
  fun s hs => ensures_noting_iff.2 (h s.2 hs)

end Noting

/-! ### Files -/

section Files

variable {files : W → FileSystem}

lemma Performs.noting {action : FileAction α} {t : Task W (Except IoError α)}
    {entries : Except IoError α → Log P} (h : Performs env files action t) :
    Performs (Beside env) (fun s : Log P × W => files s.2) action (noting entries t) :=
  fun s => ensures_noting_iff.2 (h s.2)

/-- **A host on files** stays one with a log beside it. -/
theorem Host.OnFiles.logged (works : host.OnFiles env files) :
    host.logged.OnFiles (Beside env) fun s => files s.2 where
  pathExists path := (works.pathExists path).noting
  namesIn path := (works.namesIn path).noting
  createDirectories path _ :=
    Task.ensures_bind.2 (Task.ensures_update.2 ((works.createDirectories path).noting _))
  removeTree path := (works.removeTree path).noting
  append path content s := ensures_noting_iff.2 (works.append path content s.2)
  init directory J created written := keeps_noting (works.init directory J created written)
  start launch fs := keeps_noting (works.start launch fs)
  stop process fs := keeps_noting (works.stop process fs)
  execute port database statement fs := keeps_noting (works.execute port database statement fs)
  portAvailable port fs := keeps_noting (works.portAvailable port fs)
  configFile := works.configFile
  others s s' he := works.others s.2 s'.2 he.2

end Files

/-! ### Estates -/

section Estates

variable [DecidableEq P] {l : Log P} {logs : Path}

lemma Log.claimed_of_mem_estate (h : logs ∈ l.estate.2) : .claimed logs ∈ l := by
  induction l with
  | nil => exact absurd h (Multiset.notMem_zero logs)
  | cons entry earlier ih =>
    cases entry with
    | claimed logs' =>
      have either : logs = logs' ∨ logs ∈ (Log.estate earlier).2 := by
        simpa [Log.estate, Estate.directory] using h
      rcases either with rfl | before
      · exact List.mem_cons_self
      · exact .tail _ (ih before)
    | cleared d => exact .tail _ (ih (Multiset.mem_of_mem_erase h))
    | started p => exact .tail _ (ih (by simpa [Log.estate, Estate.server] using h))
    | stopped p => exact .tail _ (ih h)

variable {held : Estate P → W → Prop}

/-- **A host that accounts for an estate** does so together with the estate of the log. -/
theorem Host.Accounts.logged (acc : host.Accounts env held) :
    host.logged.Accounts (Beside env) fun e s => s.1.estate = e ∧ held e s.2 := by
  have neutral {α : Type} {t : Task W α} (h : Neutral env held t) : Neutral (Beside env)
      (fun e (s : Log P × W) => s.1.estate = e ∧ held e s.2) (noting (fun _ => []) t) := by
    rintro e ⟨l, w⟩ ⟨he, hw⟩
    exact ensures_noting_iff.2 ((h e w hw).mono (fun _ hw => ⟨he, hw⟩) fun _ _ hw => ⟨he, hw⟩)
  refine
    { start := ?_, stop := ?_, createDirectories := ?_, removeTree := ?_,
      init := fun d => neutral (acc.init d),
      execute := fun port database statement => neutral (acc.execute port database statement),
      portAvailable := fun port => neutral (acc.portAvailable port),
      pathExists := fun path => neutral (acc.pathExists path),
      namesIn := fun path => neutral (acc.namesIn path),
      append := fun path content => neutral (acc.append path content), kept := ?_ }
  · rintro launch e ⟨l, w⟩ ⟨he, hw⟩
    refine ensures_noting_iff.2 ((acc.start launch e w hw).mono (fun _ hw => ⟨he, hw⟩) ?_)
    rintro (_ | p) w hw
    · exact ⟨he, hw⟩
    · exact ⟨congrArg (Estate.server p + ·) he, hw⟩
  · rintro p e ⟨l, w⟩ ⟨he, hw⟩
    refine ensures_noting_iff.2 ((acc.stop p e w hw).mono (fun _ hw => ⟨he, hw⟩) ?_)
    rintro (_ | _) w hw
    · exact ⟨he, hw⟩
    · exact ⟨Log.estate_stopped he, hw⟩
  · rintro logs e ⟨l, w⟩ ⟨he, hw⟩
    refine Task.ensures_bind.2 (Task.ensures_update.2 ?_)
    have he' : Log.estate (.claimed logs :: l) = Estate.directory logs + e :=
      congrArg (Estate.directory logs + ·) he
    exact ensures_noting_iff.2 ((acc.createDirectories logs e w hw).mono (fun _ hw => ⟨he', hw⟩)
      fun _ _ hw => ⟨he', hw⟩)
  · rintro d e ⟨l, w⟩ ⟨he, hw⟩
    refine ensures_noting_iff.2 ((acc.removeTree d e w hw).mono (fun _ hw => ⟨he, hw⟩) ?_)
    intro r w hw
    by_cases gone : isGone r
    · simp only [gone, if_true] at hw ⊢
      exact ⟨Log.estate_cleared he, hw⟩
    · simp only [gone] at hw ⊢
      exact ⟨he, hw⟩
  · rintro e ⟨l, w⟩ ⟨l', w'⟩ ⟨he, hw⟩ ⟨rfl, others⟩
    exact ⟨he, acc.kept e w w' hw others⟩

end Estates

end ShardCluster
