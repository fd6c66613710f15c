import Mathlib.Algebra.Group.Prod
import Mathlib.Algebra.Order.Group.Multiset
import ShardCluster.Proofs.Guarantees

/-!
# Accounts

What is out there because of the nodes of a cluster is their estate: the servers that have been
started and not stopped, and the directories that have been taken over and not removed. A host
accounts for it (`Host.Accounts`) if a server comes to the estate only where a start succeeds and
leaves it only where a stop does, and so on; in particular a call that is given up adds no server.

* `Host.logged` is any host with a log beside its world, from which the estate can be read;
* `accounts_logged`: it accounts for the estate of its log;
* `accounts_nothing`: any host accounts for nothing at all.
-/

namespace ShardCluster

open ShardCluster.Task (Ensures Beside Leads)

/-- Servers, and directories that have been taken over. Each directory goes by that of its logs,
which is made first. -/
abbrev Estate (P : Type) : Type := Multiset P × Multiset Path

namespace Estate

variable {P : Type}

def server (p : P) : Estate P := ({p}, 0)

def directory (logs : Path) : Estate P := (0, {logs})

lemma eq_zero_of_add {e f : Estate P} (h : e + f = 0) : e = 0 := by
  have servers : e.1 + f.1 = 0 := congrArg Prod.fst h
  have directories : e.2 + f.2 = 0 := congrArg Prod.snd h
  exact Prod.ext (Multiset.le_zero.1 (servers ▸ Multiset.le_add_right _ _))
    (Multiset.le_zero.1 (directories ▸ Multiset.le_add_right _ _))

end Estate

/-- The directory of the logs in a data directory. -/
def logsIn (dataDirectory : Path) : Path := dataDirectory.child "logs"

/-- Whether there is nothing left once a removal has come back. -/
def isGone : Except IoError Unit → Bool
  | .ok _ | .error .notFound => true
  | .error _ => false

lemma isGone_of_ne {e : IoError} (h : e ≠ .notFound) : isGone (.error e) = false := by
  cases e <;> first | rfl | exact absurd rfl h

lemma logsIn_dataDirectory (i : Identity) : logsIn i.dataDirectory = i.logDirectory := rfl

/-! ### Hosts that account for an estate -/

section Accounts

variable {P W α : Type}

/-- The task changes nothing in the estate. -/
def Neutral (env : W → W → Prop) (held : Estate P → W → Prop) (t : Task W α) : Prop :=
  ∀ e w, held e w → Ensures env (held e) (fun _ => held e) t w

/-- **A host that accounts for an estate**: `held e` says of the world that the estate is `e`, and
every call tells what becomes of it. -/
structure Host.Accounts (env : W → W → Prop) (held : Estate P → W → Prop) (host : Host P W) :
    Prop where
  start : ∀ launch e w, held e w → Ensures env (held e)
    (fun r => match r with
      | .ok p => held (Estate.server p + e)
      | .error _ => held e) (host.engine.start launch) w
  stop : ∀ p e w, held (Estate.server p + e) w → Ensures env (held (Estate.server p + e))
    (fun r => match r with
      | .ok _ => held e
      | .error _ => held (Estate.server p + e)) (host.engine.stop p) w
  createDirectories : ∀ logs e w, held e w → Ensures env (held (Estate.directory logs + e))
    (fun _ => held (Estate.directory logs + e)) (host.storage.createDirectories logs) w
  removeTree : ∀ d e w, held (Estate.directory (logsIn d) + e) w →
    Ensures env (held (Estate.directory (logsIn d) + e))
    (fun r w => if isGone r then held e w else held (Estate.directory (logsIn d) + e) w)
    (host.storage.removeTree d) w
  init : ∀ d, Neutral env held (host.engine.init d)
  execute : ∀ port database statement,
    Neutral env held (host.engine.execute port database statement)
  portAvailable : ∀ port, Neutral env held (host.engine.portAvailable port)
  pathExists : ∀ path, Neutral env held (host.storage.pathExists path)
  namesIn : ∀ path, Neutral env held (host.storage.namesIn path)
  append : ∀ path content, Neutral env held (host.storage.append path content)
  /-- Nobody else changes the estate. -/
  kept : ∀ e w w', held e w → env w w' → held e w'

theorem accounts_nothing (env : W → W → Prop) (host : Host P W) :
    host.Accounts env fun _ _ => True := by
  have neutral {α : Type} (t : Task W α) : Neutral env (fun (_ : Estate P) _ => True) t :=
    fun _ _ _ => Task.ensures_of_forall (fun _ => trivial) fun _ _ => trivial
  refine
    { start := ?_, stop := ?_, createDirectories := ?_, removeTree := ?_,
      init := fun _ => neutral _, execute := fun _ _ _ => neutral _,
      portAvailable := fun _ => neutral _, pathExists := fun _ => neutral _,
      namesIn := fun _ => neutral _, append := fun _ _ => neutral _,
      kept := fun _ _ _ _ _ => trivial }
  all_goals
    intros
    refine Task.ensures_of_forall (fun _ => trivial) fun r _ => ?_
    first | trivial | (split <;> trivial)

end Accounts

/-! ### The log -/

/-- an entry of the log -/
inductive LogEntry (P : Type) where
  /-- The directory for logs in a data directory is going to be made. -/
  | claimed (logs : Path)
  /-- There is nothing left at a data directory. -/
  | cleared (dataDirectory : Path)
  | started (process : P)
  | stopped (process : P)

/-- what a host has been asked for and has done, the latest entry first -/
abbrev Log (P : Type) : Type := List (LogEntry P)

/-- The servers that have been started and not stopped, and the directories that have been taken
over and not removed. -/
def Log.estate {P : Type} [DecidableEq P] : Log P → Estate P
  | [] => 0
  | .claimed logs :: earlier => Estate.directory logs + estate earlier
  | .cleared d :: earlier => ((estate earlier).1, (estate earlier).2.erase (logsIn d))
  | .started p :: earlier => Estate.server p + estate earlier
  | .stopped p :: earlier => ((estate earlier).1.erase p, (estate earlier).2)

namespace Log

variable {P : Type} [DecidableEq P] {l : Log P} {e : Estate P}

lemma estate_stopped {p : P} (h : l.estate = Estate.server p + e) :
    Log.estate (.stopped p :: l) = e := by
  show ((Log.estate l).1.erase p, (Log.estate l).2) = e
  simp [h, Estate.server]

lemma estate_cleared {d : Path} (h : l.estate = Estate.directory (logsIn d) + e) :
    Log.estate (.cleared d :: l) = e := by
  show ((Log.estate l).1, (Log.estate l).2.erase (logsIn d)) = e
  simp [h, Estate.directory]

end Log

section Logged

variable {P W α : Type}

/-- a task and the entries that its result gives rise to -/
def noting (entries : α → Log P) (t : Task W α) : Task (Log P × W) α := do
  let a ← t.through (Part.second (Log P) W)
  Task.update fun (l, w) => (entries a ++ l, w)
  return a

/-- a host with a log beside its world -/
def Host.logged (host : Host P W) : Host P (Log P × W) where
  engine :=
    { init := fun d => noting (fun _ => []) (host.engine.init d)
      start := fun launch => noting
        (fun r => match r with
          | .ok p => [.started p]
          | .error _ => []) (host.engine.start launch)
      stop := fun p => noting
        (fun r => match r with
          | .ok _ => [.stopped p]
          | .error _ => []) (host.engine.stop p)
      execute := fun port database statement =>
        noting (fun _ => []) (host.engine.execute port database statement)
      portAvailable := fun port => noting (fun _ => []) (host.engine.portAvailable port)
      configFile := host.engine.configFile }
  storage :=
    { pathExists := fun path => noting (fun _ => []) (host.storage.pathExists path)
      namesIn := fun path => noting (fun _ => []) (host.storage.namesIn path)
      createDirectories := fun path => do
        Task.update fun (l, w) => (.claimed path :: l, w)
        noting (fun _ => []) (host.storage.createDirectories path)
      writeFile := fun path content => noting (fun _ => []) (host.storage.writeFile path content)
      append := fun path content => noting (fun _ => []) (host.storage.append path content)
      ensureFile := fun path => noting (fun _ => []) (host.storage.ensureFile path)
      contentOf := fun path => noting (fun _ => []) (host.storage.contentOf path)
      removeTree := fun path =>
        noting (fun r => if isGone r then [.cleared path] else []) (host.storage.removeTree path) }

variable {env : W → W → Prop} {I : Log P × W → Prop} {Q : α → Log P × W → Prop} {l : Log P} {w : W}

theorem leads_noting {entries : α → Log P} {t : Task W α} {r : Option α} {s' : Log P × W} :
    Leads (Beside env) (noting entries t) (l, w) r s' ↔
      ∃ w', s' = (r.elim l (entries · ++ l), w') ∧ Leads env t w r w' := by
  show Leads (Beside env) (Task.bind _ _) (l, w) r s' ↔ _
  rw [Task.leads_bind]
  constructor
  · rintro (⟨rfl, h⟩ | ⟨a, s₁, h, h'⟩)
    · exact Task.leads_through.1 h
    · obtain ⟨w', rfl, ht⟩ := Task.leads_through.1 h
      have noted : Leads (Beside env) (Task.done a) (entries a ++ l, w') r s' := Task.leads_act.1 h'
      obtain ⟨rfl, rfl⟩ := Task.leads_done.1 noted
      exact ⟨w', rfl, ht⟩
  · rintro ⟨w', rfl, h⟩
    cases r with
    | none => exact .inl ⟨rfl, Task.leads_through.2 ⟨w', rfl, h⟩⟩
    | some a =>
      exact .inr ⟨a, (l, w'), Task.leads_through.2 ⟨w', rfl, h⟩, .act (.done a _)⟩

lemma ensures_noting {entries : α → Log P} {t : Task W α} (hI : ∀ w, I (l, w))
    (hQ : ∀ a w, Q a (entries a ++ l, w)) :
    Ensures (Beside env) I Q (noting entries t) (l, w) := by
  rintro (_ | a) s' h
  · obtain ⟨w', rfl, -⟩ := leads_noting.1 h
    exact hI w'
  · obtain ⟨w', rfl, -⟩ := leads_noting.1 h
    exact hQ a w'

variable [DecidableEq P]

/-- **A logged host accounts for the estate of its log**, whatever the host does. -/
theorem accounts_logged (env : W → W → Prop) (host : Host P W) :
    host.logged.Accounts (Beside env) fun e s => s.1.estate = e := by
  have neutral {α : Type} (t : Task W α) :
      Neutral (Beside env) (fun e (s : Log P × W) => s.1.estate = e) (noting (fun _ => []) t) := by
    rintro e ⟨l, w⟩ he
    exact ensures_noting (fun _ => he) fun _ _ => he
  refine
    { start := ?_, stop := ?_, createDirectories := ?_, removeTree := ?_,
      init := fun _ => neutral _, execute := fun _ _ _ => neutral _,
      portAvailable := fun _ => neutral _, pathExists := fun _ => neutral _,
      namesIn := fun _ => neutral _, append := fun _ _ => neutral _,
      kept := ?_ }
  · rintro launch e ⟨l, w⟩ he
    refine ensures_noting (fun _ => he) ?_
    rintro (_ | p) w
    · exact he
    · exact congrArg (Estate.server p + ·) he
  · rintro p e ⟨l, w⟩ he
    refine ensures_noting (fun _ => he) ?_
    rintro (_ | _) w
    · exact he
    · exact Log.estate_stopped he
  · rintro logs e ⟨l, w⟩ he
    refine (Task.ensures_bind.2 (Task.ensures_update.2 ?_))
    have he' : Log.estate (.claimed logs :: l) = Estate.directory logs + e :=
      congrArg (Estate.directory logs + ·) he
    exact ensures_noting (fun _ => he') fun _ _ => he'
  · rintro d e ⟨l, w⟩ he
    refine ensures_noting (fun _ => he) ?_
    intro r w
    by_cases hr : isGone r
    · simp only [hr, if_true]
      exact Log.estate_cleared he
    · simp only [hr]
      exact he
  · rintro e ⟨l, w⟩ ⟨l', w'⟩ he ⟨rfl, -⟩
    exact he

end Logged

end ShardCluster
