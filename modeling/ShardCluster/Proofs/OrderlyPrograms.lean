import ShardCluster.Machine.Session
import ShardCluster.Proofs.Achievements

/-!
# Orderly programs

What an engine of real servers relies on where it runs programs, as laws about any world in which
they run: programs come to their end, time goes on, a child comes to life only where it is spawned,
and an end that is reported has come. `Programs.Orderly` has one law for each thing programs are
asked for; what a child has come to and what the clock shows is read off the world. The programs of
a machine are orderly, whatever else others do there (`Machine.orderly_programs`).
-/

namespace ShardCluster

open ShardCluster.Task (Ends Ensures Leads achieves_atomic achieves_bind achieves_pure
  achieves_read achieves_yield ensures_bind ensures_iff_leads ensures_pause ensures_pure
  ensures_read ensures_yield)

/-- what a child has come to -/
inductive Life where
  | unborn
  | alive
  | ended
  deriving DecidableEq

instance decidableEqExcept {ε α : Type} [DecidableEq ε] [DecidableEq α] : DecidableEq (Except ε α)
  | .ok a, .ok b => decidable_of_iff (a = b) (by simp)
  | .error e, .error f => decidable_of_iff (e = f) (by simp)
  | .ok _, .error _ => isFalse (by simp)
  | .error _, .ok _ => isFalse (by simp)

instance {C : Type} [DecidableEq C] : DecidableEq (Postgres.Process C) := fun p q =>
  decidable_of_iff (p.child = q.child ∧ p.dataDirectory = q.dataDirectory) (by
    cases p
    cases q
    simp)

section Passing

variable {C W : Type} {life : W → C → Life} {now : W → Nat} {u v w : W}

/-- **Time passes**: the clock does not go back, and a child stays what it is unless it ends. -/
structure Passes (life : W → C → Life) (now : W → Nat) (w w' : W) : Prop where
  later : now w ≤ now w'
  born : ∀ child, life w child ≠ .unborn → life w' child ≠ .unborn
  gone : ∀ child, life w child = .ended → life w' child = .ended

lemma passes_refl (w : W) : Passes life now w w := ⟨Nat.le_refl _, fun _ => id, fun _ => id⟩

lemma Passes.trans (h : Passes life now u v) (h' : Passes life now v w) : Passes life now u w where
  later := Nat.le_trans h.later h'.later
  born child born := h'.born child (h.born child born)
  gone child ended := h'.gone child (h.gone child ended)

/-- **Orderly programs**: what can be relied on where programs are run while others do what `env`
says. -/
structure Programs.Orderly (env : W → W → Prop) (life : W → C → Life) (now : W → Nat)
    (programs : Programs C W) : Prop where
  /-- A program that is run comes to its end. -/
  run : ∀ call w, (programs.run call).Achieves env (fun _ => Passes life now w) w
  /-- A child that was spawned is there. -/
  spawn : ∀ call log w, (programs.spawn call log).Achieves env
    (fun r w' => Passes life now w w' ∧ ∀ child, r = .ok child → life w' child ≠ .unborn) w
  /-- Asking how a child ended does not fail, and an end that shows has come. -/
  poll : ∀ child w, (programs.poll child).Achieves env
    (fun r w' => Passes life now w w' ∧
      ∃ status, r = .ok status ∧ (status.isSome → life w' child = .ended)) w
  /-- There is an end to waiting for a child that has ended. -/
  await : ∀ child w, life w child = .ended → (programs.await child).Ends env w
  /-- Waiting for a child does not fail, and is over only where the child has ended. -/
  awaited : ∀ child w r w', Leads env (programs.await child) w (some r) w' →
    (∃ status, r = .ok status) ∧ life w' child = .ended
  /-- A kill that succeeds ends the child. -/
  kill : ∀ child w, life w child ≠ .unborn → (programs.kill child).Achieves env
    (fun r w' => Passes life now w w' ∧ (r = .ok () → life w' child = .ended)) w
  /-- A reading of the clock lies between the time before it and the time after it. -/
  clock : ∀ w, programs.clock.Achieves env
    (fun t w' => Passes life now w w' ∧ now w ≤ t ∧ t ≤ now w') w
  /-- Sleeping takes at least as long as it was told to. -/
  sleep : ∀ nanos w, (programs.sleep nanos).Achieves env
    (fun _ w' => Passes life now w w' ∧ now w + nanos ≤ now w') w

/-- **Storage beside children**: what a server's log and directory are asked for comes to its end
and has nothing to do with children. -/
structure Storage.Orderly (env : W → W → Prop) (life : W → C → Life) (now : W → Nat)
    (storage : Storage W) : Prop where
  ensureFile : ∀ path w, (storage.ensureFile path).Achieves env (fun _ => Passes life now w) w
  contentOf : ∀ path w, (storage.contentOf path).Achieves env (fun _ => Passes life now w) w
  removeTree : ∀ path w, (storage.removeTree path).Achieves env (fun _ => Passes life now w) w

end Passing

/-! ### Machines -/

namespace Machine

/-- what a child of a machine has come to -/
def lifeOf (child : Child) : Life := if child.status.isSome then .ended else .alive

/-- what the child with that number has come to -/
def life (m : Machine) (number : Nat) : Life := (m.children[number]?).elim .unborn lifeOf

section Steps

variable {m m' : Machine}

/-- time passes on a machine -/
def Goes (m m' : Machine) : Prop := Passes life Machine.clock m m'

lemma goes_of_same (children : m'.children = m.children) (clock : m'.clock = m.clock) :
    Goes m m' := by
  have life_eq (number : Nat) : m'.life number = m.life number := by
    rw [life, life, children]
  exact ⟨Nat.le_of_eq clock.symm, fun number born => (life_eq number).symm ▸ born,
    fun number ended => (life_eq number).symm ▸ ended⟩

lemma life_endChild (number other : Nat) (status : ExitStatus) :
    (m.endChild number status).life other =
      if other = number then (m.children[number]?).elim .unborn fun _ => .ended
      else m.life other := by
  rw [life, endChild, List.getElem?_modify]
  by_cases same : number = other
  · subst same
    rw [if_pos rfl]
    cases m.children[number]? with
    | none => rfl
    | some child => simp [lifeOf]
  · rw [if_neg fun h => same h.symm, life]
    cases m.children[other]? <;> simp [same]

lemma life_endChild_self {number : Nat} (status : ExitStatus) (born : m.life number ≠ .unborn) :
    (m.endChild number status).life number = .ended := by
  rw [life_endChild, if_pos rfl]
  rw [life] at born
  cases there : m.children[number]? with
  | none => simp [there] at born
  | some child => rfl

lemma goes_endChild (number : Nat) (status : ExitStatus) : Goes m (m.endChild number status) where
  later := Nat.le_refl _
  born child born := by
    by_cases same : child = number
    · subst same
      rw [life_endChild_self status born]
      simp
    · rwa [life_endChild, if_neg same]
  gone child ended := by
    by_cases same : child = number
    · subst same
      exact life_endChild_self status (by simp [ended])
    · rwa [life_endChild, if_neg same]

lemma goes_endServer (port : Bytes) (status : ExitStatus) : Goes m (m.endServer port status) := by
  unfold endServer
  split
  · exact passes_refl m
  · exact (goes_endChild _ status).trans (goes_of_same rfl rfl)

lemma goes_stopServer (directory : Path) : Goes m (m.stopServer directory) := by
  unfold stopServer
  split
  · exact passes_refl m
  · exact goes_endServer _ _

lemma goes_act (name : String) (call : Invocation) : Goes m (act name call m).2 := by
  unfold act
  split
  · exact goes_of_same rfl rfl
  · exact passes_refl m
  · exact goes_stopServer _
  · exact passes_refl m

lemma goes_note (name : String) (call : Invocation) : Goes m (m.note name call) := by
  unfold note
  dsimp only
  split <;> exact goes_of_same rfl rfl

lemma goes_runProgram (call : Invocation) : Goes m (m.runProgram call).2 := by
  unfold runProgram
  split
  · exact passes_refl m
  · rename_i name script _
    dsimp only
    split
    · exact (goes_note name call).trans (goes_act name call)
    · exact goes_note name call

lemma goes_startChild (call : Invocation) (log : Path) : Goes m (m.startChild call log).2 := by
  unfold startChild
  split
  · exact passes_refl m
  · rename_i name script _
    have noted := @goes_note m name call
    refine noted.trans ?_
    have kept (number : Nat) (born : (m.note name call).life number ≠ .unborn) :
        ((m.note name call).children ++ [{ status := script.ending }])[number]?
          = (m.note name call).children[number]? := by
      refine List.getElem?_append_left ?_
      refine Nat.lt_of_not_le fun beyond => ?_
      rw [life, List.getElem?_eq_none beyond] at born
      exact born rfl
    refine ⟨Nat.le_refl _, fun number born => ?_, fun number ended => ?_⟩
    · rw [life] at born ⊢
      dsimp only
      rwa [kept number born]
    · have born : (m.note name call).life number ≠ .unborn := by simp [ended]
      rw [life] at ended ⊢
      dsimp only
      rwa [kept number born]

lemma born_of_startChild {call : Invocation} {log : Path} {number : Nat}
    (started : (m.startChild call log).1 = .ok number) :
    (m.startChild call log).2.life number ≠ .unborn := by
  unfold startChild at started ⊢
  split at started
  · cases started
  · rename_i name script _
    obtain rfl : (m.note name call).children.length = number := by simpa using started
    simp only [life, List.getElem?_concat_length, Option.elim_some, lifeOf]
    split <;> simp

lemma life_look (number other : Nat) : (m.look number).2.life other = m.life other := by
  unfold look
  split
  · rfl
  · simp only [life, List.getElem?_modify]
    cases m.children[other]? with
    | none => rfl
    | some child => by_cases same : number = other <;> simp [same, lifeOf]

lemma goes_look (number : Nat) : Goes m (m.look number).2 where
  later := by
    unfold look
    split
    · exact Nat.le_refl _
    · exact Nat.le_refl _
  born child born := (life_look number child).symm ▸ born
  gone child ended := (life_look number child).symm ▸ ended

lemma ended_of_look {number : Nat} (shown : (m.look number).1.isSome) :
    (m.look number).2.life number = .ended := by
  rw [life_look]
  unfold look at shown
  split at shown
  · cases shown
  · rename_i child there
    have unhidden : child.status.isSome := by
      dsimp only at shown
      split at shown
      · exact shown
      · cases shown
    rw [life, there]
    exact if_pos unhidden

lemma ended_iff {number : Nat} : m.life number = .ended ↔
    ∃ status, m.children[number]?.bind (·.status) = some status := by
  rw [life]
  cases m.children[number]? with
  | none => simp
  | some child => simp [lifeOf, Option.isSome_iff_exists]

end Steps

/-! ### Programs and storage on machines -/

section Programs

variable {W : Type} {env : W → W → Prop} {machine : Part W Machine}

lemma passes_of_goes {w w' : W} (h : Goes (machine.get w) (machine.get w')) :
    Passes (fun w => (machine.get w).life) (fun w => (machine.get w).clock) w w' :=
  ⟨h.later, h.born, h.gone⟩

variable (get_put : ∀ m w, machine.get (machine.put m w) = m)
  (others : ∀ w w', env w w' → Goes (machine.get w) (machine.get w'))
include get_put

lemma achieves_step {α : Type} {f : Machine → α × Machine} {w : W} :
    (step machine f).Achieves env
      (fun a w' => a = (f (machine.get w)).1 ∧ machine.get w' = (f (machine.get w)).2) w := by
  simp only [step, achieves_atomic, get_put, and_self]

include others

lemma achieves_call {α : Type} {f : Machine → α × Machine} {w : W} :
    (call machine f).Achieves env
      (fun a w' => a = (f (machine.get w)).1 ∧ Goes (f (machine.get w)).2 (machine.get w')) w := by
  simp only [call, achieves_bind, achieves_yield, achieves_pure]
  refine (achieves_step get_put).mono fun a w₁ h w' he => ?_
  obtain ⟨answer, after⟩ := h
  exact ⟨answer, after ▸ others w₁ w' he⟩

/-- **The programs of a machine are orderly**, as long as others raise nobody there and do not turn
back its clock. -/
theorem orderly_programs : (programs machine).Orderly env (fun w => (machine.get w).life)
    (fun w => (machine.get w).clock) where
  run invocation w := (achieves_call get_put others).mono fun _ _ h =>
    passes_of_goes ((goes_runProgram invocation).trans h.2)
  spawn invocation log w := by
    refine (achieves_step get_put (f := startChild invocation log)).mono fun r w' h => ?_
    obtain ⟨answer, after⟩ := h
    refine ⟨passes_of_goes ?_, fun child started => ?_⟩
    · exact after ▸ goes_startChild invocation log
    · exact after ▸ born_of_startChild (answer ▸ started)
  poll child w := by
    refine achieves_bind.2 ((achieves_step get_put).mono fun shown w' h => ?_)
    obtain ⟨answer, after⟩ := h
    refine ⟨passes_of_goes (after ▸ goes_look child), shown, rfl, fun seen => ?_⟩
    exact after ▸ ended_of_look (answer ▸ seen)
  await child w ended := by
    obtain ⟨status, shown⟩ := ended_iff.1 ended
    simp only [Ends, programs, awaitChild, achieves_bind, achieves_read, shown, achieves_yield,
      achieves_pure, implies_true]
  awaited child w r w' led := by
    have waits : Ensures env (fun _ => True)
        (fun r w' => (∃ status, r = .ok status) ∧ (machine.get w').life child = .ended)
        (awaitChild machine child) w := by
      simp only [awaitChild, ensures_bind, ensures_read]
      split
      · rename_i status shown
        simp only [ensures_bind, ensures_yield, ensures_pure, true_and]
        exact fun w' he => ⟨⟨status, rfl⟩, (others w w' he).gone child (ended_iff.2 ⟨_, shown⟩)⟩
      · exact ensures_pause.2 ⟨trivial, by simp⟩
    exact ensures_iff_leads.1 waits _ _ led
  kill child w born := by
    refine achieves_bind.2 ((achieves_call get_put others).mono fun _ w' h => ?_)
    obtain ⟨-, after⟩ := h
    exact ⟨passes_of_goes ((goes_endChild child _).trans after), fun _ =>
      after.gone child (life_endChild_self _ born)⟩
  clock w := ⟨passes_refl w, Nat.le_refl _, Nat.le_refl _⟩
  sleep nanos w := by
    have slept : (Task.sleep nanos : Task W Unit).Achieves env
        (fun _ w₁ => Goes (machine.get w) (machine.get w₁)) w := by
      unfold Task.sleep
      split
      · exact passes_refl _
      · exact fun w₁ he => ⟨.inl rfl, others w w₁ he⟩
    refine achieves_bind.2 (slept.mono fun _ w₁ goes => ?_)
    refine (achieves_step get_put).mono fun _ w' h => ?_
    obtain ⟨-, after⟩ := h
    have forward : Goes (machine.get w₁) (machine.get w') :=
      ⟨by simp [after], fun child born => by rw [after]; exact born,
        fun child ended => by rw [after]; exact ended⟩
    refine ⟨passes_of_goes (goes.trans forward), ?_⟩
    have before := goes.later
    simp only [after]
    omega

/-- **Storage on a machine** has nothing to do with its children. -/
theorem orderly_storage : (storage machine).Orderly env (fun w => (machine.get w).life)
    (fun w => (machine.get w).clock) := by
  have performed {α : Type} (action : FileAction α) (w : W) :
      (Storage.perform (machine.comp filesPart) action).Achieves env
        (fun _ => Passes (fun w => (machine.get w).life) (fun w => (machine.get w).clock) w) w := by
    simp only [Storage.perform, achieves_bind, achieves_atomic, achieves_yield, achieves_pure]
    rcases action.run ((machine.comp filesPart).get w) with ⟨result, fs⟩
    intro w' he
    have goes := others _ _ he
    simp only [Part.comp, get_put] at goes
    refine passes_of_goes (Passes.trans ?_ goes)
    exact goes_of_same rfl rfl
  refine ⟨fun path w => performed (FileSystem.appendOrCreate path []) w, fun path w => ?_,
    fun path w => performed (FileSystem.removeTree path) w⟩
  simp only [storage, Storage.ofFiles, Storage.ask, achieves_bind, achieves_read, achieves_yield,
    achieves_pure]
  exact fun w' he => passes_of_goes (others w w' he)

end Programs

/-! ### A bench -/

/-- A bench with the programs of an installation, two of which go by scripts of their own. -/
def Bench.of (postgres pgCtl : Script) : Bench where
  machine := booted [] [("initdb", some {}), ("postgres", some postgres), ("pg_isready", some {}),
    ("pg_ctl", some pgCtl)]

/-- works with the programs of the bench -/
def benchConfig : Postgres.Config := { binDirectory := some binDirectory }

/-- a server that may take a quarter of a second to start -/
def benchLaunch : Launch where
  dataDirectory := .ofString "d"
  port := 5433
  logFile := .ofString "server.log"
  timeout := .ofMillis 250

/-- how the server is started -/
def benchStart : Task Bench (Except EngineError (Postgres.Process Nat)) :=
  Postgres.start benchConfig (programs Bench.machinePart) (storage Bench.machinePart) benchLaunch

lemma goes_alone (b b' : Bench) (alone : b' = b) :
    Goes (Bench.machinePart.get b) (Bench.machinePart.get b') :=
  alone ▸ passes_refl _

lemma orderly_bench : (programs Bench.machinePart).Orderly (fun b b' => b' = b)
    (fun b => b.machine.life) fun b => b.machine.clock :=
  orderly_programs (fun _ _ => rfl) goes_alone

lemma orderly_benchStorage : (storage Bench.machinePart).Orderly (fun b b' => b' = b)
    (fun b => b.machine.life) fun b => b.machine.clock :=
  orderly_storage (fun _ _ => rfl) goes_alone

end Machine

end ShardCluster
