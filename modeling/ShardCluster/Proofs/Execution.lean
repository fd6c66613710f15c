import Mathlib.Logic.Basic
import ShardCluster.Task.Run

/-!
# What tasks come to

`Leads env t s r s'` says that the task `t`, begun in `s`, can lead to `s'`: with the result `r`,
or, without one, because it waits there at a pause and may be given up. At a pause others change the
world by `env`, and nothing is said about how long it lasts.

* `leads_bind`, `leads_through`, `leads_within`, `leads_owning`: what the ways to build a task do;
* `leads_of_run`, `leads_of_limit`: runs in virtual time and tasks given up after some time are
  covered.
-/

namespace ShardCluster.Task

variable {S W X Y α β : Type} {env : S → S → Prop}

lemma bind_done (t : Task S α) : t.bind done = t := by
  induction t with
  | done a => rfl
  | act effect next ih => exact congrArg (act effect) (funext ih)
  | pause delay wake next ih => exact congrArg (pause delay wake) ih

lemma bind_bind {γ : Type} (t : Task S α) (f : α → Task S β) (g : β → Task S γ) :
    (t.bind f).bind g = t.bind fun a => (f a).bind g := by
  induction t with
  | done a => rfl
  | act effect next ih => exact congrArg (act effect) (funext ih)
  | pause delay wake next ih => exact congrArg (pause delay wake) ih

instance : LawfulMonad (Task S) := .mk' _ bind_done (fun _ _ => rfl) bind_bind

/-- **What a task can come to**: its result, or none where it waits. A pause without a delay ends
only once it is woken. -/
inductive Leads (env : S → S → Prop) : Task S α → S → Option α → S → Prop
  | done (a : α) (s : S) : Leads env (done a) s (some a) s
  | act {effect : S → S} {next : S → Task S α} {s s' : S} {r : Option α} :
      Leads env (next s) (effect s) r s' → Leads env (act effect next) s r s'
  | wait (delay : Option Nat) (wake : S → Bool) (next : Task S α) (s : S) :
      Leads env (pause delay wake next) s none s
  | resume {delay : Option Nat} {wake : S → Bool} {next : Task S α} {s s₁ s' : S} {r : Option α} :
      env s s₁ → (delay.isSome ∨ wake s₁) → Leads env next s₁ r s' →
      Leads env (pause delay wake next) s r s'

/-! ### One step -/

section Steps

variable {s s' : S} {r : Option α}

@[simp] lemma leads_done {a : α} : Leads env (done a) s r s' ↔ r = some a ∧ s' = s := by
  constructor
  · rintro ⟨⟩
    exact ⟨rfl, rfl⟩
  · rintro ⟨rfl, rfl⟩
    exact .done a _

@[simp] lemma leads_act {effect : S → S} {next : S → Task S α} :
    Leads env (act effect next) s r s' ↔ Leads env (next s) (effect s) r s' := by
  constructor
  · rintro (_ | h)
    exact h
  · exact .act

lemma leads_pause {delay : Option Nat} {wake : S → Bool} {next : Task S α} :
    Leads env (pause delay wake next) s r s' ↔ (r = none ∧ s' = s) ∨
      ∃ s₁, env s s₁ ∧ (delay.isSome ∨ wake s₁) ∧ Leads env next s₁ r s' := by
  constructor
  · intro h
    cases h with
    | wait => exact .inl ⟨rfl, rfl⟩
    | resume he hw h => exact .inr ⟨_, he, hw, h⟩
  · rintro (⟨rfl, rfl⟩ | ⟨s₁, he, hw, h⟩)
    · exact .wait delay wake next _
    · exact .resume he hw h

/-- One task after another: the first may still wait, or have ended and left the rest to the
second. -/
theorem leads_bind {t : Task S α} {f : α → Task S β} {r : Option β} :
    Leads env (t.bind f) s r s' ↔ (r = none ∧ Leads env t s none s') ∨
      ∃ a s₁, Leads env t s (some a) s₁ ∧ Leads env (f a) s₁ r s' := by
  induction t generalizing s with
  | done a =>
    simp only [Task.bind, leads_done, Option.some.injEq, reduceCtorEq, false_and, and_false,
      false_or]
    constructor
    · exact fun h => ⟨a, s, ⟨rfl, rfl⟩, h⟩
    · rintro ⟨_, _, ⟨rfl, rfl⟩, h⟩
      exact h
  | act effect next ih => simp only [Task.bind, leads_act, ih]
  | pause delay wake next ih =>
    simp only [Task.bind, leads_pause, ih]
    constructor
    · rintro (⟨rfl, rfl⟩ | ⟨s₁, he, hw, ⟨rfl, h⟩ | ⟨a, s₂, h₁, h₂⟩⟩)
      · exact .inl ⟨rfl, .inl ⟨trivial, rfl⟩⟩
      · exact .inl ⟨rfl, .inr ⟨s₁, he, hw, h⟩⟩
      · exact .inr ⟨a, s₂, .inr ⟨s₁, he, hw, h₁⟩, h₂⟩
    · rintro (⟨rfl, ⟨-, rfl⟩ | ⟨s₁, he, hw, h⟩⟩ | ⟨a, s₂, ⟨h, -⟩ | ⟨s₁, he, hw, h₁⟩, h₂⟩)
      · exact .inl ⟨rfl, rfl⟩
      · exact .inr ⟨s₁, he, hw, .inl ⟨rfl, h⟩⟩
      · cases h
      · exact .inr ⟨s₁, he, hw, .inr ⟨a, s₂, h₁, h₂⟩⟩

lemma leads_bind_some {t : Task S α} {f : α → Task S β} {b : β} :
    Leads env (t >>= f) s (some b) s' ↔
      ∃ a s₁, Leads env t s (some a) s₁ ∧ Leads env (f a) s₁ (some b) s' :=
  leads_bind.trans (by simp)

lemma leads_map {t : Task S α} {f : α → β} {r : Option β} :
    Leads env (f <$> t) s r s' ↔ ∃ r', r = r'.map f ∧ Leads env t s r' s' := by
  show Leads env (t.bind fun a => done (f a)) s r s' ↔ _
  rw [leads_bind]
  constructor
  · rintro (⟨rfl, h⟩ | ⟨a, s₁, h, h'⟩)
    · exact ⟨none, rfl, h⟩
    · obtain ⟨rfl, rfl⟩ := leads_done.1 h'
      exact ⟨some a, rfl, h⟩
  · rintro ⟨_ | a, rfl, h⟩
    · exact .inl ⟨rfl, h⟩
    · exact .inr ⟨a, s', h, .done _ _⟩

lemma Leads.mono {env' : S → S → Prop} {t : Task S α}
    (h : Leads env t s r s') (fewer : ∀ s s', env s s' → env' s s') : Leads env' t s r s' := by
  induction h with
  | done a s => exact .done a s
  | act _ ih => exact .act ih
  | wait delay wake next s => exact .wait delay wake next s
  | resume he hw _ ih => exact .resume (fewer _ _ he) hw ih

end Steps

/-! ### Tasks on a part of the world -/

/-- Others leave the first component alone and change the second one by `env`. -/
def Beside (env : W → W → Prop) (s s' : X × W) : Prop := s'.1 = s.1 ∧ env s.2 s'.2

section Parts

variable {env : W → W → Prop}

@[simp] lemma beside_iff {x x' : X} {w w' : W} :
    Beside env (x, w) (x', w') ↔ x' = x ∧ env w w' := Iff.rfl

/-- Nobody else acts. -/
def Quiet (env : S → S → Prop) : Prop := ∀ s s', env s s' ↔ s' = s

lemma quiet_eq : Quiet fun s s' : S => s' = s := fun _ _ => Iff.rfl

lemma Quiet.beside (quiet : Quiet env) : Quiet (Beside (X := X) env) := by
  rintro ⟨x, w⟩ ⟨x', w'⟩
  simp [quiet w w']

theorem leads_through {t : Task W α} {x : X} {w : W} {r : Option α} {s' : X × W} :
    Leads (Beside env) (t.through (Part.second X W)) (x, w) r s' ↔
      ∃ w', s' = (x, w') ∧ Leads env t w r w' := by
  induction t generalizing w with
  | done a =>
    simp only [Task.through, leads_done]
    constructor
    · rintro ⟨rfl, rfl⟩
      exact ⟨w, rfl, rfl, rfl⟩
    · rintro ⟨_, rfl, rfl, rfl⟩
      exact ⟨rfl, rfl⟩
  | act effect next ih => simpa [Task.through, Part.second] using ih w
  | pause delay wake next ih =>
    simp only [Task.through, leads_pause, Part.second]
    constructor
    · rintro (⟨rfl, rfl⟩ | ⟨⟨x₁, w₁⟩, ⟨rfl, he⟩, hw, h⟩)
      · exact ⟨w, rfl, .inl ⟨rfl, rfl⟩⟩
      · obtain ⟨w', rfl, h'⟩ := ih.1 h
        exact ⟨w', rfl, .inr ⟨w₁, he, hw, h'⟩⟩
    · rintro ⟨w', rfl, ⟨rfl, rfl⟩ | ⟨w₁, he, hw, h⟩⟩
      · exact .inl ⟨rfl, rfl⟩
      · exact .inr ⟨(x, w₁), ⟨rfl, he⟩, hw, ih.2 ⟨w', rfl, h⟩⟩

theorem leads_within {place : X → Option Y} {put : Y → X → X}
    (place_put : ∀ y x, place (put y x) = some y) (put_put : ∀ y y' x, put y' (put y x) = put y' x)
    {t : Task (Y × W) α} {x : X} {y : Y} {w : W} (hp : place x = some y) (hx : put y x = x)
    {r : Option (Option α)} {s' : X × W} :
    Leads (Beside env) (t.within (fun s => (place s.1).map (·, s.2))
        (fun p s => (put p.1 s.1, p.2))) (x, w) r s' ↔
      ∃ r' y' w', r = r'.map some ∧ s' = (put y' x, w') ∧
        Leads (Beside env) t (y, w) r' (y', w') := by
  induction t generalizing x y w with
  | done a =>
    simp only [Task.within, leads_done, Prod.mk.injEq]
    constructor
    · rintro ⟨rfl, rfl⟩
      exact ⟨_, y, w, rfl, by rw [hx], rfl, rfl, rfl⟩
    · rintro ⟨_, _, _, rfl, rfl, rfl, rfl, rfl⟩
      exact ⟨rfl, by rw [hx]⟩
  | act effect next ih =>
    simp only [Task.within, leads_act, hp, Option.map_some]
    rw [ih (y, w) (place_put _ _) (put_put _ _ _)]
    simp only [put_put]
  | pause delay wake next ih =>
    simp only [Task.within, leads_pause]
    constructor
    · rintro (⟨rfl, rfl⟩ | ⟨⟨x₁, w₁⟩, ⟨rfl, he⟩, hw, h⟩)
      · exact ⟨none, y, w, rfl, by rw [hx], .inl ⟨rfl, rfl⟩⟩
      · obtain ⟨r', y', w', rfl, rfl, h'⟩ := (ih hp hx).1 h
        exact ⟨r', y', w', rfl, rfl, .inr ⟨(y, w₁), ⟨rfl, he⟩, by simpa [hp] using hw, h'⟩⟩
    · rintro ⟨r', y', w', rfl, rfl, ⟨rfl, h⟩ | ⟨⟨y₁, w₁⟩, ⟨rfl, he⟩, hw, h⟩⟩
      · cases h
        exact .inl ⟨rfl, by rw [hx]⟩
      · exact .inr ⟨(x, w₁), ⟨rfl, he⟩, by simpa [hp] using hw,
          (ih hp hx).2 ⟨r', y', w', rfl, rfl, h⟩⟩

theorem leads_owning {t : Task (Y × W) α} {x : X} {y : Y} {w : W} {r : Option (α × Y)}
    {s' : X × W} :
    Leads (Beside env) (t.owning (Part.second X W) y) (x, w) r s' ↔
      ∃ r' y' w', r = r'.map (·, y') ∧ s' = (x, w') ∧
        Leads (Beside env) t (y, w) r' (y', w') := by
  induction t generalizing y w with
  | done a =>
    simp only [Task.owning, leads_done, Prod.mk.injEq]
    constructor
    · rintro ⟨rfl, rfl⟩
      exact ⟨_, y, w, rfl, rfl, rfl, rfl, rfl⟩
    · rintro ⟨_, _, _, rfl, rfl, rfl, rfl, rfl⟩
      exact ⟨rfl, rfl⟩
  | act effect next ih =>
    simp only [Task.owning, leads_act, Part.second]
    exact ih (y, w)
  | pause delay wake next ih =>
    simp only [Task.owning, leads_pause, Part.second]
    constructor
    · rintro (⟨rfl, rfl⟩ | ⟨⟨x₁, w₁⟩, ⟨rfl, he⟩, hw, h⟩)
      · exact ⟨none, y, w, rfl, rfl, .inl ⟨rfl, rfl⟩⟩
      · obtain ⟨r', y', w', rfl, rfl, h'⟩ := ih.1 h
        exact ⟨r', y', w', rfl, rfl, .inr ⟨(y, w₁), ⟨rfl, he⟩, hw, h'⟩⟩
    · rintro ⟨r', y', w', rfl, rfl, ⟨rfl, h⟩ | ⟨⟨y₁, w₁⟩, ⟨rfl, he⟩, hw, h⟩⟩
      · cases h
        exact .inl ⟨rfl, rfl⟩
      · exact .inr ⟨(x, w₁), ⟨rfl, he⟩, hw, ih.2 ⟨r', y', w', rfl, rfl, h⟩⟩

end Parts

/-! ### Runs in virtual time -/

section Runs

variable {w w' : W} {env : W → W → Prop} {delay : Option Nat} {wake : W → Bool}

/-- A pause is passed by changes that others may make, and leaves alarms that are theirs. -/
lemma pass_spec (refl : ∀ w, env w w) (trans : ∀ {u v w}, env u v → env v w → env u w)
    {alarms : List (Alarm W)} (theirs : ∀ a ∈ alarms, ∀ w, env w (a.ring w)) :
    env w (pass wake delay alarms w).2.2 ∧
      (∀ a ∈ (pass wake delay alarms w).2.1, ∀ w, env w (a.ring w)) ∧
      ((pass wake delay alarms w).1 = true →
        delay.isSome ∨ wake (pass wake delay alarms w).2.2) := by
  induction alarms generalizing delay w with
  | nil =>
    simp only [pass, Bool.or_eq_true]
    exact ⟨refl w, by simp, Or.symm⟩
  | cons alarm later ih =>
    have own := theirs alarm (List.mem_cons_self ..)
    have others : ∀ a ∈ later, ∀ w, env w (a.ring w) := fun a ha =>
      theirs a (List.mem_cons_of_mem _ ha)
    unfold pass
    split
    · rename_i awake
      exact ⟨refl w, theirs, fun _ => .inr awake⟩
    · split
      · rename_i d
        split
        · refine ⟨refl w, ?_, fun _ => .inl rfl⟩
          rintro a (_ | ⟨_, ha⟩)
          · exact own
          · exact others a ha
        · obtain ⟨h₁, h₂, -⟩ := @ih (alarm.ring w) (some (d - alarm.wait)) others
          exact ⟨trans (own w) h₁, h₂, fun _ => .inl rfl⟩
      · obtain ⟨h₁, h₂, h₃⟩ := @ih (alarm.ring w) none others
        exact ⟨trans (own w) h₁, h₂, h₃⟩

/-- **A run in virtual time** is one of the things a task can come to, if its alarms do what others
may do. -/
theorem leads_of_run (refl : ∀ w, env w w) (trans : ∀ {u v w}, env u v → env v w → env u w)
    {t : Task W α} {alarms : List (Alarm W)} (theirs : ∀ a ∈ alarms, ∀ w, env w (a.ring w))
    {a : α} (h : (t.run alarms w).1 = some a) : Leads env t w (some a) (t.run alarms w).2 := by
  induction t generalizing alarms w with
  | done b =>
    simp only [Task.run, Option.some.injEq] at h ⊢
    exact h ▸ .done b w
  | act effect next ih => exact .act (ih _ theirs h)
  | pause delay wake next ih =>
    obtain ⟨h₁, h₂, h₃⟩ := @pass_spec _ w _ delay wake refl trans _ theirs
    simp only [Task.run] at h ⊢
    generalize pass wake delay alarms w = passed at h h₁ h₂ h₃ ⊢
    obtain ⟨_ | _, alarms', w₁⟩ := passed
    · cases h
    · exact .resume h₁ (h₃ rfl) (ih h₂ h)

end Runs

/-! ### Tasks cut short -/

/-- What a task can come to that may be cut short for a reason: it ends, or waits, or is given up
where it waited, once others have acted there. -/
inductive LeadsCut (env : S → S → Prop) (reason : S → Prop) (t : Task S α) (s : S) :
    Option (Option α) → S → Prop
  | ended {a : α} {s' : S} : Leads env t s (some a) s' → LeadsCut env reason t s (some (some a)) s'
  | waiting {s' : S} : Leads env t s none s' → LeadsCut env reason t s none s'
  | givenUp {s₁ s' : S} : Leads env t s none s₁ → env s₁ s' → reason s' →
      LeadsCut env reason t s (some none) s'

section Cut

variable {reason : S → Prop} {s s' : S} {r : Option (Option α)}

lemma LeadsCut.act {effect : S → S} {next : S → Task S α}
    (h : LeadsCut env reason (next s) (effect s) r s') :
    LeadsCut env reason (act effect next) s r s' := by
  cases h with
  | ended h => exact .ended (.act h)
  | waiting h => exact .waiting (.act h)
  | givenUp h he hr => exact .givenUp (.act h) he hr

lemma LeadsCut.resume {delay : Option Nat} {wake : S → Bool} {next : Task S α} {s₁ : S}
    (he : env s s₁) (hw : delay.isSome ∨ wake s₁) (h : LeadsCut env reason next s₁ r s') :
    LeadsCut env reason (pause delay wake next) s r s' := by
  cases h with
  | ended h => exact .ended (.resume he hw h)
  | waiting h => exact .waiting (.resume he hw h)
  | givenUp h he' hr => exact .givenUp (.resume he hw h) he' hr

theorem leads_of_limit (refl : ∀ s, env s s) {t : Task S α} {nanos : Nat}
    (h : Leads env (t.limit nanos) s r s') : LeadsCut env (fun _ => True) t s r s' := by
  induction t generalizing s nanos with
  | done a =>
    rw [Task.limit, leads_done] at h
    obtain ⟨rfl, rfl⟩ := h
    exact .ended (.done a _)
  | act effect next ih =>
    simp only [Task.limit, leads_act] at h
    exact (ih _ h).act
  | pause delay wake next ih =>
    have late (h : Leads env (pause (some nanos) wake
        (act id fun s => if wake s then next.limit nanos else done none)) s r s') :
        LeadsCut env (fun _ => True) (pause delay wake next) s r s' := by
      rcases leads_pause.1 h with ⟨rfl, rfl⟩ | ⟨s₁, he, -, h₁⟩
      · exact .waiting (.wait delay wake next _)
      · rw [leads_act] at h₁
        split at h₁
        · rename_i awake
          exact (ih h₁).resume he (.inr awake)
        · obtain ⟨rfl, rfl⟩ := leads_done.1 h₁
          exact .givenUp (.wait delay wake next s) he trivial
    unfold Task.limit at h
    split at h
    · obtain ⟨rfl, rfl⟩ := leads_done.1 h
      exact .givenUp (.wait delay wake next _) (refl _) trivial
    · split at h
      · rename_i d
        split at h
        · rcases leads_pause.1 h with ⟨rfl, rfl⟩ | ⟨s₁, he, -, h₁⟩
          · exact .waiting (.wait _ wake next _)
          · exact (ih h₁).resume he (.inl rfl)
        · exact late h
      · exact late h

lemma leads_of_quiet_run (quiet : Quiet env) {t : Task S α} {a : α} (h : (t.run [] s).1 = some a) :
    Leads env t s (some a) (t.run [] s).2 :=
  leads_of_run (fun s => (quiet s s).2 rfl)
    (fun {u v w} huv hvw => (quiet v w).1 hvw ▸ huv) (by simp) h

/-- With no alarms left, a task passes where it waits if there is a limit to that, or nothing to
wait for. -/
lemma run_pause {delay : Option Nat} {wake : S → Bool} {next : Task S α} :
    (pause delay wake next).run [] s =
      if (wake s || delay.isSome) = true then next.run [] s else (none, s) := by
  split
  · rename_i passes
    simp only [run, pass, passes]
  · rename_i stays
    simp only [run, pass, stays]

lemma Leads.quiet_run (quiet : Quiet env) {t : Task S α} {a : α}
    (led : Leads env t s (some a) s') : t.run [] s = (some a, s') := by
  induction t generalizing s with
  | done b =>
    obtain ⟨same, rfl⟩ := leads_done.1 led
    rw [same]
    rfl
  | act effect next ih => exact ih _ (leads_act.1 led)
  | pause delay wake next ih =>
    obtain ⟨none, -⟩ | ⟨s₁, still, passes, led₁⟩ := leads_pause.1 led
    · cases none
    obtain rfl := (quiet s s₁).1 still
    have woken : (wake s₁ || delay.isSome) = true := by
      rw [Bool.or_eq_true]
      exact passes.symm
    rw [run_pause, if_pos woken]
    exact ih led₁

lemma leads_of_limited_run (quiet : Quiet env) {t : Task S α} {nanos : Nat}
    (h : ((t.limit nanos).run [] s).1 = some none) :
    Leads env t s none ((t.limit nanos).run [] s).2 := by
  cases leads_of_limit (fun s => (quiet s s).2 rfl) (leads_of_quiet_run quiet h) with
  | givenUp h he _ =>
    rw [(quiet _ _).1 he]
    exact h

end Cut

end ShardCluster.Task
