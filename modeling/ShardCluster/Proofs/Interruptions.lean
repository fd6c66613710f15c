import Mathlib.Tactic.Tauto
import ShardCluster.Proofs.Achievements

/-!
# Interruptions

A task that may be interrupted goes on undisturbed until an interrupt is due at one of its pauses.
It is given up there, unless it could go on by itself and is favoured.

* `leads_interruptible`: what such a task can come to, in terms of what the task itself can come to
  undisturbed;
* `ends_interruptible`: it ends if the interrupt is due wherever the task would wait for ever.
-/

namespace ShardCluster.Task

variable {S α : Type} {env : S → S → Prop}

/-! ### Where a task waits -/

/-- **Where a task waits**: a pause that it can come to, with its delay and what wakes it. -/
inductive Waits (env : S → S → Prop) :
    Task S α → S → Option Nat → (S → Bool) → S → Prop
  | here (delay : Option Nat) (wake : S → Bool) (next : Task S α) (s : S) :
      Waits env (pause delay wake next) s delay wake s
  | act {effect : S → S} {next : S → Task S α} {delay : Option Nat} {wake : S → Bool} {s s' : S} :
      Waits env (next s) (effect s) delay wake s' → Waits env (act effect next) s delay wake s'
  | resume {delay delay' : Option Nat} {wake wake' : S → Bool} {next : Task S α} {s s₁ s' : S} :
      env s s₁ → (delay.isSome ∨ wake s₁) → Waits env next s₁ delay' wake' s' →
      Waits env (pause delay wake next) s delay' wake' s'

section Waits

variable {s s' : S} {delay : Option Nat} {wake : S → Bool}

lemma not_waits_done {a : α} : ¬ Waits env (done a) s delay wake s' := nofun

lemma waits_act {effect : S → S} {next : S → Task S α} :
    Waits env (act effect next) s delay wake s' ↔ Waits env (next s) (effect s) delay wake s' := by
  constructor
  · rintro (_ | h)
    exact h
  · exact .act

lemma waits_pause {delay' : Option Nat} {wake' : S → Bool} {next : Task S α} :
    Waits env (pause delay wake next) s delay' wake' s' ↔
      (delay' = delay ∧ wake' = wake ∧ s' = s) ∨
        ∃ s₁, env s s₁ ∧ (delay.isSome ∨ wake s₁) ∧ Waits env next s₁ delay' wake' s' := by
  constructor
  · intro h
    cases h with
    | here => exact .inl ⟨rfl, rfl, rfl⟩
    | resume he hw h => exact .inr ⟨_, he, hw, h⟩
  · rintro (⟨rfl, rfl, rfl⟩ | ⟨s₁, he, hw, h⟩)
    · exact .here _ _ next _
    · exact .resume he hw h

lemma Waits.leads {t : Task S α} (h : Waits env t s delay wake s') : Leads env t s none s' := by
  induction h with
  | here delay wake next s => exact .wait delay wake next s
  | act _ ih => exact .act ih
  | resume he hw _ ih => exact .resume he hw ih

end Waits

/-! ### What an interruptible task comes to -/

/-- Others act, and no interrupt that is due then keeps the task from going on. -/
def Undisturbed (env : S → S → Prop) (due : S → Prop) (favoured : S → Bool) (s s' : S) : Prop :=
  env s s' ∧ (due s' → favoured s' = true)

/-- **What an interruptible task comes to**: undisturbed it ends or waits, and where it waits it is
given up if others make the interrupt due. -/
inductive LeadsInterrupted (env : S → S → Prop) (due : S → Prop) (favoured : S → Bool)
    (t : Task S α) (s : S) : Option (Option α) → S → Prop
  | ended {a : α} {s' : S} : Leads (Undisturbed env due favoured) t s (some a) s' →
      LeadsInterrupted env due favoured t s (some (some a)) s'
  | waiting {s' : S} : Leads (Undisturbed env due favoured) t s none s' →
      LeadsInterrupted env due favoured t s none s'
  /-- A favoured task that could go on by itself is not given up. -/
  | givenUp {delay : Option Nat} {wake : S → Bool} {s₁ s' : S} :
      Waits (Undisturbed env due favoured) t s delay wake s₁ → env s₁ s' → due s' →
      ¬ (favoured s' = true ∧ (delay.isSome ∨ wake s')) →
      LeadsInterrupted env due favoured t s (some none) s'

section Interruptible

variable {due : S → Prop} {favoured : S → Bool} {s s' : S} {r : Option (Option α)}

lemma LeadsInterrupted.cut {t : Task S α} (h : LeadsInterrupted env due favoured t s r s') :
    LeadsCut env due t s r s' := by
  cases h with
  | ended h => exact .ended (h.mono fun _ _ => And.left)
  | waiting h => exact .waiting (h.mono fun _ _ => And.left)
  | givenUp h he given _ => exact .givenUp (h.leads.mono fun _ _ => And.left) he given

lemma leadsInterrupted_done {a : α} :
    LeadsInterrupted env due favoured (done a) s r s' ↔ r = some (some a) ∧ s' = s := by
  constructor
  · intro h
    cases h with
    | ended h =>
      obtain ⟨same, rfl⟩ := leads_done.1 h
      exact ⟨congrArg some same, rfl⟩
    | waiting h => cases h
    | givenUp h => exact (not_waits_done h).elim
  · rintro ⟨rfl, rfl⟩
    exact .ended (.done a _)

lemma leadsInterrupted_act {effect : S → S} {next : S → Task S α} :
    LeadsInterrupted env due favoured (act effect next) s r s' ↔
      LeadsInterrupted env due favoured (next s) (effect s) r s' := by
  constructor
  · intro h
    cases h with
    | ended h => exact .ended (leads_act.1 h)
    | waiting h => exact .waiting (leads_act.1 h)
    | givenUp h he given goes => exact .givenUp (waits_act.1 h) he given goes
  · intro h
    cases h with
    | ended h => exact .ended (.act h)
    | waiting h => exact .waiting (.act h)
    | givenUp h he given goes => exact .givenUp (.act h) he given goes

/-- At a pause the task waits, or is given up, or goes on undisturbed. -/
lemma leadsInterrupted_pause {delay : Option Nat} {wake : S → Bool} {next : Task S α} :
    LeadsInterrupted env due favoured (pause delay wake next) s r s' ↔
      (r = none ∧ s' = s) ∨
      (r = some none ∧ env s s' ∧ due s' ∧ ¬ (favoured s' = true ∧ (delay.isSome ∨ wake s'))) ∨
      ∃ s₁, Undisturbed env due favoured s s₁ ∧ (delay.isSome ∨ wake s₁) ∧
        LeadsInterrupted env due favoured next s₁ r s' := by
  constructor
  · intro h
    cases h with
    | ended h =>
      obtain ⟨none, -⟩ | ⟨s₁, he, hw, h⟩ := leads_pause.1 h
      · cases none
      · exact .inr (.inr ⟨s₁, he, hw, .ended h⟩)
    | waiting h =>
      obtain ⟨-, rfl⟩ | ⟨s₁, he, hw, h⟩ := leads_pause.1 h
      · exact .inl ⟨rfl, rfl⟩
      · exact .inr (.inr ⟨s₁, he, hw, .waiting h⟩)
    | givenUp h he given goes =>
      obtain ⟨rfl, rfl, rfl⟩ | ⟨s₁, he₁, hw, h⟩ := waits_pause.1 h
      · exact .inr (.inl ⟨rfl, he, given, goes⟩)
      · exact .inr (.inr ⟨s₁, he₁, hw, .givenUp h he given goes⟩)
  · rintro (⟨rfl, rfl⟩ | ⟨rfl, he, given, goes⟩ | ⟨s₁, he, hw, h⟩)
    · exact .waiting (.wait delay wake next _)
    · exact .givenUp (.here delay wake next s) he given goes
    · cases h with
      | ended h => exact .ended (.resume he hw h)
      | waiting h => exact .waiting (.resume he hw h)
      | givenUp h he' given goes => exact .givenUp (.resume he hw h) he' given goes

variable {isDue : S → Bool}

lemma leads_unlessDue (hdue : ∀ s, isDue s = true ↔ due s) {next : Task S (Option α)} :
    Leads env (unlessDue isDue favoured next) s r s' ↔
      (r = some none ∧ s' = s ∧ due s ∧ favoured s = false) ∨
        ((due s → favoured s = true) ∧ Leads env next s r s') := by
  rw [unlessDue, leads_act]
  by_cases given : due s
  · cases favoured s <;> simp [(hdue s).2 given, given]
  · have undue : isDue s = false := by rwa [← Bool.not_eq_true, hdue]
    simp [undue, given]

lemma ends_unlessDue (hdue : ∀ s, isDue s = true ↔ due s) {next : Task S (Option α)} :
    (unlessDue isDue favoured next).Ends env s ↔
      ((due s → favoured s = true) → next.Ends env s) := by
  show Ends env (if _ then done none else next) s ↔ _
  by_cases given : due s
  · cases favoured s <;> simp [(hdue s).2 given, given, Ends, Achieves]
  · have undue : isDue s = false := by rwa [← Bool.not_eq_true, hdue]
    simp [undue, given]

/-- What passes the check after a pause was not disturbed, and goes on by itself. -/
lemma undisturbed_iff {delay : Option Nat} {wake : S → Bool} :
    (env s s' ∧ (delay.isSome ∨ wake s' ∨ due s') ∧
        (due s' → (favoured s' && (delay.isSome || wake s')) = true)) ↔
      Undisturbed env due favoured s s' ∧ (delay.isSome ∨ wake s') := by
  rw [Bool.and_eq_true, Bool.or_eq_true, Undisturbed]
  tauto

/-- After a pause an interruptible task is given up, or it goes on and nothing has disturbed it. -/
lemma leads_interruptible_pause (hdue : ∀ s, isDue s = true ↔ due s) {delay : Option Nat}
    {wake : S → Bool} {next : Task S α} :
    Leads env ((pause delay wake next).interruptible isDue favoured) s r s' ↔
      (r = none ∧ s' = s) ∨
      (r = some none ∧ env s s' ∧ due s' ∧ ¬ (favoured s' = true ∧ (delay.isSome ∨ wake s'))) ∨
      ∃ s₁, Undisturbed env due favoured s s₁ ∧ (delay.isSome ∨ wake s₁) ∧
        Leads env (next.interruptible isDue favoured) s₁ r s' := by
  simp only [Task.interruptible, leads_pause, leads_unlessDue hdue, Bool.or_eq_true, hdue]
  refine or_congr_right ⟨?_, ?_⟩
  · rintro ⟨s₁, he, hw, ⟨rfl, rfl, given, goes⟩ | ⟨spared, h⟩⟩
    · exact .inl ⟨rfl, he, given, by simpa using goes⟩
    · obtain ⟨undisturbed, goes⟩ := undisturbed_iff.1 ⟨he, hw, spared⟩
      exact .inr ⟨s₁, undisturbed, goes, h⟩
  · rintro (⟨rfl, he, given, goes⟩ | ⟨s₁, undisturbed, goes, h⟩)
    · exact ⟨s', he, .inr (.inr given), .inl ⟨rfl, rfl, given, by simpa using goes⟩⟩
    · obtain ⟨he, hw, spared⟩ := undisturbed_iff.2 ⟨undisturbed, goes⟩
      exact ⟨s₁, he, hw, .inr ⟨spared, h⟩⟩

/-- **What an interruptible task can come to**, exactly. -/
theorem leads_interruptible (hdue : ∀ s, isDue s = true ↔ due s) {t : Task S α} :
    Leads env (t.interruptible isDue favoured) s r s' ↔
      LeadsInterrupted env due favoured t s r s' := by
  induction t generalizing s with
  | done a => rw [Task.interruptible, leads_done, leadsInterrupted_done]
  | act effect next ih => rw [Task.interruptible, leads_act, leadsInterrupted_act, ih]
  | pause delay wake next ih =>
    rw [leads_interruptible_pause hdue, leadsInterrupted_pause]
    simp only [ih]

/-! ### Coming to an end -/

/-- **A task that ends or is interrupted**: wherever it waits undisturbed it goes on or has become
due for the interrupt, whatever others do. -/
def EndsOrDue (env : S → S → Prop) (due : S → Prop) (favoured : S → Bool) (t : Task S α) (s : S) :
    Prop :=
  ∀ delay wake s₁, Waits (Undisturbed env due favoured) t s delay wake s₁ →
    ∀ s', env s₁ s' → delay.isSome ∨ wake s' ∨ due s'

lemma endsOrDue_pause {delay : Option Nat} {wake : S → Bool} {next : Task S α} :
    (pause delay wake next).EndsOrDue env due favoured s ↔
      (∀ s', env s s' → delay.isSome ∨ wake s' ∨ due s') ∧
        ∀ s₁, Undisturbed env due favoured s s₁ → (delay.isSome ∨ wake s₁) →
          next.EndsOrDue env due favoured s₁ := by
  simp only [EndsOrDue, waits_pause]
  constructor
  · refine fun ends => ⟨ends _ _ _ (.inl ⟨rfl, rfl, rfl⟩), ?_⟩
    exact fun s₁ he hw delay' wake' s₂ h => ends delay' wake' s₂ (.inr ⟨s₁, he, hw, h⟩)
  · rintro ⟨here, later⟩ _ _ _ (⟨rfl, rfl, rfl⟩ | ⟨s₁, he, hw, h⟩)
    · exact here
    · exact later s₁ he hw _ _ _ h

/-- **An interruptible task ends** exactly if it never waits for good without the interrupt. -/
theorem ends_interruptible (hdue : ∀ s, isDue s = true ↔ due s) {t : Task S α} :
    (t.interruptible isDue favoured).Ends env s ↔ t.EndsOrDue env due favoured s := by
  induction t generalizing s with
  | done a => exact ⟨fun _ _ _ _ h => (not_waits_done h).elim, fun _ => trivial⟩
  | act effect next ih =>
    refine (ih s).trans ?_
    simp only [EndsOrDue, waits_act]
  | pause delay wake next ih =>
    -- the pause ends for the task or for the interrupt, and the check tells which of them it was
    rw [endsOrDue_pause]
    constructor
    · intro ends
      refine ⟨fun s' he => by simpa [hdue] using (ends s' he).1, fun s₁ undisturbed goes => ?_⟩
      obtain ⟨he, -, spared⟩ := undisturbed_iff.2 ⟨undisturbed, goes⟩
      exact ih.1 ((ends_unlessDue hdue).1 (ends s₁ he).2 spared)
    · rintro ⟨here, later⟩ s' he
      refine ⟨by simpa [hdue] using here s' he, (ends_unlessDue hdue).2 fun spared => ?_⟩
      obtain ⟨undisturbed, goes⟩ := undisturbed_iff.1 ⟨he, here s' he, spared⟩
      exact ih.2 (later s' undisturbed goes)

end Interruptible

end ShardCluster.Task
