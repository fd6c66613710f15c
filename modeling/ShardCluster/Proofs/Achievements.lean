import ShardCluster.Proofs.Guarantees
import ShardCluster.Proofs.TimedTasks

/-!
# What tasks achieve

`Ensures` says what holds where a task ends, if it ends. `Achieves env Q t s` says that it does end,
whatever others do at its pauses by `env`, and that `Q` holds then: no pause of it lasts for ever.

* `achieves_iff`: to achieve something is to end, and to lead nowhere else;
* `Achieves.run_ends`: what achieves something also does so in virtual time, whatever alarms ring;
* `ends_bind`: a task ends if each of its steps does, wherever the steps before it lead;
* `Fulfils`: the same for operations that may fail, with one rule for each step of a node's.
-/

namespace ShardCluster

namespace Task

variable {S W α β : Type} {env : S → S → Prop}

/-- **The achievement of a task**: it ends, and `Q` holds of its result. -/
def Achieves (env : S → S → Prop) (Q : α → S → Prop) : Task S α → S → Prop
  | done a, s => Q a s
  | act effect next, s => (next s).Achieves env Q (effect s)
  | pause delay wake next, s =>
    ∀ s', env s s' → (delay.isSome ∨ wake s') ∧ next.Achieves env Q s'

/-- The task comes to its end. -/
def Ends (env : S → S → Prop) (t : Task S α) (s : S) : Prop := t.Achieves env (fun _ _ => True) s

section Rules

variable {Q R : α → S → Prop} {s : S}

@[simp] lemma achieves_pure {a : α} : (pure a : Task S α).Achieves env Q s ↔ Q a s := Iff.rfl

@[simp] lemma achieves_yield {Q : Unit → S → Prop} :
    yield.Achieves env Q s ↔ ∀ s', env s s' → Q () s' := by
  simp [yield, Achieves]

@[simp] lemma achieves_read {f : S → α} : (read f).Achieves env Q s ↔ Q (f s) s := Iff.rfl

@[simp] lemma achieves_update {f : S → S} {Q : Unit → S → Prop} :
    (update f).Achieves env Q s ↔ Q () (f s) := Iff.rfl

@[simp] lemma achieves_atomic {f : S → α × S} :
    (atomic f).Achieves env Q s ↔ Q (f s).1 (f s).2 := Iff.rfl

theorem achieves_bind {Q : β → S → Prop} {t : Task S α} {f : α → Task S β} :
    (t >>= f).Achieves env Q s ↔ t.Achieves env (fun a s => (f a).Achieves env Q s) s := by
  show (t.bind f).Achieves env Q s ↔ _
  induction t generalizing s with
  | done a => rfl
  | act effect next ih => exact ih s
  | pause delay wake next ih => simp only [Task.bind, Achieves, ih]

theorem Achieves.mono {t : Task S α} (h : t.Achieves env Q s) (hQ : ∀ a s, Q a s → R a s) :
    t.Achieves env R s := by
  induction t generalizing s with
  | done a => exact hQ a s h
  | act effect next ih => exact ih s h
  | pause delay wake next ih => exact fun s' he => ⟨(h s' he).1, ih (h s' he).2⟩

lemma Achieves.holds {t : Task S α} (h : t.Achieves env Q s) {a : α} {s' : S}
    (led : Leads env t s (some a) s') : Q a s' := by
  induction t generalizing s with
  | done b =>
    obtain ⟨same, rfl⟩ := leads_done.1 led
    cases same
    exact h
  | act effect next ih => exact ih s h (leads_act.1 led)
  | pause delay wake next ih =>
    rcases leads_pause.1 led with ⟨missing, -⟩ | ⟨s₁, he, -, led⟩
    · cases missing
    · exact ih (h s₁ he).2 led

/-- **To achieve something** is to end, and to lead nowhere else. -/
theorem achieves_iff {t : Task S α} :
    t.Achieves env Q s ↔ t.Ends env s ∧ ∀ a s', Leads env t s (some a) s' → Q a s' := by
  constructor
  · exact fun h => ⟨h.mono fun _ _ _ => trivial, fun a s' led => h.holds led⟩
  · rintro ⟨ends, holds⟩
    induction t generalizing s with
    | done a => exact holds a s (.done a s)
    | act effect next ih => exact ih s ends fun a s' led => holds a s' (.act led)
    | pause delay wake next ih =>
      intro s₁ he
      obtain ⟨goes, ends⟩ := ends s₁ he
      exact ⟨goes, ih ends fun a s' led => holds a s' (.resume he goes led)⟩

lemma Achieves.ends {t : Task S α} (h : t.Achieves env Q s) : t.Ends env s := (achieves_iff.1 h).1

/-- One task after another ends if the first does, and the second wherever the first leads. -/
theorem ends_bind {t : Task S α} {f : α → Task S β} : (t >>= f).Ends env s ↔
    t.Ends env s ∧ ∀ a s', Leads env t s (some a) s' → (f a).Ends env s' := by
  rw [Ends, achieves_bind, achieves_iff]
  rfl

lemma ends_pure {a : α} : (pure a : Task S α).Ends env s := trivial

lemma Timed.ends {t : Task S α} (h : t.Timed) (s : S) : t.Ends env s := by
  induction h generalizing s with
  | done a => trivial
  | act _ ih => exact ih s _
  | pause _ ih => exact fun s' _ => ⟨.inl rfl, ih s'⟩

lemma not_ends_forever (others : ∃ s', env s s') {a : α} : ¬ (forever a).Ends env s := by
  obtain ⟨s', he⟩ := others
  intro ends
  simpa using (ends s' he).1

lemma not_leads_forever {a b : α} {s' : S} : ¬ Leads env (forever a) s (some b) s' := by
  simp [forever, leads_pause]

end Rules

/-! ### Runs in virtual time -/

section Runs

variable {env : W → W → Prop} {delay : Option Nat} {wake : W → Bool} {w : W}

/-- A pause that goes on whatever others do ends, whatever alarms ring. -/
lemma pass_of_goes (refl : ∀ w, env w w) (alarms : List (Alarm W))
    (goes : ∀ w', env w w' → delay.isSome ∨ wake w') : (pass wake delay alarms w).1 = true := by
  cases delay with
  | some nanos => exact pass_ends alarms w
  | none =>
    have goes : ∀ w', env w w' → wake w' = true := by simpa using goes
    cases alarms with
    | nil => simp [pass, goes w (refl w)]
    | cons alarm later => simp [pass, goes w (refl w)]

/-- **What achieves something** does so in virtual time, whatever alarms ring that do what others
may do. -/
theorem Achieves.run_ends {Q : α → W → Prop} {t : Task W α} (refl : ∀ w, env w w)
    (trans : ∀ {u v w}, env u v → env v w → env u w) (h : t.Achieves env Q w)
    {alarms : List (Alarm W)} (theirs : ∀ a ∈ alarms, ∀ w, env w (a.ring w)) :
    ∃ a, (t.run alarms w).1 = some a ∧ Q a (t.run alarms w).2 := by
  suffices ∃ a, (t.run alarms w).1 = some a by
    obtain ⟨a, ended⟩ := this
    exact ⟨a, ended, h.holds (leads_of_run refl trans theirs ended)⟩
  induction t generalizing alarms w with
  | done a => exact ⟨a, rfl⟩
  | act effect next ih => exact ih w h theirs
  | pause delay wake next ih =>
    have passed := pass_of_goes refl alarms fun w' he => (h w' he).1
    obtain ⟨he, theirs', -⟩ := @pass_spec _ w _ delay wake refl trans _ theirs
    obtain ⟨a, ended⟩ := ih (h _ he).2 theirs'
    simp only [Task.run]
    generalize pass wake delay alarms w = passing at passed ended
    obtain ⟨_ | _, later, w'⟩ := passing
    · cases passed
    · exact ⟨a, ended⟩

end Runs

/-! ### Operations that may fail -/

section Operations

variable {ε X : Type}

/-- **The achievement of an operation**: it ends, `Q` holds of its result where it succeeds and `E`
of its error where it fails. -/
def Fulfils (env : S → S → Prop) (Q : α → S → Prop) (E : ε → S → Prop) (x : ExceptT ε (Task S) α)
    (s : S) : Prop :=
  x.run.Achieves env (fun r s => r.casesOn (E · s) (Q · s)) s

variable {Q : α → S → Prop} {E : ε → S → Prop} {s : S}

@[simp] lemma fulfils_pure {a : α} : Fulfils env Q E (pure a) s ↔ Q a s := Iff.rfl

@[simp] lemma fulfils_throw {e : ε} : Fulfils env Q E (throw e) s ↔ E e s := Iff.rfl

@[simp] lemma fulfils_bind {Q : β → S → Prop} {x : ExceptT ε (Task S) α}
    {f : α → ExceptT ε (Task S) β} :
    Fulfils env Q E (x >>= f) s ↔ Fulfils env (fun a s => Fulfils env Q E (f a) s) E x s := by
  simp only [Fulfils, ExceptT.run_bind, achieves_bind]
  refine iff_of_eq (congrArg (Achieves env · _ s) ?_)
  funext r s
  cases r <;> rfl

theorem Fulfils.mono {R : α → S → Prop} {F : ε → S → Prop} {x : ExceptT ε (Task S) α}
    (h : Fulfils env Q E x s) (hQ : ∀ a s, Q a s → R a s) (hE : ∀ e s, E e s → F e s) :
    Fulfils env R F x s := by
  refine Achieves.mono h ?_
  rintro (e | a) s
  · exact hE e s
  · exact hQ a s

lemma Timed.fulfils {I : S → Prop} {x : ExceptT ε (Task S) α} (timed : x.run.Timed)
    (h : Assures env I Q E x s) : Fulfils env Q E x s :=
  achieves_iff.2 ⟨timed.ends s, fun r s' led => h (some r) s' led⟩

lemma achieves_through {env : W → W → Prop} {Q : α → X × W → Prop} {t : Task W α} {x : X} {w : W} :
    (t.through (Part.second X W)).Achieves (Beside env) Q (x, w) ↔
      t.Achieves env (fun a w => Q a (x, w)) w := by
  induction t generalizing w with
  | done a => rfl
  | act effect next ih => exact ih w
  | pause delay wake next ih =>
    constructor
    · intro h w' he
      obtain ⟨goes, later⟩ := h (x, w') ⟨rfl, he⟩
      exact ⟨goes, ih.1 later⟩
    · rintro h ⟨x', w'⟩ ⟨rfl, he⟩
      obtain ⟨goes, later⟩ := h w' he
      exact ⟨goes, ih.2 later⟩

end Operations

end Task

open ShardCluster.Task (Beside Fulfils)

/-! ### Operations of a node -/

namespace Node

variable {P W α ε : Type} {env : W → W → Prop} {Q : α → Node P × W → Prop}
  {E : ClusterError → Node P × W → Prop} {n : Node P} {w : W}

@[simp] lemma fulfils_current {Q : Node P → Node P × W → Prop} :
    Fulfils (Beside env) Q E current (n, w) ↔ Q n (n, w) := Iff.rfl

@[simp] lemma fulfils_change {Q : Unit → Node P × W → Prop} {f : Node P → Node P} :
    Fulfils (Beside env) Q E (change f) (n, w) ↔ Q () (f n, w) := Iff.rfl

@[simp] lemma fulfils_outside {t : Task W α} : Fulfils (Beside env) Q E (outside t) (n, w) ↔
    t.Achieves env (fun a w => Q a (n, w)) w := by
  show Task.Achieves _ _ (t.through (Part.second (Node P) W) >>= fun a => pure (Except.ok a)) _ ↔ _
  rw [Task.achieves_bind, Task.achieves_through]
  rfl

@[simp] lemma fulfils_attempt {meaning : ε → ClusterError} {t : Task W (Except ε α)} :
    Fulfils (Beside env) Q E (attempt meaning t) (n, w) ↔
      t.Achieves env (fun r w =>
        r.casesOn (fun e => E (meaning e) (n, w)) (fun a => Q a (n, w))) w := by
  simp only [attempt, Task.fulfils_bind, fulfils_outside]
  refine iff_of_eq (congrArg (Task.Achieves env · t w) ?_)
  funext r w
  cases r <;> rfl

end Node

end ShardCluster
