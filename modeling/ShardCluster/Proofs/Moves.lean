import ShardCluster.Proofs.Guarantees

/-!
# What tasks do step by step

`Moves env t s a b` says that the task `t`, begun in `s`, can change `a` into `b` at one go.
`Task.Obeys` is a guarantee of a task that speaks of every move as well, and of something beside the
world that the task does not know of: others may change it at a pause, together with the world, and
it stays as it is in between. `Task.Follows` is the same for operations that may fail.

* `obeys_bind`, `obeys_through`: what the ways to build a task do;
* `Obeys.ensures`, `Obeys.moves`: what this says of where a task leads to, and of its moves.
-/

namespace ShardCluster

namespace Task

variable {S W X Y α β : Type} {env : S → S → Prop}

/-- **A move of a task**: one of its steps, taken in a state that it can lead to. -/
inductive Moves (env : S → S → Prop) : Task S α → S → S → S → Prop
  | here (effect : S → S) (next : S → Task S α) (s : S) : Moves env (act effect next) s s (effect s)
  | act {effect : S → S} {next : S → Task S α} {s a b : S} :
      Moves env (next s) (effect s) a b → Moves env (act effect next) s a b
  | resume {delay : Option Nat} {wake : S → Bool} {next : Task S α} {s s₁ a b : S} :
      env s s₁ → (delay.isSome ∨ wake s₁) → Moves env next s₁ a b →
      Moves env (pause delay wake next) s a b

/-! ### Obedience -/

/-- **The guarantee of a task and its moves**: `I` wherever it waits, `Q` of its result where it
ends, and `R` of every move. At a pause others change the world and what is beside it by `env`. -/
def Obeys (env : X × S → X × S → Prop) (R : S → S → Prop) (I : X × S → Prop)
    (Q : α → X × S → Prop) : Task S α → X × S → Prop
  | done a, p => Q a p
  | act effect next, p => R p.2 (effect p.2) ∧ Obeys env R I Q (next p.2) (p.1, effect p.2)
  | pause delay wake next, p =>
    I p ∧ ∀ p', env p p' → (delay.isSome ∨ wake p'.2) → Obeys env R I Q next p'

section Rules

variable {env : X × S → X × S → Prop} {R R' : S → S → Prop} {I J : X × S → Prop}
  {Q Q' : α → X × S → Prop} {x : X} {s : S} {p : X × S}

@[simp] lemma obeys_done {a : α} : Obeys env R I Q (done a) p ↔ Q a p := Iff.rfl

@[simp] lemma obeys_pure {a : α} : Obeys env R I Q (pure a) p ↔ Q a p := Iff.rfl

@[simp] lemma obeys_act {effect : S → S} {next : S → Task S α} :
    Obeys env R I Q (act effect next) (x, s) ↔
      R s (effect s) ∧ Obeys env R I Q (next s) (x, effect s) := Iff.rfl

lemma obeys_pause {delay : Option Nat} {wake : S → Bool} {next : Task S α} :
    Obeys env R I Q (pause delay wake next) p ↔
      I p ∧ ∀ p', env p p' → (delay.isSome ∨ wake p'.2) → Obeys env R I Q next p' := Iff.rfl

theorem obeys_bind {Q : β → X × S → Prop} {t : Task S α} {f : α → Task S β} :
    Obeys env R I Q (t >>= f) p ↔ Obeys env R I (fun a p => Obeys env R I Q (f a) p) t p := by
  show Obeys env R I Q (t.bind f) p ↔ _
  induction t generalizing p with
  | done a => rfl
  | act effect next ih => exact and_congr_right fun _ => ih _
  | pause delay wake next ih =>
    exact and_congr_right fun _ => forall_congr' fun _ => imp_congr_right fun _ =>
      imp_congr_right fun _ => ih

@[simp] lemma obeys_map {Q : β → X × S → Prop} {f : α → β} {t : Task S α} :
    Obeys env R I Q (f <$> t) p ↔ Obeys env R I (fun a p => Q (f a) p) t p := by
  show Obeys env R I Q (t >>= fun a => pure (f a)) p ↔ _
  simp only [obeys_bind, obeys_pure]

theorem Obeys.mono {t : Task S α} (h : Obeys env R I Q t p) (hI : ∀ p, I p → J p)
    (hQ : ∀ a p, Q a p → Q' a p) : Obeys env R J Q' t p := by
  induction t generalizing p with
  | done a => exact hQ a p h
  | act effect next ih => exact ⟨h.1, ih _ h.2⟩
  | pause delay wake next ih => exact ⟨hI p h.1, fun p' he hw => ih (h.2 p' he hw)⟩

lemma Obeys.coarser {t : Task S α} (h : Obeys env R I Q t p) (hR : ∀ a b, R a b → R' a b) :
    Obeys env R' I Q t p := by
  induction t generalizing p with
  | done a => exact h
  | act effect next ih => exact ⟨hR _ _ h.1, ih _ h.2⟩
  | pause delay wake next ih => exact ⟨h.1, fun p' he hw => ih (h.2 p' he hw)⟩

lemma obeys_read {f : S → α} (refl : ∀ s, R s s) :
    Obeys env R I Q (read f) (x, s) ↔ Q (f s) (x, s) := by
  simp [read, refl]

@[simp] lemma obeys_update {f : S → S} {Q : Unit → X × S → Prop} :
    Obeys env R I Q (update f) (x, s) ↔ R s (f s) ∧ Q () (x, f s) := by
  simp [update]

lemma obeys_atomic {f : S → α × S} (refl : ∀ s, R s s) :
    Obeys env R I Q (atomic f) (x, s) ↔ R s (f s).2 ∧ Q (f s).1 (x, (f s).2) :=
  and_iff_right (refl s)

end Rules

/-- Others leave a part of the world alone, and change the rest of it and what is beside it. -/
def Beyond (env : X × W → X × W → Prop) (p p' : X × Y × W) : Prop :=
  p'.2.1 = p.2.1 ∧ env (p.1, p.2.2) (p'.1, p'.2.2)

lemma obeys_through {env : X × W → X × W → Prop} {R : Y × W → Y × W → Prop}
    {I : X × Y × W → Prop} {Q : α → X × Y × W → Prop} {t : Task W α} {x : X} {y : Y} {w : W}
    (still : ∀ w w', R (y, w) (y, w')) :
    Obeys (Beyond env) R I Q (t.through (Part.second Y W)) (x, y, w) ↔
      Obeys env (fun _ _ => True) (fun p => I (p.1, y, p.2)) (fun a p => Q a (p.1, y, p.2)) t
        (x, w) := by
  induction t generalizing x w with
  | done a => rfl
  | act effect next ih =>
    simp only [Task.through, Part.second, obeys_act, true_and]
    exact (and_iff_right (still w _)).trans (ih w)
  | pause delay wake next ih =>
    simp only [Task.through, Part.second, obeys_pause]
    refine and_congr_right fun _ => ⟨fun h p' he hw => ?_, ?_⟩
    · exact ih.1 (h (p'.1, y, p'.2) ⟨rfl, he⟩ hw)
    · rintro h ⟨x', _, w'⟩ ⟨rfl, he⟩ hw
      exact ih.2 (h (x', w') he hw)

section Plain

variable {around : X × S → X × S → Prop} {R : S → S → Prop} {I : X × S → Prop}
  {Q : α → X × S → Prop} {t : Task S α} {x : X} {s : S}

/-- What is guaranteed of a task while nothing beside the world changes. -/
lemma Obeys.ensures (h : Obeys around R I Q t (x, s))
    (still : ∀ s s', env s s' → around (x, s) (x, s')) :
    Ensures env (fun s => I (x, s)) (fun a s => Q a (x, s)) t s := by
  induction t generalizing s with
  | done a => exact ensures_done.2 h
  | act effect next ih => exact ensures_act.2 (ih _ h.2)
  | pause delay wake next ih =>
    exact ensures_pause.2 ⟨h.1, fun s₁ he hw => ih (h.2 (x, s₁) (still _ _ he) hw)⟩

lemma Obeys.moves {a b : S} (h : Obeys around R I Q t (x, s))
    (still : ∀ s s', env s s' → around (x, s) (x, s')) (m : Moves env t s a b) : R a b := by
  induction m with
  | here effect next s => exact h.1
  | act _ ih => exact ih h.2
  | resume he hw _ ih => exact ih (h.2 (x, _) (still _ _ he) hw)

lemma obeys_of_ensures {I : S → Prop} {Q : α → S → Prop} (h : Ensures env I Q t s) :
    Obeys (fun p p' : X × S => env p.2 p'.2) (fun _ _ => True) (fun p => I p.2) (fun a p => Q a p.2)
      t (x, s) := by
  induction t generalizing x s with
  | done a =>
    have done : Ensures env I Q (.done a) s := h
    rwa [ensures_done] at done
  | act effect next ih => exact ⟨trivial, ih _ (ensures_act.1 h)⟩
  | pause delay wake next ih =>
    obtain ⟨hI, h⟩ := ensures_pause.1 h
    exact ⟨hI, fun p' he hw => ih (h p'.2 he hw)⟩

end Plain

/-! ### Operations that may fail -/

section Operations

variable {ε : Type}

/-- **The guarantee of an operation and its moves**: `I` wherever it waits, `Q` of its result where
it succeeds, `E` of its error where it fails, and `R` of every move. -/
def Follows (env : X × S → X × S → Prop) (R : S → S → Prop) (I : X × S → Prop)
    (Q : α → X × S → Prop) (E : ε → X × S → Prop) (x : ExceptT ε (Task S) α) (p : X × S) : Prop :=
  Obeys env R I (fun r p => r.casesOn (E · p) (Q · p)) x.run p

variable {env : X × S → X × S → Prop} {R : S → S → Prop} {I J : X × S → Prop}
  {Q Q' : α → X × S → Prop} {E E' : ε → X × S → Prop} {p : X × S}

@[simp] lemma follows_pure {a : α} : Follows env R I Q E (pure a) p ↔ Q a p := Iff.rfl

@[simp] lemma follows_throw {e : ε} : Follows env R I Q E (throw e) p ↔ E e p := Iff.rfl

@[simp] lemma follows_bind {Q : β → X × S → Prop} {x : ExceptT ε (Task S) α}
    {f : α → ExceptT ε (Task S) β} :
    Follows env R I Q E (x >>= f) p ↔
      Follows env R I (fun a p => Follows env R I Q E (f a) p) E x p := by
  simp only [Follows, ExceptT.run_bind, obeys_bind]
  refine iff_of_eq (congrArg (Obeys env R I · _ p) ?_)
  funext r p
  cases r <;> rfl

@[simp] lemma follows_liftM {t : Task S α} :
    Follows env R I Q E (liftM t : ExceptT ε (Task S) α) p ↔ Obeys env R I Q t p := by
  show Obeys env R I _ (Except.ok <$> t) p ↔ _
  simp only [obeys_map]

lemma follows_ite {c : Prop} [Decidable c] {x y : ExceptT ε (Task S) α} :
    Follows env R I Q E (if c then x else y) p ↔
      if c then Follows env R I Q E x p else Follows env R I Q E y p := by
  split <;> rfl

theorem Follows.mono {x : ExceptT ε (Task S) α} (h : Follows env R I Q E x p)
    (hI : ∀ p, I p → J p) (hQ : ∀ a p, Q a p → Q' a p) (hE : ∀ e p, E e p → E' e p) :
    Follows env R J Q' E' x p := by
  refine Obeys.mono h hI ?_
  rintro (e | a) p
  · exact hE e p
  · exact hQ a p

end Operations

end Task

open ShardCluster.Task (Obeys Follows Beyond)

/-! ### Operations of a node -/

namespace Node

variable {P W X α ε : Type} {env : X × W → X × W → Prop} {R : Node P × W → Node P × W → Prop}
  {I : X × Node P × W → Prop} {Q : α → X × Node P × W → Prop}
  {E : ClusterError → X × Node P × W → Prop} {x : X} {n : Node P} {w : W}

lemma follows_current {Q : Node P → X × Node P × W → Prop} (refl : ∀ s, R s s) :
    Follows (Beyond env) R I Q E current (x, n, w) ↔ Q n (x, n, w) := by
  simp only [current, Task.follows_liftM, Task.obeys_read refl]

@[simp] lemma follows_change {Q : Unit → X × Node P × W → Prop} {f : Node P → Node P} :
    Follows (Beyond env) R I Q E (change f) (x, n, w) ↔ R (n, w) (f n, w) ∧ Q () (x, f n, w) := by
  simp [change]

lemma follows_outside {t : Task W α} (still : ∀ n w w', R (n, w) (n, w')) :
    Follows (Beyond env) R I Q E (outside t) (x, n, w) ↔
      Obeys env (fun _ _ => True) (fun p => I (p.1, n, p.2)) (fun a p => Q a (p.1, n, p.2)) t
        (x, w) := by
  simp only [outside, Task.follows_liftM, Task.obeys_through (still n)]

lemma follows_attempt {meaning : ε → ClusterError} {t : Task W (Except ε α)}
    (still : ∀ n w w', R (n, w) (n, w')) :
    Follows (Beyond env) R I Q E (attempt meaning t) (x, n, w) ↔
      Obeys env (fun _ _ => True) (fun p => I (p.1, n, p.2))
        (fun r p => r.casesOn (fun e => E (meaning e) (p.1, n, p.2)) (fun a => Q a (p.1, n, p.2)))
        t (x, w) := by
  simp only [attempt, Task.follows_bind, follows_outside still]
  refine iff_of_eq (congrArg (Obeys env _ _ · t (x, w)) ?_)
  funext r p
  cases r <;> rfl

end Node

end ShardCluster
