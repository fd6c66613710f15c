import ShardCluster.Cluster.Operations
import ShardCluster.Proofs.Execution

/-!
# What tasks and operations guarantee

`Ensures env I Q t s`: wherever the task `t`, begun in `s`, waits, `I` holds, and where it ends, `Q`
holds of its result. `Assures` is the same for operations that may fail, with a condition of its own
for failures. There is one rule for each way in which tasks, operations of nodes and operations of
clusters are put together; the proofs about an operation follow its steps with them.
-/

namespace ShardCluster

namespace Task

variable {S W X Y α β : Type} {env : S → S → Prop}

/-- **The guarantee of a task**: `I` wherever it waits, and `Q` of its result where it ends. -/
def Ensures (env : S → S → Prop) (I : S → Prop) (Q : α → S → Prop) (t : Task S α) (s : S) : Prop :=
  ∀ r s', Leads env t s r s' → r.elim (I s') (Q · s')

/-- Whatever holds before the task holds wherever it waits and when it ends. -/
def Keeps (env : S → S → Prop) (I : S → Prop) (t : Task S α) : Prop :=
  ∀ s, I s → Ensures env I (fun _ => I) t s

section Rules

variable {I J : S → Prop} {Q R : α → S → Prop} {s : S}

@[simp] lemma ensures_done {a : α} : Ensures env I Q (done a) s ↔ Q a s := by
  simp [Ensures]

@[simp] lemma ensures_act {effect : S → S} {next : S → Task S α} :
    Ensures env I Q (act effect next) s ↔ Ensures env I Q (next s) (effect s) := by
  simp [Ensures]

lemma ensures_pause {delay : Option Nat} {wake : S → Bool} {next : Task S α} :
    Ensures env I Q (pause delay wake next) s ↔
      I s ∧ ∀ s₁, env s s₁ → (delay.isSome ∨ wake s₁) → Ensures env I Q next s₁ := by
  constructor
  · intro h
    exact ⟨h none s (.wait ..), fun s₁ he hw r s' h' => h r s' (.resume he hw h')⟩
  · rintro ⟨hI, h⟩ r s' h'
    rcases leads_pause.1 h' with ⟨rfl, rfl⟩ | ⟨s₁, he, hw, h'⟩
    · exact hI
    · exact h s₁ he hw r s' h'

@[simp] lemma ensures_yield {Q : Unit → S → Prop} :
    Ensures env I Q yield s ↔ I s ∧ ∀ s₁, env s s₁ → Q () s₁ := by
  simp [yield, ensures_pause]

@[simp] lemma ensures_pure {a : α} : Ensures env I Q (pure a) s ↔ Q a s := ensures_done

theorem ensures_bind {Q : β → S → Prop} {t : Task S α} {f : α → Task S β} :
    Ensures env I Q (t >>= f) s ↔ Ensures env I (fun a s => Ensures env I Q (f a) s) t s := by
  constructor
  · rintro h (_ | a) s₁ h₁
    · exact h none s₁ (leads_bind.2 (.inl ⟨rfl, h₁⟩))
    · exact fun r s' h₂ => h r s' (leads_bind.2 (.inr ⟨a, s₁, h₁, h₂⟩))
  · intro h r s' h'
    rcases leads_bind.1 h' with ⟨rfl, h₁⟩ | ⟨a, s₁, h₁, h₂⟩
    · exact h none s' h₁
    · exact h (some a) s₁ h₁ r s' h₂

@[simp] lemma ensures_map {Q : β → S → Prop} {f : α → β} {t : Task S α} :
    Ensures env I Q (f <$> t) s ↔ Ensures env I (fun a s => Q (f a) s) t s := by
  show Ensures env I Q (t >>= fun a => pure (f a)) s ↔ _
  simp only [ensures_bind, ensures_pure]

theorem Ensures.mono {t : Task S α} (h : Ensures env I Q t s) (hI : ∀ s, I s → J s)
    (hQ : ∀ a s, Q a s → R a s) : Ensures env J R t s := by
  rintro (_ | a) s' h'
  · exact hI s' (h none s' h')
  · exact hQ a s' (h (some a) s' h')

lemma Ensures.and {I' : S → Prop} {Q' : α → S → Prop} {t : Task S α} (h : Ensures env I Q t s)
    (h' : Ensures env I' Q' t s) :
    Ensures env (fun s => I s ∧ I' s) (fun a s => Q a s ∧ Q' a s) t s := by
  rintro (_ | a) s' led
  · exact ⟨h _ _ led, h' _ _ led⟩
  · exact ⟨h _ _ led, h' _ _ led⟩

lemma ensures_iff_leads {t : Task S α} :
    Ensures env (fun _ => True) Q t s ↔ ∀ a s', Leads env t s (some a) s' → Q a s' := by
  constructor
  · exact fun h a s' led => h (some a) s' led
  · rintro h (_ | a) s' led
    · trivial
    · exact h a s' led

lemma ensures_of_forall {t : Task S α} (hI : ∀ s, I s) (hQ : ∀ a s, Q a s) :
    Ensures env I Q t s := by
  rintro (_ | a) s' -
  · exact hI s'
  · exact hQ a s'

lemma keeps_true {t : Task S α} : Keeps env (fun _ => True) t :=
  fun _ _ => ensures_of_forall (fun _ => trivial) fun _ _ => trivial

@[simp] lemma ensures_read {f : S → α} : Ensures env I Q (read f) s ↔ Q (f s) s := by
  simp [read]

@[simp] lemma ensures_update {f : S → S} {Q : Unit → S → Prop} :
    Ensures env I Q (update f) s ↔ Q () (f s) := by
  simp [update]

@[simp] lemma ensures_atomic {f : S → α × S} :
    Ensures env I Q (atomic f) s ↔ Q (f s).1 (f s).2 := by
  simp [atomic]

end Rules

section Parts

variable {env : W → W → Prop} {I : X × W → Prop} {x : X} {y : Y} {w : W}

lemma ensures_through {Q : α → X × W → Prop} {t : Task W α} :
    Ensures (Beside env) I Q (t.through (Part.second X W)) (x, w) ↔
      Ensures env (fun w => I (x, w)) (fun a w => Q a (x, w)) t w := by
  simp only [Ensures, leads_through]
  constructor
  · exact fun h r w' h' => h r (x, w') ⟨w', rfl, h'⟩
  · rintro h r s' ⟨w', rfl, h'⟩
    exact h r w' h'

lemma ensures_within (place : X → Option Y) (put : Y → X → X)
    (place_put : ∀ y x, place (put y x) = some y) (put_put : ∀ y y' x, put y' (put y x) = put y' x)
    (hp : place x = some y) (hx : put y x = x) {Q : Option α → X × W → Prop}
    {t : Task (Y × W) α} :
    Ensures (Beside env) I Q (t.within (fun s => (place s.1).map (·, s.2))
        (fun p s => (put p.1 s.1, p.2))) (x, w) ↔
      Ensures (Beside env) (fun p => I (put p.1 x, p.2)) (fun a p => Q (some a) (put p.1 x, p.2))
        t (y, w) := by
  simp only [Ensures, leads_within place_put put_put hp hx]
  constructor
  · intro h r p h'
    have := h (r.map some) _ ⟨r, p.1, p.2, rfl, rfl, h'⟩
    cases r <;> exact this
  · rintro h _ _ ⟨r, y', w', rfl, rfl, h'⟩
    have := h r (y', w') h'
    cases r <;> exact this

lemma ensures_within_missing {place : X → Option Y} {put : Y → X → X}
    {Q : Option α → X × W → Prop} {t : Task (Y × W) α} (missing : place x = none)
    (hI : ∀ w, I (x, w)) (hQ : ∀ a w, Q a (x, w)) :
    Ensures (Beside env) I Q (t.within (fun s => (place s.1).map (·, s.2))
      (fun p s => (put p.1 s.1, p.2))) (x, w) := by
  induction t generalizing w with
  | done a => exact ensures_done.2 (hQ _ w)
  | act effect next =>
    simp only [Task.within, ensures_act, missing, Option.map_none, ensures_done]
    exact hQ _ w
  | pause delay wake next ih =>
    refine ensures_pause.2 ⟨hI w, ?_⟩
    rintro ⟨_, w'⟩ ⟨rfl, -⟩ -
    exact ih

lemma ensures_owning {Q : α × Y → X × W → Prop} {t : Task (Y × W) α} :
    Ensures (Beside env) I Q (t.owning (Part.second X W) y) (x, w) ↔
      Ensures (Beside env) (fun p => I (x, p.2)) (fun a p => Q (a, p.1) (x, p.2)) t (y, w) := by
  simp only [Ensures, leads_owning]
  constructor
  · intro h r p h'
    have := h (r.map (·, p.1)) _ ⟨r, p.1, p.2, rfl, rfl, h'⟩
    cases r <;> exact this
  · rintro h _ _ ⟨r, y', w', rfl, rfl, h'⟩
    have := h r (y', w') h'
    cases r <;> exact this

end Parts

/-! ### Operations that may fail -/

section Operations

variable {ε : Type}

/-- **The guarantee of an operation**: `I` wherever it waits, `Q` of its result where it succeeds
and `E` of its error where it fails. -/
def Assures (env : S → S → Prop) (I : S → Prop) (Q : α → S → Prop) (E : ε → S → Prop)
    (x : ExceptT ε (Task S) α) (s : S) : Prop :=
  Ensures env I (fun r s => r.casesOn (E · s) (Q · s)) x.run s

variable {I J : S → Prop} {Q R : α → S → Prop} {E F : ε → S → Prop} {s : S}

@[simp] lemma assures_pure {a : α} : Assures env I Q E (pure a) s ↔ Q a s := by
  simp [Assures]

@[simp] lemma assures_throw {e : ε} : Assures env I Q E (throw e) s ↔ E e s := by
  simp [Assures]

@[simp] lemma assures_bind {Q : β → S → Prop} {x : ExceptT ε (Task S) α}
    {f : α → ExceptT ε (Task S) β} :
    Assures env I Q E (x >>= f) s ↔ Assures env I (fun a s => Assures env I Q E (f a) s) E x s := by
  simp only [Assures, ExceptT.run_bind, ensures_bind]
  refine iff_of_eq (congrArg (Ensures env I · _ s) ?_)
  funext r s
  cases r <;> simp

@[simp] lemma assures_tryCatch {x : ExceptT ε (Task S) α} {f : ε → ExceptT ε (Task S) α} :
    Assures env I Q E (tryCatch x f) s ↔
      Assures env I Q (fun e s => Assures env I Q E (f e) s) x s := by
  show Ensures env I _ (x.run >>= _) s ↔ _
  rw [ensures_bind]
  refine iff_of_eq (congrArg (Ensures env I · x.run s) ?_)
  funext r s
  cases r
  · rfl
  · exact propext ensures_done

@[simp] lemma assures_liftM {t : Task S α} :
    Assures env I Q E (liftM t : ExceptT ε (Task S) α) s ↔ Ensures env I Q t s := by
  show Ensures env I _ (Except.ok <$> t) s ↔ _
  simp only [ensures_map]

@[simp] lemma assures_liftExcept {x : Except ε α} :
    Assures env I Q E (liftM x : ExceptT ε (Task S) α) s ↔ x.casesOn (E · s) (Q · s) := by
  exact ensures_done

lemma assures_ite {c : Prop} [Decidable c] {x y : ExceptT ε (Task S) α} :
    Assures env I Q E (if c then x else y) s ↔
      if c then Assures env I Q E x s else Assures env I Q E y s := by
  split <;> rfl

theorem Assures.mono {x : ExceptT ε (Task S) α} (h : Assures env I Q E x s)
    (hI : ∀ s, I s → J s) (hQ : ∀ a s, Q a s → R a s) (hE : ∀ e s, E e s → F e s) :
    Assures env J R F x s := by
  refine Ensures.mono h hI ?_
  rintro (e | a) s
  · exact hE e s
  · exact hQ a s

lemma Assures.of_infallible {x : ExceptT ε (Task S) α}
    (h : Assures env I Q (fun _ _ => False) x s) (hQ : ∀ a s, Q a s → R a s) :
    Assures env I R E x s :=
  h.mono (fun _ waits => waits) hQ fun _ _ => False.elim

lemma Assures.and {I' : S → Prop} {Q' : α → S → Prop} {E' : ε → S → Prop} {x : ExceptT ε (Task S) α}
    (h : Assures env I Q E x s) (h' : Assures env I' Q' E' x s) :
    Assures env (fun s => I s ∧ I' s) (fun a s => Q a s ∧ Q' a s) (fun e s => E e s ∧ E' e s)
      x s := by
  rintro (_ | _ | _) s' led
  · exact ⟨h _ _ led, h' _ _ led⟩
  · exact ⟨h _ _ led, h' _ _ led⟩
  · exact ⟨h _ _ led, h' _ _ led⟩

lemma assures_leads {x : ExceptT ε (Task S) α} : Assures env (Leads env x.run s none)
    (fun a => Leads env x.run s (some (.ok a))) (fun e => Leads env x.run s (some (.error e)))
    x s := by
  rintro (_ | _ | _) s' led
  · exact led
  · exact led
  · exact led

/-- What an operation guarantees determines where it leads. -/
lemma leads_iff_of_assures_iff {x : ExceptT ε (Task S) α} {s' : S} {C : Except ε α → S → Prop}
    {r : Except ε α} (h : ∀ R : Except ε α → S → Prop, Assures env (fun _ => True)
      (fun a => R (.ok a)) (fun e => R (.error e)) x s ↔ ∀ r s', C r s' → R r s') :
    Leads env x.run s (some r) s' ↔ C r s' := by
  constructor
  · intro led
    have := (h C).2 (fun _ _ ends => ends) _ _ led
    rcases r with e | a
    · exact this
    · exact this
  · exact (h fun r s' => Leads env x.run s (some r) s').1
      (assures_leads.mono (fun _ _ => trivial) (fun _ _ led => led) fun _ _ led => led) r s'

lemma Ensures.holds {I : S → Prop} {t : Task S α} {r : Option α} {s' : S}
    (h : Ensures env I (fun _ => I) t s) (led : Leads env t s r s') : I s' := by
  have := h r s' led
  cases r with
  | none => exact this
  | some _ => exact this

lemma Assures.holds {I : S → Prop} {x : ExceptT ε (Task S) α} {r : Option (Except ε α)} {s' : S}
    (h : Assures env I (fun _ => I) (fun _ => I) x s) (led : Leads env x.run s r s') : I s' := by
  have := h r s' led
  rcases r with _ | _ | _
  · exact this
  · exact this
  · exact this

lemma assures_of_forall {x : ExceptT ε (Task S) α} (hI : ∀ s, I s) (hQ : ∀ a s, Q a s)
    (hE : ∀ e s, E e s) : Assures env I Q E x s := by
  refine ensures_of_forall hI ?_
  rintro (e | a) s
  · exact hE e s
  · exact hQ a s

end Operations

end Task

open ShardCluster.Task (Ensures Assures Beside)

/-! ### How an operation ended -/

lemma eq_ok_get {ε α : Type} {x : Except ε α} (h : x.toOption.isSome) :
    x = .ok (x.toOption.get h) := by
  cases x with
  | error e => cases h
  | ok a => rfl

lemma exists_eq_some_ok {ε α : Type} {x : Option (Except ε α)}
    (h : x.map Except.toBool = some true) : ∃ a, x = some (.ok a) := by
  rcases x with _ | (e | a)
  · cases h
  · cases h
  · exact ⟨a, rfl⟩

lemma eq_some_ok {ε : Type} {x : Option (Except ε Unit)} (h : x.map Except.toBool = some true) :
    x = some (.ok ()) :=
  (exists_eq_some_ok h).elim fun _ ended => ended

lemma eq_some_error {ε α : Type} {x : Option (Except ε α)} (h : x.map Except.toBool = some false) :
    ∃ e, x = some (.error e) := by
  rcases x with _ | (e | _)
  · cases h
  · exact ⟨e, rfl⟩
  · cases h

/-! ### Operations of a node -/

namespace Node

variable {P W α ε : Type} {env : W → W → Prop} {I : Node P × W → Prop} {Q : α → Node P × W → Prop}
  {E : ClusterError → Node P × W → Prop} {n : Node P} {w : W}

@[simp] lemma assures_current {Q : Node P → Node P × W → Prop} :
    Assures (Beside env) I Q E current (n, w) ↔ Q n (n, w) := by
  simp [current]

@[simp] lemma assures_change {Q : Unit → Node P × W → Prop} {f : Node P → Node P} :
    Assures (Beside env) I Q E (change f) (n, w) ↔ Q () (f n, w) := by
  simp [change]

@[simp] lemma assures_outside {t : Task W α} :
    Assures (Beside env) I Q E (outside t) (n, w) ↔
      Ensures env (fun w => I (n, w)) (fun a w => Q a (n, w)) t w := by
  simp only [outside, Task.assures_liftM, Task.ensures_through]

@[simp] lemma assures_attempt {meaning : ε → ClusterError} {t : Task W (Except ε α)} :
    Assures (Beside env) I Q E (attempt meaning t) (n, w) ↔
      Ensures env (fun w => I (n, w))
        (fun r w => r.casesOn (fun e => E (meaning e) (n, w)) (fun a => Q a (n, w))) t w := by
  simp only [attempt, Task.assures_bind, assures_outside]
  refine iff_of_eq (congrArg (Ensures env _ · t w) ?_)
  funext r w
  cases r <;> simp

section CleaningUp

variable {host : Host P W}

/-- what is left of a clean-up once the server is down -/
def removeDirectory (host : Host P W) (n : Node P) : NodeAction P W Unit := do
  if n.claimed then
    match ← outside (host.storage.removeTree n.identity.dataDirectory) with
    | .ok () | .error .notFound => pure ()
    | .error e =>
      throw (n.cleanupError ("cannot remove " ++ n.identity.dataDirectory.display ++ ": "
        ++ e.message))
  change fun n => { n with phase := .cleanedUp }

lemma cleanup_eq : (cleanup host : NodeAction P W Unit) = (do
    let n ← current
    if n.phase = .cleanedUp then return ()
    stop host
    removeDirectory host n) := rfl

end CleaningUp

section Keeping

variable {host : Host P W} {J : W → Prop}

lemma attempt_keeps {meaning : ε → ClusterError} {t : Task W (Except ε α)}
    (ht : Task.Keeps env J t) (h : J w) (hI : ∀ w, J w → I (n, w)) (hQ : ∀ a w, J w → Q a (n, w))
    (hE : ∀ e w, J w → E (meaning e) (n, w)) :
    Assures (Beside env) I Q E (attempt meaning t) (n, w) := by
  refine assures_attempt.2 ((ht w h).mono hI ?_)
  rintro (e | a) w hw
  · exact hE e w hw
  · exact hQ a w hw

lemma checkVacant_keeps {Q : Unit → Node P × W → Prop} {m : Node P}
    (pathExists : ∀ path, Task.Keeps env J (host.storage.pathExists path))
    (namesIn : ∀ path, Task.Keeps env J (host.storage.namesIn path)) (h : J w)
    (hI : ∀ w, J w → I (n, w)) (hQ : ∀ w, J w → Q () (n, w))
    (hE : ∀ reason w, J w → E (m.initError reason) (n, w)) :
    Assures (Beside env) I Q E (checkVacant host m) (n, w) := by
  unfold checkVacant
  simp only [Task.assures_bind]
  refine attempt_keeps (pathExists _) h hI (fun found w hw => ?_) fun _ => hE _
  cases found
  · simpa using hQ w hw
  · simp only [if_true, Task.assures_bind]
    refine attempt_keeps (namesIn _) hw hI (fun names w hw => ?_) fun _ => hE _
    rw [Task.assures_ite]
    split
    · exact Task.assures_throw.2 (hE _ w hw)
    · exact Task.assures_pure.2 (hQ w hw)

lemma runSql_keeps {I : W → Prop} {Q : String → W → Prop} {E : ClusterError → W → Prop}
    {database statement : String}
    (ht : Task.Keeps env J (host.engine.execute n.port database statement)) (h : J w)
    (hI : ∀ w, J w → I w) (hQ : ∀ text w, J w → Q text w)
    (hE : ∀ message w, J w → E (n.queryError statement message) w) :
    Assures env I Q E (n.runSql host database statement) w := by
  unfold runSql
  simp only [Task.assures_bind, Task.assures_ite]
  split
  · exact Task.assures_throw.2 (hE _ w h)
  · refine Task.assures_liftM.2 ((ht w h).mono hI ?_)
    rintro (e | text) w hw
    · exact Task.assures_throw.2 (hE _ w hw)
    · exact Task.assures_pure.2 (hQ text w hw)

lemma installExtension_keeps {I : W → Prop} {Q : Unit → W → Prop} {E : ClusterError → W → Prop}
    {dbname : String}
    (ht : Task.Keeps env J (host.engine.execute n.port dbname Sql.installSharding)) (h : J w)
    (hI : ∀ w, J w → I w) (hQ : ∀ w, J w → Q () w)
    (hE : ∀ message w, J w → E (.install n.name shardingExtension message) w) :
    Assures env I Q E (Cluster.installExtension host n dbname) w := by
  unfold Cluster.installExtension
  simp only [Task.assures_bind, Task.assures_tryCatch]
  exact runSql_keeps ht h hI (fun _ w hw => Task.assures_pure.2 (hQ w hw))
    fun _ w hw => Task.assures_throw.2 (hE _ w hw)

end Keeping

end Node

/-! ### Operations of a cluster -/

namespace Cluster

variable {P W α : Type} {env : W → W → Prop} {I : Cluster P × W → Prop}
  {Q : α → Cluster P × W → Prop} {E : ClusterError → Cluster P × W → Prop} {c : Cluster P}
  {n : Node P} {w : W}

@[simp] lemma assures_current {Q : Cluster P → Cluster P × W → Prop} :
    Assures (Beside env) I Q E current (c, w) ↔ Q c (c, w) := by
  simp [current]

@[simp] lemma assures_change {Q : Unit → Cluster P × W → Prop} {f : Cluster P → Cluster P} :
    Assures (Beside env) I Q E (change f) (c, w) ↔ Q () (f c, w) := by
  simp [change]

@[simp] lemma assures_outside {x : ExceptT ClusterError (Task W) α} :
    Assures (Beside env) I Q E (outside x) (c, w) ↔
      Assures env (fun w => I (c, w)) (fun a w => Q a (c, w)) (fun e w => E e (c, w)) x w := by
  exact Task.ensures_through

/-- the cluster with a node in the coordinator's place -/
def withLead (c : Cluster P) (n : Node P) : Cluster P := { c with coordinator := some n }

/-- the cluster with a node in the place of a new worker -/
def withNewcomer (c : Cluster P) (n : Node P) : Cluster P := { c with onboarding := some n }

@[simp] lemma withLead_withLead {n' : Node P} : (c.withLead n).withLead n' = c.withLead n' := rfl

@[simp] lemma withNewcomer_withNewcomer {n' : Node P} :
    (c.withNewcomer n).withNewcomer n' = c.withNewcomer n' := rfl

lemma assures_onCoordinator {x : NodeAction P W α}
    (h : Assures (Beside env) (fun p => I (c.withLead p.1, p.2))
      (fun a p => Q a (c.withLead p.1, p.2)) (fun e p => E e (c.withLead p.1, p.2)) x (n, w)) :
    Assures (Beside env) I Q E (onCoordinator x) (c.withLead n, w) := by
  simp only [onCoordinator, Task.assures_bind, Task.assures_liftM]
  refine (Task.ensures_within Cluster.coordinator (fun n c => c.withLead n) (fun _ _ => rfl)
    (fun _ _ _ => rfl) rfl rfl).2 (Ensures.mono h ?_ ?_)
  · exact fun _ h => h
  · rintro (e | a) p h <;> simpa using h

lemma assures_onOnboarding {x : NodeAction P W α}
    (h : Assures (Beside env) (fun p => I (c.withNewcomer p.1, p.2))
      (fun a p => Q a (c.withNewcomer p.1, p.2)) (fun e p => E e (c.withNewcomer p.1, p.2))
      x (n, w)) :
    Assures (Beside env) I Q E (onOnboarding x) (c.withNewcomer n, w) := by
  simp only [onOnboarding, Task.assures_bind, Task.assures_liftM]
  refine (Task.ensures_within Cluster.onboarding (fun n c => c.withNewcomer n) (fun _ _ => rfl)
    (fun _ _ _ => rfl) rfl rfl).2 (Ensures.mono h ?_ ?_)
  · exact fun _ h => h
  · rintro (e | a) p h <;> simpa using h

section Releasing

variable {host : Host P W} {Q : Unit → Cluster P × W → Prop}

lemma assures_releaseCoordinator (there : c.coordinator = some n)
    (h : Assures (Beside env) (fun p => I (c.withLead p.1, p.2))
      (fun _ p => Q () ({ c with coordinator := none }, p.2))
      (fun _ p => Q () (settle p.1 false { c with coordinator := none }, p.2))
      (Node.cleanup host) (n, w)) :
    Assures (Beside env) I Q E (releaseCoordinator host) (c, w) := by
  have whole : c.withLead n = c := by
    cases c
    cases there
    rfl
  unfold releaseCoordinator
  simp only [Task.assures_bind, assures_current, there, Option.isSome_some, if_true,
    Task.assures_tryCatch]
  rw [← whole]
  exact assures_onCoordinator (h.mono (fun _ hp => hp)
    (fun _ _ hp => Task.assures_pure.2 (assures_change.2 hp))
    fun _ _ hp => Task.assures_pure.2 (assures_change.2 hp))

lemma assures_releaseOnboarding (there : c.onboarding = some n)
    (h : Assures (Beside env) (fun p => I (c.withNewcomer p.1, p.2))
      (fun _ p => Q () ({ c with onboarding := none }, p.2))
      (fun _ p => Q () (settle p.1 false { c with onboarding := none }, p.2))
      (Node.cleanup host) (n, w)) :
    Assures (Beside env) I Q E (releaseOnboarding host) (c, w) := by
  have whole : c.withNewcomer n = c := by
    cases c
    cases there
    rfl
  unfold releaseOnboarding
  simp only [Task.assures_bind, assures_current, there, Option.isSome_some, if_true,
    Task.assures_tryCatch]
  rw [← whole]
  exact assures_onOnboarding (h.mono (fun _ hp => hp)
    (fun _ _ hp => Task.assures_pure.2 (assures_change.2 hp))
    fun _ _ hp => Task.assures_pure.2 (assures_change.2 hp))

end Releasing

end Cluster

end ShardCluster
