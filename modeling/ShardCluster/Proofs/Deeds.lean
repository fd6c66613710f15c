import ShardCluster.Proofs.NodeAccounts
import ShardCluster.Proofs.Traces

/-!
# Deeds

Of the calls that are made of a host, some act on a node: its data directory is set up, settings
are added, and its server is started, stopped and given statements (`Trace.deeds`). `Done` says of
such calls that they have been made one after the other and have all come back without failure,
`Proceeds` that only the last of them may still be under way or have failed.

What is asked of a host while a node is set up, gets the extension and is cleaned up:
`Node.prepare_deeds`, `Node.installExtension_deeds`, `Node.cleanup_deeds`.
-/

namespace ShardCluster

open ShardCluster.Task (Ensures Assures Beside)

variable {P W : Type}

/-- whether a call acts on a node, and not only on files or on nothing -/
def HostCall.isDeed : HostCall P → Bool
  | .init _ | .start _ | .stop _ | .execute _ _ _ | .append _ _ => true
  | _ => false

def HostCall.isStop : HostCall P → Bool
  | .stop _ => true
  | _ => false

/-- the call that an entry is about -/
def TraceEntry.call : TraceEntry P W → HostCall P
  | made call _ => call
  | answered call _ => call

namespace Trace

/-- the entries about calls that act on a node -/
def deeds (t : Trace P W) : Trace P W := t.filter (·.call.isDeed)

lemma deeds_append {t t' : Trace P W} : deeds (t ++ t') = t.deeds ++ t'.deeds :=
  List.filter_append ..

end Trace

/-! ### How far some steps get -/

section Steps

variable {steps before left : List (HostCall P)} {ds : Trace P W} {call : HostCall P} {w : W}

/-- **Calls that are done**: each was made once, one after the other, and none has failed. -/
inductive Done : List (HostCall P) → Trace P W → Prop
  | nil : Done [] []
  | snoc {before : List (HostCall P)} {ds : Trace P W} (call : HostCall P) (w : W) {a : Answer P} :
      Done before ds → a ≠ .failed →
      Done (before ++ [call]) (ds ++ [.made call w, .answered call a])

/-- **How far some steps get**: the first of them are done, and of those that are left, the next one
may be under way or have failed. -/
inductive Proceeds (steps : List (HostCall P)) : Trace P W → List (HostCall P) → Prop
  | rests {before left : List (HostCall P)} {ds : Trace P W} :
      steps = before ++ left → Done before ds → Proceeds steps ds left
  | waits {before left : List (HostCall P)} {ds : Trace P W} (call : HostCall P) (w : W) :
      steps = before ++ call :: left → Done before ds →
      Proceeds steps (ds ++ [.made call w]) (call :: left)
  | fails {before left : List (HostCall P)} {ds : Trace P W} (call : HostCall P) (w : W) :
      steps = before ++ call :: left → Done before ds →
      Proceeds steps (ds ++ [.made call w, .answered call .failed]) (call :: left)

lemma Done.mem_of_mem {e : TraceEntry P W} (h : Done before ds) (he : e ∈ ds) :
    e.call ∈ before := by
  induction h with
  | nil => cases he
  | snoc call w _ _ ih =>
    rcases List.mem_append.1 he with he | he
    · exact List.mem_append_left _ (ih he)
    · have : e.call = call := by
        rcases List.mem_pair.1 he with rfl | rfl <;> rfl
      exact List.mem_append_right _ (List.mem_singleton.2 this)

lemma Done.eq_nil (h : Done before ([] : Trace P W)) : before = [] := by
  generalize none_done : ([] : Trace P W) = ds at h
  cases h with
  | nil => rfl
  | snoc => simp at none_done

lemma Proceeds.mem_of_mem {e : TraceEntry P W} (h : Proceeds steps ds left) (he : e ∈ ds) :
    e.call ∈ steps := by
  cases h with
  | rests parts done => exact parts ▸ List.mem_append_left _ (done.mem_of_mem he)
  | waits call w parts done =>
    rw [parts]
    rcases List.mem_append.1 he with he | he
    · exact List.mem_append_left _ (done.mem_of_mem he)
    · obtain rfl := List.mem_singleton.1 he
      exact List.mem_append_right _ List.mem_cons_self
  | fails call w parts done =>
    rw [parts]
    rcases List.mem_append.1 he with he | he
    · exact List.mem_append_left _ (done.mem_of_mem he)
    · have : e.call = call := by
        rcases List.mem_pair.1 he with rfl | rfl <;> rfl
      exact List.mem_append_right _ (this ▸ List.mem_cons_self)

lemma Proceeds.answered_of_done (h : Proceeds (before ++ [call]) ds []) :
    ∃ a, a ≠ .failed ∧ .answered call a ∈ ds := by
  cases h with
  | rests parts done =>
    rw [List.append_nil] at parts
    generalize all : before ++ [call] = steps at parts
    cases done with
    | nil => simp_all
    | @snoc _ _ _ w a _ fine =>
      obtain ⟨-, same⟩ := List.append_inj' (all.trans parts) rfl
      cases same
      exact ⟨a, fine, by simp⟩

lemma Proceeds.append {more : List (HostCall P)} (h : Proceeds steps ds left) :
    Proceeds (steps ++ more) ds (left ++ more) := by
  cases h with
  | rests parts done => exact .rests (by rw [parts, List.append_assoc]) done
  | waits call w parts done =>
    exact .waits call w (by rw [parts, List.append_assoc]; rfl) done
  | fails call w parts done =>
    exact .fails call w (by rw [parts, List.append_assoc]; rfl) done

end Steps

/-! ### While steps are taken -/

/-- Each call was made in a world that is as it should be for it. -/
def Sees (V : HostCall P → W → Prop) (ds : Trace P W) : Prop :=
  ∀ call w, .made call w ∈ ds → V call w

/-- Since the deeds `d`, these calls are done. -/
def Trace.Had (V : HostCall P → W → Prop) (d : Trace P W) (before : List (HostCall P))
    (t : Trace P W) : Prop :=
  ∃ ds, t.deeds = d ++ ds ∧ Done before ds ∧ Sees V ds

/-- Since the deeds `d`, these steps have got so far that some are left. -/
def Trace.Amid (V : HostCall P → W → Prop) (d : Trace P W) (steps : List (HostCall P))
    (t : Trace P W) : Prop :=
  ∃ ds left, t.deeds = d ++ ds ∧ Proceeds steps ds left ∧ left ≠ [] ∧ Sees V ds

section Taking

variable {α : Type} {V : HostCall P → W → Prop} {d l : Trace P W}
  {before steps left : List (HostCall P)} {call : HostCall P} {w : W} {env : W → W → Prop}
  {host : Host P W}

lemma Sees.append {ds ds' : Trace P W} (h : Sees V ds) (h' : Sees V ds') : Sees V (ds ++ ds') :=
  fun call w he => (List.mem_append.1 he).elim (h call w) (h' call w)

lemma Trace.had_nil : Trace.Had V l.deeds [] l :=
  ⟨[], (List.append_nil _).symm, .nil, nofun⟩

lemma Trace.Had.amid (h : Trace.Had V d before l) (parts : steps = before ++ left)
    (ne : left ≠ []) : Trace.Amid V d steps l := by
  obtain ⟨ds, deeds, done, sees⟩ := h
  exact ⟨ds, left, deeds, .rests parts done, ne, sees⟩

variable (steps) in
/-- **One step**: it is under way, has failed or is done. -/
lemma ensures_step {answer : α → Answer P} {K : α → W → Prop} {t : Task W α}
    (h : Trace.Had V d before l) (parts : steps = before ++ call :: left) (deed : call.isDeed)
    (sees : V call w) (inner : Ensures env (fun _ => True) K t w) :
    Ensures (Beside env) (fun s => Trace.Amid V d steps s.1)
      (fun a s => K a s.2 ∧ (answer a = .failed → Trace.Amid V d steps s.1) ∧
        (answer a ≠ .failed → Trace.Had V d (before ++ [call]) s.1))
      (tracing call answer t) (l, w) := by
  obtain ⟨ds, deeds, done, saw⟩ := h
  have sees (ds' : Trace P W) (now : ∀ call' w', .made call' w' ∈ ds' → call' = call ∧ w' = w) :
      Sees V (ds ++ ds') := by
    refine saw.append fun call' w' he => ?_
    obtain ⟨rfl, rfl⟩ := now call' w' he
    exact sees
  have more (ds' : Trace P W) (about : ∀ e ∈ ds', e.call = call) :
      (l ++ ds').deeds = d ++ (ds ++ ds') := by
    have all : Trace.deeds ds' = ds' := List.filter_eq_self.2 fun e he => by rw [about e he, deed]
    rw [Trace.deeds_append, deeds, all, List.append_assoc]
  refine ensures_tracing.2 (inner.mono (fun w' _ => ?_) fun a w' ha =>
    ⟨ha, fun failed => ?_, fun fine => ?_⟩)
  · exact ⟨_, _, more [_] (by simp [TraceEntry.call]), .waits call w parts done, by simp,
      sees _ (by simp)⟩
  · rw [failed]
    exact ⟨_, _, more [_, _] (by simp [TraceEntry.call]), .fails call w parts done, by simp,
      sees _ (by simp)⟩
  · exact ⟨_, more [_, _] (by simp [TraceEntry.call]), .snoc call w done fine, sees _ (by simp)⟩

lemma keeps_had {answer : α → Answer P} {t : Task W α} (no_deed : call.isDeed = false) :
    Task.Keeps (Beside env) (fun s => Trace.Had V d before s.1) (tracing call answer t) := by
  have same (l : Trace P W) (e : TraceEntry P W) (about : e.call = call)
      (h : Trace.Had V d before l) : Trace.Had V d before (l ++ [e]) := by
    have nothing : (l ++ [e]).deeds = Trace.deeds l := by
      rw [Trace.deeds_append]
      simp [Trace.deeds, about, no_deed]
    unfold Trace.Had
    rwa [nothing]
  exact keeps_tracing (fun l w => same l _ rfl) fun l a => same l _ rfl

end Taking

/-! ### Setting a node up -/

namespace Node

variable {V : HostCall P → W → Prop} {d l : Trace P W} {before steps left : List (HostCall P)}
  {w : W} {env : W → W → Prop} {host : Host P W} {i : Identity} {timeout : Duration}
  {settings : String}

/-- what it takes to launch the server of a node -/
def launching (i : Identity) (timeout : Duration) : Launch where
  dataDirectory := i.engineDirectory
  port := i.port
  logFile := i.logFile
  timeout := timeout

/-- what is asked of an engine and its storage to set a node up and start it -/
def preparing (host : Host P W) (i : Identity) (timeout : Duration) (settings : String) :
    List (HostCall P) :=
  [.init i.engineDirectory,
    .append (host.engine.configFile i.engineDirectory) (Utf8.encode (configBlock settings)),
    .start (launching i timeout)]

/-- A node that has been set up. -/
def initialized (i : Identity) (timeout : Duration) : Node P where
  identity := i
  phase := .initialized
  process := none
  startTimeout := timeout
  claimed := true

lemma init_deeds (calm : ∀ w, V (.init i.engineDirectory) w) (h : Trace.Had V d [] l) :
    Assures (Beside (Beside env))
      (fun p => Trace.Amid V d (preparing host i timeout settings) p.2.1)
      (fun _ p => p.1 = initialized i timeout ∧ Trace.Had V d [.init i.engineDirectory] p.2.1)
      (fun _ p => Trace.Amid V d (preparing host i timeout settings) p.2.1)
      (init host.traced) (.create i timeout, l, w) := by
  have amid (s : Trace P W × W) (h : Trace.Had V d [] s.1) :
      Trace.Amid V d (preparing host i timeout settings) s.1 := h.amid rfl (List.cons_ne_nil _ _)
  have asks (call : HostCall P) (no_deed : call.isDeed = false) {α : Type} (answer : α → Answer P)
      (t : Task W α) : Task.Keeps (Beside env) (fun s => Trace.Had V d [] s.1)
        (tracing call answer t) := keeps_had no_deed
  unfold init
  simp only [Task.assures_bind, assures_current, create, ne_eq, not_true_eq_false, if_false]
  refine checkVacant_keeps (J := fun s => Trace.Had V d [] s.1)
    (fun path => asks (.pathExists path) rfl _ _) (fun path => asks (.namesIn path) rfl _ _) h amid
    (fun s h => ?_) fun _ => amid
  simp only [assures_outside]
  refine (asks (.portAvailable _) rfl _ _ s h).mono amid fun free s h => ?_
  cases free
  · simpa using amid s h
  simp only [Bool.not_true, Bool.false_eq_true, if_false, Task.assures_bind, assures_change,
    assures_attempt]
  refine (asks (.createDirectories _) rfl _ _ s h).mono amid ?_
  rintro (e | _) s h
  · exact amid s h
  obtain ⟨l, w⟩ := s
  refine (ensures_step (K := fun _ _ => True) _ h rfl rfl (calm w)
    (Task.ensures_of_forall (fun _ => trivial) fun _ _ => trivial)).mono (fun _ h => h) ?_
  rintro (e | _) s ⟨-, failed, fine⟩
  · exact failed rfl
  · exact ⟨rfl, fine (by simp [Answer.ofExcept])⟩

/-- **Setting a node up**: each step is taken once, and in this order. -/
theorem prepare_deeds (calm : ∀ call w, (∀ launch, call ≠ .start launch) → V call w)
    (added : ∀ w, Ensures env (fun _ => True)
      (fun r w' => r.isOk → V (.start (launching i timeout)) w')
      (host.storage.append (host.engine.configFile i.engineDirectory)
        (Utf8.encode (configBlock settings))) w) :
    Assures (Beside (Beside env))
      (fun p => Trace.Amid V l.deeds (preparing host i timeout settings) p.2.1)
      (fun _ p => Trace.Had V l.deeds (preparing host i timeout settings) p.2.1)
      (fun _ p => Trace.Amid V l.deeds (preparing host i timeout settings) p.2.1)
      (Cluster.prepare host.traced settings) (.create i timeout, l, w) := by
  unfold Cluster.prepare
  simp only [Task.assures_bind]
  refine (init_deeds (fun w => calm _ w (by simp)) Trace.had_nil).mono (fun _ h => h) ?_
    fun _ _ h => h
  rintro - ⟨_, l', w'⟩ ⟨rfl, h⟩
  unfold appendConfig
  simp only [Task.assures_bind, assures_current, initialized, reduceCtorEq, or_self, if_false,
    assures_attempt]
  refine (ensures_step (preparing host i timeout settings) h rfl rfl (calm _ _ (by simp))
    (added w')).mono (fun _ h => h) ?_
  rintro (e | _) ⟨l', w'⟩ ⟨ready, failed, fine⟩
  · exact failed rfl
  have h := fine (by simp [Answer.ofExcept])
  unfold start
  simp only [Task.assures_bind, assures_current, ne_eq, not_true_eq_false, false_and, if_false,
    assures_attempt, assures_change]
  refine (ensures_step (K := fun _ _ => True) (preparing host i timeout settings) h rfl rfl
    (ready rfl) (Task.ensures_of_forall (fun _ => trivial) fun _ _ => trivial)).mono
    (fun _ h => h) ?_
  rintro (e | p) s ⟨-, failed, fine⟩
  · exact failed rfl
  · exact fine (by simp [Answer.ofStart])

/-! ### Statements -/

lemma runSql_deeds {n : Node P} {database statement : String} (running : n.phase = .running)
    (h : Trace.Had V d before l)
    (parts : steps = before ++ .execute n.port database statement :: left)
    (sees : V (.execute n.port database statement) w) :
    Assures (Beside env) (fun s => Trace.Amid V d steps s.1)
      (fun _ s => Trace.Had V d (before ++ [.execute n.port database statement]) s.1)
      (fun _ s => Trace.Amid V d steps s.1) (n.runSql host.traced database statement) (l, w) := by
  unfold runSql
  simp only [Task.assures_bind, running, ne_eq, not_true_eq_false, if_false, Task.assures_liftM]
  refine (ensures_step (K := fun _ _ => True) _ h parts rfl sees
    (Task.ensures_of_forall (fun _ => trivial) fun _ _ => trivial)).mono (fun _ h => h) ?_
  rintro (e | text) s ⟨-, failed, fine⟩
  · exact Task.assures_throw.2 (failed rfl)
  · exact Task.assures_pure.2 (fine (by simp [Answer.ofExcept]))

lemma installExtension_deeds {n : Node P} {dbname : String} (running : n.phase = .running)
    (h : Trace.Had V d before l)
    (parts : steps = before ++ .execute n.port dbname Sql.installSharding :: left)
    (sees : V (.execute n.port dbname Sql.installSharding) w) :
    Assures (Beside env) (fun s => Trace.Amid V d steps s.1)
      (fun _ s => Trace.Had V d (before ++ [.execute n.port dbname Sql.installSharding]) s.1)
      (fun _ s => Trace.Amid V d steps s.1) (Cluster.installExtension host.traced n dbname)
      (l, w) := by
  unfold Cluster.installExtension
  simp only [Task.assures_bind, Task.assures_tryCatch]
  refine (runSql_deeds running h parts sees).mono (fun _ h => h) (fun _ _ h => ?_) fun e _ h => ?_
  · exact Task.assures_pure.2 h
  · cases e <;> exact Task.assures_throw.2 h

/-! ### Cleaning a node up -/

/-- Since the deeds `d`, an engine has only been asked to stop servers, and it has been asked if the
node was running. -/
def Stopping (d : Trace P W) (n : Node P) (t : Trace P W) : Prop :=
  ∃ ds, t.deeds = d ++ ds ∧ (∀ e ∈ ds, e.call.isStop) ∧ (n.phase = .running → ds ≠ [])

lemma stop_deeds {n : Node P} (sound : n.Sound) : Assures (Beside (Beside env))
    (fun p => Stopping l.deeds n p.2.1) (fun _ p => Stopping l.deeds n p.2.1)
    (fun _ p => Stopping l.deeds n p.2.1) (stop host.traced) (n, l, w) := by
  unfold stop
  simp only [Task.assures_bind, assures_current, Task.assures_ite]
  split
  · rename_i idle
    exact Task.assures_pure.2
      ⟨[], (List.append_nil _).symm, by simp, fun running => absurd running idle⟩
  rename_i running
  obtain ⟨p, serving⟩ := sound.server (not_not.1 running)
  have asked (ds : Trace P W) (about : ∀ e ∈ ds, e.call = .stop p) (ne : ds ≠ []) :
      Stopping l.deeds n (l ++ ds) := by
    refine ⟨ds, ?_, fun e he => by rw [about e he]; rfl, fun _ => ne⟩
    rw [Trace.deeds_append]
    exact congrArg _ (List.filter_eq_self.2 fun e he => by rw [about e he]; rfl)
  simp only [serving, Task.assures_bind, assures_attempt]
  refine ensures_traced (fun _ => asked _ (by simp [TraceEntry.call]) (by simp)) fun r w' => ?_
  have asked := asked [.made (.stop p) w, .answered (.stop p) (.ofExcept r)]
    (by simp [TraceEntry.call]) (by simp)
  cases r with
  | error e => exact asked
  | ok _ => exact assures_change.2 asked

/-- **Cleaning a node up** asks an engine for nothing but to stop its server. -/
theorem cleanup_deeds {n : Node P} (sound : n.Sound) : Assures (Beside (Beside env))
    (fun p => Stopping l.deeds n p.2.1) (fun _ p => Stopping l.deeds n p.2.1)
    (fun _ p => Stopping l.deeds n p.2.1) (cleanup host.traced) (n, l, w) := by
  unfold cleanup
  simp only [Task.assures_bind, assures_current, Task.assures_ite]
  split
  · rename_i gone
    exact Task.assures_pure.2
      ⟨[], (List.append_nil _).symm, by simp, fun running => by simp [gone] at running⟩
  refine (stop_deeds sound).mono (fun _ h => h) ?_ fun _ _ h => h
  rintro - ⟨m, s⟩ h
  split
  · -- removing the directory is about files
    have removal : Task.Keeps (Beside env) (fun s => Stopping l.deeds n s.1)
        (host.traced.storage.removeTree n.identity.dataDirectory) := by
      have same (t : Trace P W) (e : TraceEntry P W)
          (about : e.call = .removeTree n.identity.dataDirectory) (h : Stopping l.deeds n t) :
          Stopping l.deeds n (t ++ [e]) := by
        have nothing : (t ++ [e]).deeds = Trace.deeds t := by
          rw [Trace.deeds_append]
          simp [Trace.deeds, about, HostCall.isDeed]
        unfold Stopping
        rwa [nothing]
      exact keeps_tracing (fun t w => same t _ rfl) fun t a => same t _ rfl
    simp only [assures_outside]
    refine (removal s h).mono (fun _ h => h) fun r s h => ?_
    split
    · exact assures_change.2 h
    · exact assures_change.2 h
    · exact Task.assures_throw.2 h
  · exact assures_change.2 h

end Node

end ShardCluster
