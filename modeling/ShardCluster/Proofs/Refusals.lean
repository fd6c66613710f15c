import ShardCluster.Proofs.Service
import ShardCluster.Proofs.SetUpRules

/-!
# Refused directories

`Host.inquired` is any host that writes down its answers where it is asked what is there, and that
it was told to do something else. A node is refused by an answer (`Inquiry.refusal?`): its set-up
fails with the reason that the answer gives, and has then done nothing but ask
(`Node.init_answered`).

`NodeRecord` has the calls of a node one by one, each with what it asked, how it ended and what it
made of the node. `NodeRecord.refused_only_asks` says that a node which is refused whenever it is
set up leaves everything alone, in all of its calls, and that its clean-up just ends it.
-/

namespace ShardCluster

open ShardCluster.Task (Ensures Assures Beside Leads)

/-- A host on files leaves them alone while it is only asked what is there. -/
lemma Host.OnFiles.keptByAsking {P W : Type} {env : W → W → Prop} {files : W → FileSystem}
    {host : Host P W} (works : host.OnFiles env files) (fs : FileSystem) :
    host.KeptByAsking env (files · = fs) where
  pathExists path := (works.pathExists path).keeps fun _ => leaves_asking (J := (· = fs))
  namesIn path := (works.namesIn path).keeps fun _ => leaves_asking (J := (· = fs))
  portAvailable port := works.portAvailable port fs

/-! ### Inquiries -/

/-- what a host was asked, with its answer -/
inductive Inquiry where
  | pathExists (path : Path) (found : Except IoError Bool)
  | namesIn (path : Path) (names : Except IoError (List Bytes))
  | portAvailable (port : UInt16) (free : Bool)
  /-- It was told to do something. -/
  | order

namespace Inquiry

/-- Only the directory and the port of that identity were asked for. -/
def Concerns (i : Identity) : Inquiry → Prop
  | pathExists path _ => path = i.dataDirectory
  | namesIn path _ => path = i.dataDirectory
  | portAvailable port _ => port = i.port
  | order => False

/-- Why a node cannot be set up after that answer, if it is so. -/
def refusal? : Inquiry → Option String
  | pathExists _ (.error e) => some e.message
  | namesIn _ (.error e) => some e.message
  | namesIn path (.ok names) =>
    if names.isEmpty then none else some ("data directory " ++ path.display ++ " is not empty")
  | portAvailable port false => some ("port " ++ toString port.toNat ++ " already in use")
  | _ => none

end Inquiry

section Inquired

variable {P W α : Type}

/-- a question, and its answer in the record -/
def asking (entry : α → Inquiry) (t : Task W α) : Task (List Inquiry × W) α := do
  let a ← t.through (Part.second (List Inquiry) W)
  Task.update fun s => (s.1 ++ [entry a], s.2)
  return a

/-- something that is done, after an entry for it in the record -/
def ordering (t : Task W α) : Task (List Inquiry × W) α := do
  Task.update fun s => (s.1 ++ [.order], s.2)
  t.through (Part.second (List Inquiry) W)

/-- **A host with a record of its answers** beside its world. -/
def Host.inquired (host : Host P W) : Host P (List Inquiry × W) where
  engine :=
    { init := fun d => ordering (host.engine.init d)
      start := fun launch => ordering (host.engine.start launch)
      stop := fun p => ordering (host.engine.stop p)
      execute := fun port database statement =>
        ordering (host.engine.execute port database statement)
      portAvailable := fun port => asking (.portAvailable port) (host.engine.portAvailable port)
      configFile := host.engine.configFile }
  storage :=
    { pathExists := fun path => asking (.pathExists path) (host.storage.pathExists path)
      namesIn := fun path => asking (.namesIn path) (host.storage.namesIn path)
      createDirectories := fun path => ordering (host.storage.createDirectories path)
      writeFile := fun path content => ordering (host.storage.writeFile path content)
      append := fun path content => ordering (host.storage.append path content)
      ensureFile := fun path => ordering (host.storage.ensureFile path)
      contentOf := fun path => ordering (host.storage.contentOf path)
      removeTree := fun path => ordering (host.storage.removeTree path) }

variable {env : W → W → Prop} {I : List Inquiry × W → Prop} {Q : α → List Inquiry × W → Prop}
  {entry : α → Inquiry} {t : Task W α} {l : List Inquiry} {w : W}

lemma ensures_asking : Ensures (Beside env) I Q (asking entry t) (l, w) ↔
    Ensures env (fun w => I (l, w)) (fun a w => Q a (l ++ [entry a], w)) t w := by
  simp [asking, Task.ensures_bind, Task.ensures_through]

lemma ensures_ordering : Ensures (Beside env) I Q (ordering t) (l, w) ↔
    Ensures env (fun w => I (l ++ [.order], w)) (fun a w => Q a (l ++ [.order], w)) t w := by
  simp [ordering, Task.ensures_bind, Task.ensures_through]

end Inquired

namespace Node

variable {P W : Type} {env : W → W → Prop} {host : Host P W} {n : Node P} {w : W} {i : Identity}
  {timeout : Duration} {J : W → Prop} {l : List Inquiry}

/-! ### Setting up -/

/-- Nobody has been refused so far. -/
def Unrefused (l : List Inquiry) : Prop := ∀ question ∈ l, question.refusal? = none

/-- Only this identity has been asked for. -/
def Enquires (i : Identity) (l : List Inquiry) : Prop := ∀ question ∈ l, question.Concerns i

/-- A failed set-up was refused for that reason, without having done anything. -/
structure TurnedAway (i : Identity) (J : W → Prop) (n : Node P) (e : ClusterError)
    (p : Node P × List Inquiry × W) : Prop where
  reason : ∃ reason, e = .init i.name reason ∧
    ∃ question ∈ p.2.1, question.refusal? = some reason
  node : p.1 = n
  enquires : Enquires i p.2.1
  kept : J p.2.2

lemma Unrefused.append {question : Inquiry} (h : Unrefused l) (welcome : question.refusal? = none) :
    Unrefused (l ++ [question]) :=
  List.forall_mem_append.2 ⟨h, List.forall_mem_singleton.2 welcome⟩

lemma Enquires.append {question : Inquiry} (h : Enquires i l) (concerns : question.Concerns i) :
    Enquires i (l ++ [question]) :=
  List.forall_mem_append.2 ⟨h, List.forall_mem_singleton.2 concerns⟩

lemma turnedAway_append {question : Inquiry} {reason : String} (identity : n.identity = i)
    (h : Enquires i l) (concerns : question.Concerns i) (refused : question.refusal? = some reason)
    (hJ : J w) : TurnedAway i J n (n.initError reason) (n, l ++ [question], w) where
  reason := ⟨reason, by rw [← identity]; rfl, question, by simp, refused⟩
  node := rfl
  enquires := h.append concerns
  kept := hJ

lemma checkVacant_answered (kept : host.KeptByAsking env J) (hJ : J w) (identity : n.identity = i) :
    Assures (Beside (Beside env)) (fun p => Unrefused p.2.1)
      (fun _ p => Unrefused p.2.1 ∧ Enquires i p.2.1 ∧ p.1 = n ∧ J p.2.2)
      (TurnedAway i J n) (checkVacant host.inquired n) (n, [], w) := by
  have none : Unrefused [] ∧ Enquires i [] := ⟨nofun, nofun⟩
  have mine : n.identity.dataDirectory = i.dataDirectory := congrArg _ identity
  unfold checkVacant
  simp only [Task.assures_bind, assures_attempt]
  refine ensures_asking.2 ((kept.pathExists _ w hJ).mono (fun _ _ => none.1) ?_)
  rintro (e | _ | _) w hJ
  · exact turnedAway_append identity none.2 mine rfl hJ
  · simp only [Bool.false_eq_true, if_false, Task.assures_pure]
    exact ⟨none.1.append rfl, none.2.append mine, trivial, hJ⟩
  simp only [if_true, Task.assures_bind, assures_attempt]
  have found : Unrefused [.pathExists n.identity.dataDirectory (.ok true)] ∧
      Enquires i [.pathExists n.identity.dataDirectory (.ok true)] :=
    ⟨none.1.append rfl, none.2.append mine⟩
  refine ensures_asking.2 ((kept.namesIn _ w hJ).mono (fun _ _ => found.1) ?_)
  rintro (e | _ | ⟨name, names⟩) w hJ
  · exact turnedAway_append identity found.2 mine rfl hJ
  · simp only [List.isEmpty_nil, Bool.not_true, Bool.false_eq_true, if_false, Task.assures_pure]
    exact ⟨found.1.append rfl, found.2.append mine, trivial, hJ⟩
  · simp only [List.isEmpty_cons, Bool.not_false, if_true, Task.assures_throw]
    exact turnedAway_append identity found.2 mine rfl hJ

/-- **Setting a new node up**: as long as no answer refuses it, nothing is known; an answer that
does ends it. -/
lemma init_answered (kept : host.KeptByAsking env J) (hJ : J w) (fresh : n.phase = .created)
    (identity : n.identity = i) : Assures (Beside (Beside env)) (fun p => Unrefused p.2.1)
      (fun _ p => Unrefused p.2.1) (fun e p => Unrefused p.2.1 ∨ TurnedAway i J n e p)
      (init host.inquired) (n, [], w) := by
  have ordered {α : Type} {t : Task W α} {l : List Inquiry} {w : W} (h : Unrefused l) : Ensures
      (Beside env) (fun s => Unrefused s.1) (fun _ s => Unrefused s.1) (ordering t) (l, w) :=
    ensures_ordering.2 (Task.ensures_of_forall (fun _ => h.append rfl) fun _ _ => h.append rfl)
  unfold init
  simp only [Task.assures_bind, assures_current, fresh, ne_eq, not_true_eq_false, if_false]
  refine (checkVacant_answered kept hJ identity).mono (fun _ h => h) ?_ fun _ _ h => .inr h
  rintro - ⟨_, l, w⟩ ⟨welcome, enquires, rfl, hJ⟩
  simp only [assures_outside]
  refine ensures_asking.2 ((kept.portAvailable _ w hJ).mono (fun _ _ => welcome) ?_)
  rintro (_ | _) w hJ
  · simp only [Bool.not_false, if_true, Task.assures_bind, Task.assures_throw]
    exact .inr (turnedAway_append identity enquires (congrArg _ identity) rfl hJ)
  simp only [Bool.not_true, Bool.false_eq_true, if_false, Task.assures_bind, assures_change,
    assures_attempt]
  -- from the claim on nothing is asked any more
  refine (ordered (welcome.append rfl)).mono (fun _ h => h) ?_
  rintro (e | _) ⟨l, w⟩ welcome
  · exact .inl welcome
  refine (ordered welcome).mono (fun _ h => h) ?_
  rintro (e | _) s welcome
  · exact .inl welcome
  · exact welcome

/-! ### The other calls -/

/-- A node that has not been set up, or is gone without having been. -/
def Untouched (i : Identity) (timeout : Duration) (n : Node P) : Prop :=
  n = .create i timeout ∨ n = { Node.create i timeout with phase := .cleanedUp }

/-- What a call makes of a node that has nothing: a clean-up ends it. -/
def idleAfter (call : NodeCall) (n : Node P) : Node P :=
  if call = .cleanup then { n with phase := .cleanedUp } else n

/-- How a call of a node that has nothing ends, unless it sets a new node up. -/
def idleAnswer (call : NodeCall) (n : Node P) : Except ClusterError Unit :=
  match call with
  | .init => .error (n.initError ("already " ++ n.phase.title))
  | .appendConfig _ => .error (.precondition ("cannot append config to node " ++ n.name ++ " while "
      ++ n.phase.title))
  | .start => .error (.precondition ("cannot start node " ++ n.name ++ " while " ++ n.phase.title))
  | .runSql _ statement => .error (n.queryError statement ("node is " ++ n.phase.title))
  | .stop | .cleanup => .ok ()

lemma Untouched.idleAfter (call : NodeCall) (h : Untouched i timeout n) :
    Untouched i timeout (n.idleAfter call) := by
  unfold Node.idleAfter
  split
  · rcases h with rfl | rfl <;> exact .inr rfl
  · exact h

lemma Untouched.unclaimed (h : Untouched i timeout n) : n.claimed = false ∧ n.process = none := by
  rcases h with rfl | rfl <;> exact ⟨rfl, rfl⟩

lemma Untouched.identity (h : Untouched i timeout n) : n.identity = i := by
  rcases h with rfl | rfl <;> rfl

lemma call_untouched {call : NodeCall} (h : Untouched i timeout n)
    (gone : call = .init → n.phase = .cleanedUp) : Assures (Beside env) (fun _ => False)
      (fun _ p => n.idleAnswer call = .ok () ∧ p = (n.idleAfter call, w))
      (fun e p => n.idleAnswer call = .error e ∧ p = (n.idleAfter call, w)) (call.attempt host)
      (n, w) := by
  have ended : n.phase = .created ∨ n.phase = .cleanedUp := by
    rcases h with rfl | rfl
    · exact .inl rfl
    · exact .inr rfl
  have down : n.phase ≠ .initialized ∧ n.phase ≠ .stopped ∧ n.phase ≠ .running := by
    rcases ended with phase | phase <;> simp [phase]
  cases call with
  | init =>
    show Assures _ _ _ _ (init host) _
    unfold init
    simp only [Task.assures_bind, assures_current, gone rfl, ne_eq, reduceCtorEq, not_false_eq_true,
      if_true, Task.assures_throw, idleAnswer]
    exact ⟨trivial, rfl⟩
  | appendConfig text =>
    show Assures _ _ _ _ (appendConfig host text) _
    unfold appendConfig
    simp only [Task.assures_bind, assures_current, ended, if_true, Task.assures_throw]
    exact ⟨rfl, rfl⟩
  | start =>
    show Assures _ _ _ _ (start host) _
    unfold start
    simp only [Task.assures_bind, assures_current, down, ne_eq, not_false_eq_true, and_self,
      if_true, Task.assures_throw]
    exact ⟨rfl, rfl⟩
  | runSql database statement =>
    simp only [NodeCall.attempt, Task.assures_bind, assures_current, assures_attempt]
    unfold runSql
    simp only [down, ne_eq, not_false_eq_true, if_true]
    exact Task.ensures_pure.2 ⟨rfl, rfl⟩
  | stop =>
    show Assures _ _ _ _ (stop host) _
    unfold stop
    simp only [Task.assures_bind, assures_current, down, ne_eq, not_false_eq_true, if_true]
    exact Task.assures_pure.2 ⟨rfl, rfl⟩
  | cleanup =>
    show Assures _ _ _ _ (cleanup host) _
    unfold cleanup stop
    rcases h with rfl | rfl <;> simp [idleAfter, idleAnswer, create]

/-- **A node that has nothing** answers at once, and does nothing to the world. -/
lemma leads_untouched {call : NodeCall} {r : Option (Except ClusterError Unit)} {s' : Node P × W}
    (h : Untouched i timeout n) (gone : call = .init → n.phase = .cleanedUp) :
    Leads (Beside env) (call.attempt host).run (n, w) r s' ↔
      r = some (n.idleAnswer call) ∧ s' = (n.idleAfter call, w) := by
  have once (r : Option (Except ClusterError Unit)) (s' : Node P × W)
      (led : Leads (Beside env) (call.attempt host).run (n, w) r s') :
      r = some (n.idleAnswer call) ∧ s' = (n.idleAfter call, w) := by
    have ends := call_untouched h gone r s' led
    rcases r with _ | _ | _
    · exact ends.elim
    · exact ⟨by rw [ends.1], ends.2⟩
    · exact ⟨by rw [ends.1], ends.2⟩
  refine ⟨once r s', ?_⟩
  rintro ⟨rfl, rfl⟩
  obtain ⟨r, s', led⟩ := Task.leads_exists (call.attempt host).run (n, w)
  obtain ⟨rfl, rfl⟩ := once r s' led
  exact led

end Node

/-! ### Calls one by one -/

/-- one call of a node: what it asked, how it ended unless it was given up, and what it made of the
node -/
structure NodeStep (P : Type) where
  before : Node P
  call : NodeCall
  asked : List Inquiry
  result : Option (Except ClusterError Unit)
  after : Node P

namespace NodeStep

variable {P : Type}

/-- An answer that the call got refuses the node. -/
def IsRefused (step : NodeStep P) : Prop := ∃ question ∈ step.asked, question.refusal? ≠ none

instance (step : NodeStep P) : Decidable step.IsRefused :=
  inferInstanceAs (Decidable (∃ question ∈ step.asked, question.refusal? ≠ none))

/-- **A call that leaves everything alone**, of a node with that identity. -/
structure LeavesAlone (i : Identity) (step : NodeStep P) : Prop where
  /-- All it does is ask for the directory and the port of the node. -/
  enquires : Node.Enquires i step.asked
  unclaimed : step.after.claimed = false ∧ step.after.process = none
  /-- A set-up fails, and the reason with which it fails is the one for which it was refused. -/
  init : step.call = .init → step.after = step.before ∧
    ∃ reason, step.result = some (.error (.init i.name reason)) ∧
      (step.before.phase = .created → ∃ question ∈ step.asked, question.refusal? = some reason)
  cleanup : step.call = .cleanup → step.result = some (.ok ()) ∧ step.after.phase = .cleanedUp

end NodeStep

section Records

variable {P W : Type}

/-- **The calls of a node**, the latest one first, and what others change in between. Each call has
a record of its own of what it asks. -/
inductive NodeRecord (env : W → W → Prop) (host : Host P W) (s : Node P × W) :
    List (NodeStep P) → Node P × W → Prop
  | start : NodeRecord env host s [] s
  | called {steps : List (NodeStep P)} {n n' : Node P} {w w' : W} {asked : List Inquiry}
      {r : Option (Except ClusterError Unit)} (call : NodeCall) :
      NodeRecord env host s steps (n, w) →
      Leads (Beside (Beside env)) (call.attempt host.inquired).run (n, [], w) r (n', asked, w') →
      NodeRecord env host s (⟨n, call, asked, r, n'⟩ :: steps) (n', w')
  | meanwhile {steps : List (NodeStep P)} {n : Node P} {w w' : W} :
      NodeRecord env host s steps (n, w) → env w w' → NodeRecord env host s steps (n, w')

variable {env : W → W → Prop} {host : Host P W} {n n' : Node P} {w w' w₀ : W} {i : Identity}
  {timeout : Duration} {J : W → Prop} {call : NodeCall} {asked : List Inquiry}
  {r : Option (Except ClusterError Unit)} {steps : List (NodeStep P)}

/-- **A call of an untouched node** that is refused if it sets the node up. -/
lemma Node.Untouched.leavesAlone (kept : host.KeptByAsking env J) (hJ : J w)
    (h : Untouched i timeout n)
    (led : Leads (Beside (Beside env)) (call.attempt host.inquired).run (n, [], w) r
      (n', asked, w'))
    (refused : call = .init → n.phase = .created → ∃ question ∈ asked, question.refusal? ≠ none) :
    (NodeStep.mk n call asked r n').LeavesAlone i ∧ Untouched i timeout n' ∧ J w' := by
  by_cases new : call = .init ∧ n.phase = .created
  · obtain ⟨rfl, fresh⟩ := new
    have welcome : ¬ Unrefused asked := by
      obtain ⟨question, there, refuses⟩ := refused rfl fresh
      exact fun welcome => refuses (welcome question there)
    have answered := Node.init_answered kept hJ fresh h.identity r _ led
    rcases r with _ | e | _
    · exact absurd answered welcome
    · obtain ⟨⟨reason, rfl, refuses⟩, rfl, enquires, hJ'⟩ := answered.resolve_left welcome
      exact ⟨⟨enquires, h.unclaimed, fun _ => ⟨rfl, reason, rfl, fun _ => refuses⟩, nofun⟩, h, hJ'⟩
    · exact absurd answered welcome
  · have gone (set_up : call = .init) : n.phase = .cleanedUp := by
      rcases h with rfl | rfl
      · exact absurd ⟨set_up, rfl⟩ new
      · rfl
    obtain ⟨rfl, same⟩ := (Node.leads_untouched h gone).1 led
    obtain ⟨rfl, rfl, rfl⟩ : n' = n.idleAfter call ∧ asked = [] ∧ w' = w := by
      simpa only [Prod.mk.injEq] using same
    refine ⟨⟨nofun, (h.idleAfter call).unclaimed, ?_, ?_⟩, h.idleAfter call, hJ⟩
    · rintro rfl
      exact ⟨rfl, _, by rw [← h.identity]; rfl, fun fresh => absurd ⟨rfl, fresh⟩ new⟩
    · rintro rfl
      exact ⟨rfl, rfl⟩

/-- **What a record keeps** of a node that is refused whenever it is set up. -/
lemma NodeRecord.untouched {p : Node P × W}
    (h : NodeRecord env host (.create i timeout, w₀) steps p)
    (refused : ∀ step ∈ steps, step.call = .init → step.before.phase = .created → step.IsRefused)
    (kept : host.KeptByAsking env J) (others : ∀ w w', env w w' → J w → J w') (hJ : J w₀) :
    (∀ step ∈ steps, step.LeavesAlone i) ∧ Node.Untouched i timeout p.1 ∧ J p.2 := by
  induction h with
  | start => exact ⟨fun _ there => absurd there List.not_mem_nil, .inl rfl, hJ⟩
  | called call _ led ih =>
    obtain ⟨alone, untouched, hJ⟩ := ih fun step there => refused step (.tail _ there)
    obtain ⟨leaves, untouched, hJ⟩ :=
      untouched.leavesAlone kept hJ led (refused _ List.mem_cons_self)
    exact ⟨List.forall_mem_cons.2 ⟨leaves, alone⟩, untouched, hJ⟩
  | meanwhile _ he ih =>
    obtain ⟨alone, untouched, hJ⟩ := ih refused
    exact ⟨alone, untouched, others _ _ he hJ⟩

/-- **A refused directory is left alone.** Where every set-up of a new node has been refused, none
of its calls has done anything but ask for its directory and its port, and each set-up has failed
with the reason; whatever asking leaves as it is, such as the files, is as it was unless others have
changed it. The next clean-up succeeds at once and does nothing but end the node, and a set-up after
that is refused at once. -/
theorem NodeRecord.refused_only_asks
    (h : NodeRecord env host (.create i timeout, w₀) steps (n, w))
    (refused : ∀ step ∈ steps, step.call = .init → step.before.phase = .created → step.IsRefused) :
    (∀ step ∈ steps, step.LeavesAlone i) ∧ n.claimed = false ∧ n.process = none
    ∧ (∀ J : W → Prop, host.KeptByAsking env J → (∀ w w', env w w' → J w → J w') → J w₀ → J w)
    ∧ (∀ asked r n' w', Leads (Beside (Beside env)) (Node.cleanup host.inquired).run (n, [], w) r
        (n', asked, w') ↔
      r = some (.ok ()) ∧ n' = { n with phase := .cleanedUp } ∧ asked = [] ∧ w' = w)
    ∧ (n.phase = .cleanedUp → ∀ asked r n' w',
      Leads (Beside (Beside env)) (Node.init host.inquired).run (n, [], w) r (n', asked, w') ↔
      r = some (.error (.init i.name "already CleanedUp")) ∧ n' = n ∧ asked = [] ∧ w' = w) := by
  obtain ⟨alone, untouched, -⟩ :=
    h.untouched refused Host.keptByAsking_true (fun _ _ _ => id) trivial
  have next (call : NodeCall) (gone : call = .init → n.phase = .cleanedUp) (asked : List Inquiry)
      (r : Option (Except ClusterError Unit)) (n' : Node P) (w' : W) :
      Leads (Beside (Beside env)) (call.attempt host.inquired).run (n, [], w) r (n', asked, w') ↔
        r = some (n.idleAnswer call) ∧ n' = n.idleAfter call ∧ asked = [] ∧ w' = w := by
    rw [Node.leads_untouched untouched gone]
    simp only [Prod.mk.injEq]
  refine ⟨alone, untouched.unclaimed.1, untouched.unclaimed.2, fun J kept others hJ =>
    (h.untouched refused kept others hJ).2.2, next .cleanup nofun, fun gone => ?_⟩
  have reason : n.idleAnswer .init = .error (.init i.name "already CleanedUp") := by
    simp only [Node.idleAnswer, gone, ← untouched.identity]
    rfl
  rw [← reason]
  exact next .init fun _ => gone

/-- a call as it goes in virtual time, and the node and the world after it -/
def NodeCall.made (host : Host P W) (call : NodeCall) (p : Node P × W) :
    NodeStep P × Node P × W :=
  let (result, after, asked, w) := (call.attempt host.inquired).run.run [] (p.1, [], p.2)
  (⟨p.1, call, asked, result, after⟩, after, w)

lemma NodeRecord.run {s p : Node P × W} (quiet : Task.Quiet env) (call : NodeCall)
    (h : NodeRecord env host s steps p) (ends : (call.made host p).1.result.isSome) :
    NodeRecord env host s ((call.made host p).1 :: steps) (call.made host p).2 := by
  obtain ⟨r, ended⟩ := Option.isSome_iff_exists.1 ends
  have led := Task.leads_of_quiet_run quiet.beside.beside ended
  rw [← ended] at led
  exact h.called call led

end Records

/-! ### On the floor -/

open Scenario (Floor)

/-- Where the notes are is no place for a node: its set-up is refused, its start as well, and its
clean-up leaves the notes alone. -/
theorem notes_refused : ∃ steps n f,
    NodeRecord (fun w w' => w' = w) Floor.host (Node.beside "notes") steps (n, f) ∧
    steps.map NodeStep.call = [.init, .cleanup, .start, .init] ∧
    (∀ step ∈ steps, step.LeavesAlone (Node.beside "notes").1.identity) ∧
    n.phase = .cleanedUp ∧ f.files = Floor.shared.files := by
  have quiet : Task.Quiet (fun w w' : Floor => w' = w) := Task.quiet_eq
  have works : Floor.host.OnFiles (fun w w' : Floor => w' = w) Floor.files :=
    onFiles_floor fun _ _ same => congrArg Floor.files same
  have new : NodeRecord (fun w w' => w' = w) Floor.host (Node.beside "notes") [] _ := .start
  have h := (((new.run quiet .init (by decide +kernel)).run quiet .start (by decide +kernel)).run
    quiet .cleanup (by decide +kernel)).run quiet .init (by decide +kernel)
  obtain ⟨alone, -, -, kept, -⟩ := NodeRecord.refused_only_asks h (by decide +kernel)
  exact ⟨_, _, _, h, by decide +kernel, alone, by decide +kernel,
    kept (fun f => f.files = Floor.shared.files) (works.keptByAsking _)
      (fun _ _ same => congrArg Floor.files same ▸ id) rfl⟩

end ShardCluster
