import ShardCluster.Proofs.Moves
import ShardCluster.Proofs.Sparing

/-!
# Serving a node

`Host.Serves` says what a host makes of the server of a node: `held` tells what is so while a
server is held, or none, and `halted` what is so once a stop has succeeded. `Node.call_abides` draws
the conclusion for each call that can be made of a node, whatever its phase: wherever the call waits
and however it ends, there is out there what the node holds, the phase goes along `Phase.next` only,
and it is the same as before where the call waits or fails, but for a clean-up that has stopped the
server.
-/

namespace ShardCluster

open ShardCluster.Task (Obeys Follows Beyond Leads)

/-- the phases that may come next -/
def Phase.next : Phase → List Phase
  | created => [initialized, cleanedUp]
  | initialized => [running, cleanedUp]
  | running => [stopped]
  | stopped => [running, cleanedUp]
  | cleanedUp => []

section Service

variable {P W X α ε : Type}

/-- The task changes nothing of this. -/
def Task.Leaves (env : X × W → X × W → Prop) (J : X × W → Prop) (t : Task W α) : Prop :=
  ∀ p, J p → Obeys env (fun _ _ => True) J (fun _ => J) t p

/-- **A host that serves a node** of that identity. -/
structure Host.Serves (env : X × W → X × W → Prop) (i : Identity) (held : Option P → X × W → Prop)
    (halted : X × W → Prop) (host : Host P W) : Prop where
  start : ∀ launch p, launch.port = i.port → held none p →
    Obeys env (fun _ _ => True) (held none)
      (fun r => match r with
        | .ok process => held (some process)
        | .error _ => held none) (host.engine.start launch) p
  stop : ∀ process p, held (some process) p →
    Obeys env (fun _ _ => True) (held (some process))
      (fun r => match r with
        | .ok _ => halted
        | .error _ => held (some process)) (host.engine.stop process) p
  execute : ∀ process port database statement,
    Task.Leaves env (held (some process)) (host.engine.execute port database statement)
  init : ∀ process d, Task.Leaves env (held process) (host.engine.init d)
  portAvailable : ∀ process port, Task.Leaves env (held process) (host.engine.portAvailable port)
  pathExists : ∀ process path, Task.Leaves env (held process) (host.storage.pathExists path)
  namesIn : ∀ process path, Task.Leaves env (held process) (host.storage.namesIn path)
  createDirectories : ∀ process path,
    Task.Leaves env (held process) (host.storage.createDirectories path)
  append : ∀ process path content,
    Task.Leaves env (held process) (host.storage.append path content)
  removeTree : ∀ path, Task.Leaves env (held none) (host.storage.removeTree path)
  removeLast : ∀ path, Task.Leaves env halted (host.storage.removeTree path)

namespace Node

/-- The phase stays the same or goes to one that may come next. -/
def Paced (a b : Node P × W) : Prop := b.1.phase = a.1.phase ∨ b.1.phase ∈ a.1.phase.next

lemma paced_rfl (s : Node P × W) : Paced s s := .inl rfl

lemma paced_still (n : Node P) (w w' : W) : Paced (n, w) (n, w') := .inl rfl

/-- **A node that abides** in a phase, of which the host makes this. -/
structure Abides (i : Identity) (J : Option P → X × W → Prop) (phase : Phase)
    (p : X × Node P × W) : Prop where
  identity : p.2.1.identity = i
  sound : p.2.1.Sound
  phase : p.2.1.phase = phase
  held : J p.2.1.process (p.1, p.2.2)

/-- A node that has what it holds, or has halted. -/
structure Served (i : Identity) (held : Option P → X × W → Prop) (halted : X × W → Prop)
    (p : X × Node P × W) : Prop where
  identity : p.2.1.identity = i
  sound : p.2.1.Sound
  outcome : held p.2.1.process (p.1, p.2.2) ∨ p.2.1.process = none ∧ halted (p.1, p.2.2)

section Specs

variable {env : X × W → X × W → Prop} {host : Host P W} {i : Identity}
  {held : Option P → X × W → Prop} {halted : X × W → Prop} {phase : Phase}
  {I : X × Node P × W → Prop} {Q : α → X × Node P × W → Prop}
  {E : ClusterError → X × Node P × W → Prop} {x : X} {n m : Node P} {w : W}

lemma Abides.still {x' : X} {w' : W} (h : Abides i held phase (x, n, w))
    (hw : held n.process (x', w')) : Abides i held phase (x', n, w') :=
  ⟨h.identity, h.sound, h.phase, hw⟩

lemma Abides.served {p : X × Node P × W} (h : Abides i held phase p) : Served i held halted p :=
  ⟨h.identity, h.sound, .inl h.held⟩

lemma Abides.settled {phase' : Phase} (h : Abides i held phase (x, n, w)) (idle : phase ≠ .running)
    (identity : m.identity = n.identity) (process : m.process = n.process)
    (at_phase : m.phase = phase') (idle' : phase' ≠ .running)
    (claimed : m.phase ≠ .created → m.phase ≠ .cleanedUp → m.claimed) :
    Abides i held phase' (x, m, w) where
  identity := identity.trans h.identity
  sound := by
    have vacant : n.process = none := h.sound.idle fun running => idle (h.phase.symm.trans running)
    exact ⟨by simp [process, vacant, at_phase, idle'], claimed⟩
  phase := at_phase
  held := by
    show held m.process (x, w)
    rw [process]
    exact h.held

lemma attempt_leaves {meaning : ε → ClusterError} {t : Task W (Except ε α)}
    (ht : Task.Leaves env (held n.process) t) (h : Abides i held phase (x, n, w))
    (hI : ∀ x w, Abides i held phase (x, n, w) → I (x, n, w))
    (hQ : ∀ a x w, Abides i held phase (x, n, w) → Q a (x, n, w))
    (hE : ∀ e x w, Abides i held phase (x, n, w) → E (meaning e) (x, n, w)) :
    Follows (Beyond env) Paced I Q E (attempt meaning t) (x, n, w) := by
  refine (follows_attempt paced_still).2 ((ht (x, w) h.held).mono (fun p hp => ?_) ?_)
  · exact hI p.1 p.2 (h.still hp)
  · rintro (e | a) p hp
    · exact hE e p.1 p.2 (h.still hp)
    · exact hQ a p.1 p.2 (h.still hp)

variable (serves : host.Serves env i held halted)
include serves

lemma checkVacant_abides {Q : Unit → X × Node P × W → Prop} (h : Abides i held phase (x, n, w))
    (hI : ∀ x w, Abides i held phase (x, n, w) → I (x, n, w))
    (hQ : ∀ x w, Abides i held phase (x, n, w) → Q () (x, n, w))
    (hE : ∀ e x w, Abides i held phase (x, n, w) → E e (x, n, w)) :
    Follows (Beyond env) Paced I Q E (checkVacant host n) (x, n, w) := by
  unfold checkVacant
  simp only [Task.follows_bind]
  refine attempt_leaves (serves.pathExists _ _) h hI (fun found x w h => ?_) fun _ => hE _
  cases found
  · simpa using hQ x w h
  · simp only [if_true, Task.follows_bind]
    refine attempt_leaves (serves.namesIn _ _) h hI (fun names x w h => ?_) fun _ => hE _
    rw [Task.follows_ite]
    split
    · exact Task.follows_throw.2 (hE _ x w h)
    · exact Task.follows_pure.2 (hQ x w h)

/-- **Setting a node up**: it is initialized in the end, or its phase is the same. -/
theorem init_abides (h : Abides i held phase (x, n, w)) :
    Follows (Beyond env) Paced (Abides i held phase) (fun _ => Served i held halted)
      (fun _ => Abides i held phase) (init host) (x, n, w) := by
  unfold init
  simp only [Task.follows_bind, follows_current paced_rfl, Task.follows_ite]
  split
  · exact Task.follows_throw.2 h
  rename_i not_new
  obtain rfl : .created = phase := (not_not.1 not_new).symm.trans h.phase
  refine checkVacant_abides serves h (fun _ _ h => h) (fun x w h => ?_) fun _ _ _ h => h
  refine (follows_outside paced_still).2 ((serves.portAvailable _ _ (x, w) h.held).mono
    (fun _ => h.still) ?_)
  rintro free ⟨x, w⟩ hw
  have h := h.still hw
  cases free
  · simpa using h
  -- the node takes its directory over
  have taken : Abides i held .created (x, { n with claimed := true }, w) :=
    h.settled (by simp) rfl rfl h.phase (by simp) fun _ _ => rfl
  simp only [Bool.not_true, Bool.false_eq_true, if_false, follows_change]
  refine ⟨.inl rfl, ?_⟩
  refine attempt_leaves (serves.createDirectories _ _) taken (fun _ _ h => h) (fun _ x w h => ?_)
    fun _ _ _ h => h
  refine attempt_leaves (serves.init _ _) h (fun _ _ h => h)
    (fun _ x w h => follows_change.2 ⟨?_, ?_⟩) fun _ _ _ h => h
  · have fresh : n.phase = .created := h.phase
    simp [Paced, fresh, Phase.next]
  · have populated : Abides i held .initialized
        (x, { n with claimed := true, phase := .initialized }, w) :=
      h.settled (by simp) rfl rfl rfl (by simp) fun _ _ => rfl
    exact populated.served

theorem appendConfig_abides {text : String} (h : Abides i held phase (x, n, w)) :
    Follows (Beyond env) Paced (Abides i held phase) (fun _ => Served i held halted)
      (fun _ => Abides i held phase) (appendConfig host text) (x, n, w) := by
  unfold appendConfig
  simp only [Task.follows_bind, follows_current paced_rfl, Task.follows_ite]
  split
  · exact Task.follows_throw.2 h
  · exact attempt_leaves (serves.append _ _ _) h (fun _ _ h => h) (fun _ _ _ h => h.served)
      fun _ _ _ h => h

/-- **Starting a node**: it runs in the end, or its phase is the same. -/
theorem start_abides (h : Abides i held phase (x, n, w)) :
    Follows (Beyond env) Paced (Abides i held phase) (fun _ => Served i held halted)
      (fun _ => Abides i held phase) (start host) (x, n, w) := by
  unfold start
  simp only [Task.follows_bind, follows_current paced_rfl, Task.follows_ite]
  split
  · exact Task.follows_throw.2 h
  rename_i ready
  have down : n.phase = .initialized ∨ n.phase = .stopped := by
    by_contra not_down
    exact ready (not_or.1 not_down)
  have idle : n.process = none := by
    rcases down with down | down <;> exact h.sound.idle (by simp [down])
  have claimed : n.claimed = true := by
    rcases down with down | down <;> exact h.sound.claimed (by simp [down]) (by simp [down])
  have vacant : held none (x, w) := by
    rw [← idle]
    exact h.held
  have waits {x : X} {w : W} (hw : held none (x, w)) : Abides i held phase (x, n, w) :=
    h.still (by rwa [idle])
  refine (follows_attempt paced_still).2 ((serves.start _ (x, w) (congrArg Identity.port h.identity)
    vacant).mono (fun _ => waits) ?_)
  rintro (e | process) ⟨x, w⟩ hw
  · exact waits hw
  · refine follows_change.2 ⟨?_, h.identity, ⟨by simp, fun _ _ => claimed⟩, .inl hw⟩
    rcases down with down | down <;> simp [Paced, down, Phase.next]

theorem runSql_abides {R : Node P × W → Node P × W → Prop} {database statement : String}
    (still : ∀ n w w', R (n, w) (n, w')) (h : Abides i held phase (x, n, w)) :
    Follows (Beyond env) R (Abides i held phase) (fun _ => Served i held halted)
      (fun _ => Abides i held phase) (attempt id (n.runSql host database statement).run)
      (x, n, w) := by
  refine (follows_attempt still).2 ?_
  show Follows env _ _ _ _ (n.runSql host database statement) (x, w)
  unfold runSql
  simp only [Task.follows_bind, Task.follows_ite]
  split
  · exact Task.follows_throw.2 h
  rename_i not_idle
  obtain ⟨process, (serving : n.process = some process)⟩ := h.sound.server (not_not.1 not_idle)
  have there : held (some process) (x, w) := by
    rw [← serving]
    exact h.held
  refine Task.follows_liftM.2 ((serves.execute process _ _ _ (x, w) there).mono
    (fun _ hw => h.still (serving ▸ hw)) ?_)
  rintro (e | text) p hw
  · exact Task.follows_throw.2 (h.still (serving ▸ hw))
  · exact Task.follows_pure.2 (h.still (serving ▸ hw)).served

/-- **Stopping a node**: it has halted if it ran, or its phase is the same. -/
theorem stop_abides (h : Abides i held phase (x, n, w)) :
    Follows (Beyond env) Paced (Abides i held phase)
      (fun _ p => Abides i held phase p ∧ phase ≠ .running ∨
        Abides i (fun _ => halted) .stopped p)
      (fun _ => Abides i held phase) (stop host) (x, n, w) := by
  unfold stop
  simp only [Task.follows_bind, follows_current paced_rfl, Task.follows_ite]
  split
  · rename_i idle
    exact Task.follows_pure.2 (.inl ⟨h, h.phase ▸ idle⟩)
  rename_i not_idle
  have running : n.phase = .running := not_not.1 not_idle
  have claimed : n.claimed = true := h.sound.claimed (by simp [running]) (by simp [running])
  obtain ⟨process, (serving : n.process = some process)⟩ := h.sound.server running
  have there : held (some process) (x, w) := by
    rw [← serving]
    exact h.held
  simp only [serving, Task.follows_bind]
  refine (follows_attempt paced_still).2 ((serves.stop process (x, w) there).mono
    (fun _ hw => h.still (serving ▸ hw)) ?_)
  rintro (e | _) ⟨x, w⟩ hw
  · exact h.still (serving ▸ hw)
  · refine follows_change.2 ⟨?_, .inr ⟨h.identity, ⟨by simp, fun _ _ => claimed⟩, rfl, hw⟩⟩
    simp [Paced, running, Phase.next]

/-- **Cleaning a node up**: it is gone in the end. Where the call waits or fails, the phase is the
same unless the node has halted. -/
theorem cleanup_abides (h : Abides i held phase (x, n, w)) :
    Follows (Beyond env) Paced
      (fun p => Abides i held phase p ∨ Abides i (fun _ => halted) .stopped p)
      (fun _ => Served i held halted)
      (fun _ p => Abides i held phase p ∨ Abides i (fun _ => halted) .stopped p)
      (cleanup host) (x, n, w) := by
  unfold cleanup
  simp only [Task.follows_bind, follows_current paced_rfl, Task.follows_ite]
  split
  · exact Task.follows_pure.2 h.served
  rename_i present
  refine (stop_abides serves h).mono (fun _ h => .inl h) ?_ fun _ _ h => .inl h
  rintro - ⟨x, m, w⟩ hm
  -- with the server down, the node abides by what there is out there
  obtain ⟨J, phase', down, idle, present, back, known, leaves⟩ : ∃ J phase',
      Abides i J phase' (x, m, w) ∧ phase' ≠ .running ∧ phase' ≠ .cleanedUp ∧
      (∀ p, Abides i J phase' p → Abides i held phase p ∨ Abides i (fun _ => halted) .stopped p) ∧
      (∀ p, J none p → held none p ∨ halted p) ∧
      ∀ path, Task.Leaves env (J none) (host.storage.removeTree path) := by
    rcases hm with ⟨hm, idle⟩ | hm
    · exact ⟨held, phase, hm, idle, h.phase ▸ present, fun _ => .inl, fun _ => .inl,
        serves.removeTree⟩
    · exact ⟨fun _ => halted, .stopped, hm, by simp, by simp, fun _ => .inr, fun _ => .inr,
        serves.removeLast⟩
  have vacant : m.process = none :=
    down.sound.idle fun running => idle (down.phase.symm.trans running)
  have out : J none (x, w) := by
    rw [← vacant]
    exact down.held
  have gone {x : X} {w : W} (hw : J none (x, w)) :
      Follows (Beyond env) Paced
        (fun p => Abides i held phase p ∨ Abides i (fun _ => halted) .stopped p)
        (fun _ => Served i held halted)
        (fun _ p => Abides i held phase p ∨ Abides i (fun _ => halted) .stopped p)
        (change fun n => { n with phase := .cleanedUp }) (x, m, w) := by
    refine follows_change.2 ⟨?_, down.identity, ⟨by simp [vacant], by simp⟩, ?_⟩
    · have at_phase : m.phase = phase' := down.phase
      cases phase' <;> simp_all [Paced, Phase.next]
    · show held m.process (x, w) ∨ m.process = none ∧ halted (x, w)
      rw [vacant]
      exact (known _ hw).imp_right fun halted => ⟨rfl, halted⟩
  split
  · refine (follows_outside paced_still).2 ((leaves _ (x, w) out).mono
      (fun p hw => back _ (down.still (vacant ▸ hw))) ?_)
    rintro r ⟨x, w⟩ hw
    show Follows _ _ _ _ _ _ (x, m, w)
    split
    · exact gone hw
    · exact gone hw
    · exact Task.follows_bind.2 (Task.follows_throw.2 (back _ (down.still (vacant ▸ hw))))
  · exact gone out

end Specs

end Node

/-! ### Calls -/

/-- A call as an operation that may fail. -/
def NodeCall.attempt (host : Host P W) : NodeCall → NodeAction P W Unit
  | .init => Node.init host
  | .appendConfig text => Node.appendConfig host text
  | .start => Node.start host
  | .runSql database statement => do
    let n ← Node.current
    let _ ← Node.attempt id (n.runSql host database statement).run
  | .stop => Node.stop host
  | .cleanup => Node.cleanup host

section Calls

variable {host : Host P W}

lemma NodeCall.task_eq (call : NodeCall) : call.task host = discard (call.attempt host).run := by
  cases call with
  | runSql database statement =>
    have forget {α : Type} (x : Task (Node P × W) α) : discard x = x >>= fun _ => pure () := rfl
    simp only [NodeCall.task, NodeCall.attempt, Node.attempt, forget, ExceptT.run_bind, bind_assoc]
    refine bind_congr fun r => ?_
    cases r with
    | error e => rfl
    | ok n =>
      simp only [bind_assoc]
      refine bind_congr fun r => ?_
      rcases r with _ | _ | _ <;> rfl
  | _ => rfl

lemma NodeCall.leads_task {env : W → W → Prop} {call : NodeCall} {r : Option Unit}
    {s s' : Node P × W} :
    Leads (Task.Beside env) (call.task host) s r s' ↔ ∃ r', r = r'.map (fun _ => ()) ∧
      Leads (Task.Beside env) (call.attempt host).run s r' s' := by
  rw [call.task_eq]
  exact Task.leads_map

/-- What becomes of a node while a call has not succeeded: it abides, or a clean-up has halted
it. -/
def Node.Unfinished (call : NodeCall) (i : Identity) (held : Option P → X × W → Prop)
    (halted : X × W → Prop) (phase : Phase) (p : X × Node P × W) : Prop :=
  Node.Abides i held phase p ∨ call = .cleanup ∧ Node.Abides i (fun _ => halted) .stopped p

/-- **What a call does to a node.** -/
theorem Node.call_abides {env : X × W → X × W → Prop} {i : Identity}
    {held : Option P → X × W → Prop} {halted : X × W → Prop} {phase : Phase} {p : X × Node P × W}
    (serves : host.Serves env i held halted) (call : NodeCall) (h : Node.Abides i held phase p) :
    Follows (Beyond env) Node.Paced (Node.Unfinished call i held halted phase)
      (fun _ => Node.Served i held halted) (fun _ => Node.Unfinished call i held halted phase)
      (call.attempt host) p := by
  have abiding {x : NodeAction P W Unit}
      (hx : Follows (Beyond env) Node.Paced (Node.Abides i held phase)
        (fun _ => Node.Served i held halted) (fun _ => Node.Abides i held phase) x p) :
      Follows (Beyond env) Node.Paced (Node.Unfinished call i held halted phase)
        (fun _ => Node.Served i held halted) (fun _ => Node.Unfinished call i held halted phase)
        x p :=
    hx.mono (fun _ h => .inl h) (fun _ _ h => h) fun _ _ h => .inl h
  obtain ⟨x, n, w⟩ := p
  cases call with
  | init => exact abiding (Node.init_abides serves h)
  | appendConfig text => exact abiding (Node.appendConfig_abides serves h)
  | start => exact abiding (Node.start_abides serves h)
  | runSql database statement =>
    refine abiding ?_
    simp only [NodeCall.attempt, Task.follows_bind, Node.follows_current Node.paced_rfl]
    exact (Node.runSql_abides serves Node.paced_still h).mono (fun _ h => h)
      (fun _ _ h => Task.follows_pure.2 h) fun _ _ h => h
  | stop =>
    refine abiding ((Node.stop_abides serves h).mono (fun _ h => h) ?_ fun _ _ h => h)
    rintro - p (⟨stays, -⟩ | halts)
    · exact stays.served
    · have vacant : p.2.1.process = none := halts.sound.idle (by simp [halts.phase])
      exact ⟨halts.identity, halts.sound, .inr ⟨vacant, halts.held⟩⟩
  | cleanup =>
    refine (Node.cleanup_abides serves h).mono ?_ (fun _ _ h => h) ?_
    · exact fun _ hp => hp.imp_right fun halts => ⟨rfl, halts⟩
    · exact fun _ _ hp => hp.imp_right fun halts => ⟨rfl, halts⟩

end Calls

end Service

end ShardCluster
