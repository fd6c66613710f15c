import ShardCluster.Proofs.Contents
import ShardCluster.Proofs.Deeds
import ShardCluster.Proofs.Membership

/-!
# Courses of calls

What each call of a cluster asks of engines, and in which order. `Cluster.steps` lists what a call
has to do; `Cluster.Course` says that it takes these steps one after the other, never one of them
again or one after a failure, that apart from them it only stops servers, and that no step concerns
an outsider: a node whose set-up has failed or was given up. Statements and teardowns take such a
course (`statement_goes`, `teardown_goes`).
-/

namespace ShardCluster

open ShardCluster.Task (Ensures Assures Beside Leads)

variable {P W : Type}

/-- A call is about the data directory or the server of a node. -/
def HostCall.Concerns (i : Identity) : HostCall P → Prop
  | .init directory => directory = i.engineDirectory
  | .start launch => launch.dataDirectory = i.engineDirectory ∨ launch.port = i.port
  | .execute port _ _ => port = i.port
  | _ => False

/-- **Files of its own**: the storage is that of a file system, in which nobody else touches the
configuration files of nodes below that directory. -/
structure Host.OwnFiles (env : W → W → Prop) (host : Host P W) (base : Path)
    (part : Part W FileSystem) : Prop where
  storage : host.storage = .ofFiles part
  get_put : ∀ fs w, part.get (part.put fs w) = fs
  others : ∀ w w', env w w' → ∀ name port,
    let path := host.engine.configFile (Identity.under base name port).engineDirectory
    (part.get w').find path .followed = (part.get w).find path .followed

namespace Cluster

/-- the nodes that are no members: a coordinator that is not recorded, a worker that is being set
up, and those whose release failed -/
def outsiders (c : Cluster P) : List (Node P) :=
  (if c.membership.coordinator.isSome then [] else c.coordinator.toList) ++ c.onboarding.toList ++
    c.stranded

/-- what it takes to bring a node up -/
def bringingUp (host : Host P W) (c : Cluster P) (i : Identity) (settings : String) :
    List (HostCall P) :=
  Node.preparing host i c.config.startTimeout settings ++
    [.execute i.port c.config.dbname Sql.installSharding]

/-- **The steps of a call**, in order. -/
def steps (host : Host P W) (c : Cluster P) : Call → List (HostCall P)
  | .bootstrap name port =>
    let i := Identity.under c.config.baseDirectory name port
    c.bringingUp host i (c.template.render .coordinator i (i.connectionString c.config.dbname))
  | .addWorker name port =>
    let i := Identity.under c.config.baseDirectory name port
    c.membership.coordinator.toList.flatMap fun lead =>
      c.bringingUp host i (c.template.render .worker i (lead.connectionString c.config.dbname)) ++
        [.execute lead.port c.config.dbname (Sql.addNode (i.connectionString c.config.dbname))]
  | .partitionTable partitioning =>
    c.coordinator.toList.map fun n => .execute n.port c.config.dbname partitioning.statement
  | .execute statement =>
    c.coordinator.toList.map fun n => .execute n.port c.config.dbname statement
  | .runOnNode name statement =>
    (c.members.find? (·.name == name)).toList.map fun n =>
      .execute n.port c.config.dbname statement
  | .teardown => []

/-- the members once all steps of a call are done -/
def joined (c : Cluster P) : Call → Membership
  | .bootstrap name port => { coordinator := some (.under c.config.baseDirectory name port) }
  | .addWorker name port => c.membership.addWorker (.under c.config.baseDirectory name port)
  | _ => c.membership

/-- The place for a new worker has been cleared, and the worker there is gone or stranded. -/
def Cleared (c c₁ : Cluster P) : Prop :=
  ∃ kept : List (Node P), kept.map (·.identity) <+: c.onboarding.toList.map (·.identity) ∧
    c₁ = { c with onboarding := none, stranded := c.stranded ++ kept }

/-- **The course of a call** from a cluster `c` to `c'`, with the deeds `first` before its steps,
`mid` for its steps, and `last` after them. -/
structure Course (env : W → W → Prop) (host : Host P W) (call : Call) (c c₁ c' : Cluster P)
    (first mid last : Trace P W) (left : List (HostCall P)) : Prop where
  /-- The place for a new worker is cleared first. -/
  cleared : c₁ = c ∨ (∃ name port, call = .addWorker name port) ∧ c.Cleared c₁
  /-- Apart from the steps, servers are stopped and nothing else. -/
  stops : ∀ entry ∈ first ++ last, entry.call.isStop
  proceeds : Proceeds (c₁.steps host call) mid left
  /-- The steps leave outsiders alone. -/
  spares : ∀ entry ∈ mid, ∀ n ∈ c₁.outsiders, ¬ entry.call.Concerns n.identity
  /-- A server is only started while its settings are at the end of its configuration file. -/
  written : ∀ part, host.OwnFiles env c.config.baseDirectory part → ∀ path settings launch w,
    .append path settings ∈ c₁.steps host call → .made (.start launch) w ∈ mid →
      ∃ old, (part.get w).contentOf path = .ok (old ++ settings)
  config : c'.config = c.config
  /-- There are new members only once all steps are done. -/
  members : c'.membership = c.membership ∨ call = .teardown ∧ c'.membership = {} ∨
    mid ≠ [] ∧ left = [] ∧ c'.membership = c₁.joined call
  /-- While the steps of a new worker are taken, the recorded coordinator runs. -/
  led : ∀ name port, call = .addWorker name port → mid ≠ [] → ∃ lead, c.coordinator = some lead ∧
    c.membership.coordinator = some lead.identity ∧ lead.phase = .running ∧
    c'.coordinator = some lead
  /-- A new worker runs from its first statement on, until it is released. -/
  serving : ∀ name port, call = .addWorker name port → last = [] →
    (∃ port' database statement w, .made (.execute port' database statement) w ∈ mid) →
    ∃ n, (c'.onboarding = some n ∨ n ∈ c'.workers) ∧
      n.identity = .under c.config.baseDirectory name port ∧ n.phase = .running

/-- How a call has gone so far. -/
def Goes (env : W → W → Prop) (host : Host P W) (call : Call) (c : Cluster P) (t : Trace P W)
    (p : Cluster P × Trace P W × W) : Prop :=
  ∃ c₁ first mid last left, p.2.1.deeds = t.deeds ++ (first ++ mid ++ last) ∧
    c.Course env host call c₁ p.1 first mid last left

section Courses

variable {env : W → W → Prop} {host : Host P W} {call : Call} {c c₁ c' : Cluster P}
  {t t' first : Trace P W} {w : W} {i : Identity}

/-- Before its first step, a call has only stopped servers. -/
lemma goes_of_stops (cleared : c₁ = c ∨ (∃ name port, call = .addWorker name port) ∧ c.Cleared c₁)
    (deeds : t'.deeds = t.deeds ++ first) (stops : ∀ entry ∈ first, entry.call.isStop)
    (config : c'.config = c.config)
    (members : c'.membership = c.membership ∨ call = .teardown ∧ c'.membership = {}) :
    Goes env host call c t (c', t', w) := by
  refine ⟨c₁, first, [], [], c₁.steps host call, by simpa using deeds, ?_⟩
  exact
    { cleared := cleared
      stops := by simpa using stops
      proceeds := .rests rfl .nil
      spares := nofun
      written := fun _ _ _ _ _ _ _ started => by cases started
      config := config
      members := members.imp_right .inl
      led := fun _ _ _ some_step => absurd rfl some_step
      serving := fun _ _ _ _ ⟨_, _, _, _, statement⟩ => by cases statement }

lemma goes_rfl : Goes env host call c t (c, t, w) :=
  goes_of_stops (.inl rfl) (List.append_nil _).symm nofun rfl (.inl rfl)

end Courses

/-! ### Members and outsiders -/

section Members

variable {c : Cluster P} {m n : Node P} {i j : Identity}

lemma allocated_perm : c.allocated.Perm (c.members ++ c.outsiders) := by
  unfold allocated members outsiders
  split
  · simp
  · simp only [List.nil_append, List.append_assoc]
    exact List.perm_append_comm_assoc _ _ _

lemma mem_allocated_of_outsider (h : n ∈ c.outsiders) : n ∈ c.allocated :=
  allocated_perm.mem_iff.2 (List.mem_append_right _ h)

lemma port_ne_of_outsider (tidy : Tidy c.allocated) (member : m ∈ c.members)
    (outsider : n ∈ c.outsiders) : m.port ≠ n.port := by
  have apart := (List.pairwise_append.1 (tidy.perm allocated_perm).apart).2.2 m member n outsider
  rw [Identity.conflictsWith] at apart
  simp only [Bool.or_eq_false_iff, beq_eq_false_iff_ne] at apart
  exact apart.1.2

lemma engineDirectory_ne (h : i.conflictsWith j = false) :
    i.engineDirectory ≠ j.engineDirectory := by
  intro same
  have := Path.same_of_child_eq (by decide +kernel) same
  simp [Identity.conflictsWith, this] at h

lemma Agrees.workers_of_vacant (h : c.Agrees) (vacant : c.coordinator = none) :
    c.membership.workers = [] := by
  have unrecorded : c.membership.coordinator = none := by
    by_contra recorded
    obtain ⟨i, hi⟩ := Option.ne_none_iff_exists'.1 recorded
    obtain ⟨n, there, -⟩ := h.led i hi
    rw [vacant] at there
    cases there
  rw [h.enrolled, (h.alone unrecorded).1, List.map_nil]

end Members

/-! ### Statements and teardowns -/

section Statements

variable {env : W → W → Prop} {host : Host P W} {call : Call} {c : Cluster P} {n : Node P}
  {t l : Trace P W} {w : W} {extra : Estate P} {statement : String}

lemma statement_goes (order : c.InOrder (fun _ _ => True) extra (t, w)) (member : n ∈ c.members)
    (step : c.steps host call = [.execute n.port c.config.dbname statement])
    (other : ∀ name port, call ≠ .addWorker name port) :
    Assures (Beside env) (fun s => Goes env host call c t (c, s))
      (fun _ s => Goes env host call c t (c, s)) (fun _ s => Goes env host call c t (c, s))
      (n.runSql host.traced c.config.dbname statement) (t, w) := by
  have goes (s : Trace P W × W) {mid : Trace P W} {left : List (HostCall P)}
      (deeds : s.1.deeds = t.deeds ++ mid) (proceeds : Proceeds (c.steps host call) mid left) :
      Goes env host call c t (c, s) := by
    have only (entry : TraceEntry P W) (he : entry ∈ mid) :
        entry.call = .execute n.port c.config.dbname statement := by
      have := proceeds.mem_of_mem he
      rw [step] at this
      exact List.mem_singleton.1 this
    refine ⟨c, [], mid, [], left, by simpa using deeds, ?_⟩
    exact
      { cleared := .inl rfl
        stops := nofun
        proceeds := proceeds
        spares := fun entry he m outsider => by
          rw [only entry he]
          exact port_ne_of_outsider order.tidy member outsider
        written := fun _ _ _ _ _ _ _ started => by cases only _ started
        config := rfl
        members := .inl rfl
        led := fun name port adds => absurd adds (other name port)
        serving := fun name port adds => absurd adds (other name port) }
  have amid (s : Trace P W × W)
      (h : Trace.Amid (fun _ _ => True) t.deeds (c.steps host call) s.1) :
      Goes env host call c t (c, s) := by
    obtain ⟨mid, left, deeds, proceeds, -⟩ := h
    exact goes s deeds proceeds
  refine (Node.runSql_deeds (V := fun _ _ => True) (order.agrees.running member) Trace.had_nil step
    trivial).mono amid (fun _ s h => ?_) fun _ => amid
  obtain ⟨mid, deeds, done, -⟩ := h
  exact goes s deeds (.rests (by rw [step]; rfl) done)

/-- The members are the same, and since the deeds `d` there are only stops. -/
structure Releasing (c : Cluster P) (d : Trace P W) (p : Cluster P × Trace P W × W) : Prop where
  config : p.1.config = c.config
  membership : p.1.membership = c.membership
  stops : ∃ ds, p.2.1.deeds = d ++ ds ∧ ∀ entry ∈ ds, entry.call.isStop

lemma releasing_of_stopping {c' : Cluster P} {s : Trace P W × W} (h : Node.Stopping l.deeds n s.1)
    (config : c'.config = c.config) (membership : c'.membership = c.membership) :
    Releasing c l.deeds (c', s) := by
  obtain ⟨ds, deeds, stops, -⟩ := h
  exact ⟨config, membership, ds, deeds, stops⟩

lemma release_deeds (sound : n.Sound) : Ensures (Beside (Beside env)) (Releasing c l.deeds)
    (fun _ => Releasing c l.deeds) (release host.traced n) (c, l, w) := by
  unfold release
  refine Task.ensures_bind.2 (Task.ensures_owning.2 (Ensures.mono (Node.cleanup_deeds sound) ?_ ?_))
  · exact fun p h => releasing_of_stopping h rfl rfl
  · rintro (e | _) p h
    · exact Task.ensures_bind.2 (Task.ensures_update.2 (Task.ensures_pure.2
        (releasing_of_stopping h rfl rfl)))
    · exact Task.ensures_pure.2 (releasing_of_stopping h rfl rfl)

theorem releaseAll_deeds {nodes : List (Node P)} (sound : ∀ n ∈ nodes, n.Sound) :
    Ensures (Beside (Beside env)) (Releasing c l.deeds) (fun _ => Releasing c l.deeds)
      (releaseAll host.traced nodes) (c, l, w) := by
  induction nodes generalizing c l w with
  | nil => exact Task.ensures_pure.2 ⟨rfl, rfl, [], (List.append_nil _).symm, nofun⟩
  | cons n rest ih =>
    obtain ⟨first, later⟩ := List.forall_mem_cons.1 sound
    unfold releaseAll
    refine Task.ensures_bind.2 ((release_deeds first).mono (fun _ h => h) ?_)
    rintro failure ⟨c', l', w'⟩ ⟨config, membership, ds, deeds, stops⟩
    have further (p : Cluster P × Trace P W × W) (h : Releasing c' l'.deeds p) :
        Releasing c l.deeds p := by
      obtain ⟨config', membership', ds', deeds', stops'⟩ := h
      refine ⟨config'.trans config, membership'.trans membership, ds ++ ds', ?_, ?_⟩
      · rw [deeds', deeds, List.append_assoc]
      · exact List.forall_mem_append.2 ⟨stops, stops'⟩
    refine Task.ensures_bind.2 ((ih later).mono further fun failures p h => ?_)
    exact Task.ensures_pure.2 (further p h)

lemma teardown_goes (order : c.InOrder (fun _ _ => True) extra (t, w)) :
    Assures (Beside (Beside env)) (Goes env host .teardown c t)
      (fun _ => Goes env host .teardown c t) (fun _ => Goes env host .teardown c t)
      (teardown host.traced) (c, t, w) := by
  have goes (p : Cluster P × Trace P W × W) (h : Releasing c.emptied t.deeds p) :
      Goes env host .teardown c t p := by
    obtain ⟨config, membership, ds, deeds, stops⟩ := h
    exact goes_of_stops (.inl rfl) deeds stops config (.inr ⟨rfl, membership⟩)
  have sound (n : Node P) (known : n ∈ c.toRelease) : n.Sound :=
    order.tidy.sound n (toRelease_perm.mem_iff.1 known)
  unfold teardown
  simp only [Task.assures_bind, Task.assures_liftM, Task.ensures_atomic]
  refine (releaseAll_deeds sound).mono goes ?_
  rintro (_ | ⟨e, failures⟩) p h
  · exact Task.assures_pure.2 (goes p h)
  · exact Task.assures_throw.2 (goes p h)

end Statements

end Cluster

end ShardCluster
