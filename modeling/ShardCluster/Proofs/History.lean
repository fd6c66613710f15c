import ShardCluster.Proofs.SettingUp
import ShardCluster.Proofs.Teardown
import ShardCluster.Scenario.Stage

/-!
# Histories

A history of a cluster is any sequence of calls, each of which ends or is given up where it waits,
and others may change the world in between. `History.order`: after any history the cluster is in
order, and only teardowns that were given up have taken something along.
-/

namespace ShardCluster

open ShardCluster.Task (Ensures Assures Beside Leads)

/-- a call that can be made of a cluster -/
inductive Call where
  | bootstrap (name : String) (port : UInt16)
  | addWorker (name : String) (port : UInt16)
  | partitionTable (partitioning : HashPartitioning)
  | execute (statement : String)
  | runOnNode (name statement : String)
  | teardown
  deriving DecidableEq

section Calls

variable {P W : Type}

/-- The task of a call, whatever it returns. -/
def Call.task (host : Host P W) : Call → Task (Cluster P × W) Unit
  | .bootstrap name port => discard (Cluster.bootstrap host name port).run
  | .addWorker name port => discard (Cluster.addWorker host name port).run
  | .partitionTable partitioning => discard (Cluster.partitionTable host partitioning).run
  | .execute statement => discard (Cluster.executeOnCoordinator host statement).run
  | .runOnNode name statement => discard (Cluster.runOnNode host name statement).run
  | .teardown => discard (Cluster.teardown host).run

/-- what became of a call -/
inductive Event where
  | ended (call : Call)
  | givenUp (call : Call)
  deriving DecidableEq

/-- **A history**, with the latest event first. -/
inductive History (env : W → W → Prop) (host : Host P W) (s : Cluster P × W) :
    List Event → Cluster P × W → Prop
  | start : History env host s [] s
  | ended {events : List Event} {s₁ s₂ : Cluster P × W} (call : Call) :
      History env host s events s₁ → Leads (Beside env) (call.task host) s₁ (some ()) s₂ →
      History env host s (.ended call :: events) s₂
  | givenUp {events : List Event} {s₁ s₂ : Cluster P × W} (call : Call) :
      History env host s events s₁ → Leads (Beside env) (call.task host) s₁ none s₂ →
      History env host s (.givenUp call :: events) s₂
  | meanwhile {events : List Event} {c : Cluster P} {w w' : W} :
      History env host s events (c, w) → env w w' → History env host s events (c, w')

variable {env : W → W → Prop} {host : Host P W} {s s₁ : Cluster P × W} {events : List Event}

lemma History.run (quiet : Task.Quiet env) (call : Call) (h : History env host s events s₁)
    (ends : ((call.task host).run [] s₁).1 = some ()) :
    History env host s (.ended call :: events) ((call.task host).run [] s₁).2 :=
  h.ended call (Task.leads_of_quiet_run quiet.beside ends)

lemma History.cut (quiet : Task.Quiet env) (call : Call) (nanos : Nat)
    (h : History env host s events s₁)
    (ends : (((call.task host).limit nanos).run [] s₁).1 = some none) :
    History env host s (.givenUp call :: events) (((call.task host).limit nanos).run [] s₁).2 :=
  h.givenUp call (Task.leads_of_limited_run quiet.beside ends)

end Calls

namespace Cluster

variable {P W : Type} {env : W → W → Prop} {held : Estate P → W → Prop} {host : Host P W}
  {extra : Estate P} {c : Cluster P} {w : W}

lemma inOrder_create {config : Config} (created : Cluster.create config = .ok c)
    (h : held extra w) : c.InOrder held extra w := by
  unfold create at created
  rcases ht : config.template with e | template
  · rw [ht] at created
    cases created
  · rw [ht] at created
    obtain rfl : Cluster.mk config template {} none [] none [] = c := Except.ok.inj created
    exact inOrder_emptied (c := Cluster.mk config template {} none [] none []) h

lemma ensures_discard {S α : Type} {env : S → S → Prop} {I : S → Prop} {Q : S → Prop}
    {E : ClusterError → S → Prop} {x : ExceptT ClusterError (Task S) α} {s : S}
    (h : Assures env I (fun _ => Q) E x s) (hE : ∀ e s, E e s → Q s) :
    Ensures env I (fun _ => Q) (discard x.run) s := by
  show Ensures env I (fun _ => Q) ((fun _ => ()) <$> x.run) s
  refine Task.ensures_map.2 (Ensures.mono h (fun _ h => h) ?_)
  rintro (e | a) s h
  · exact hE e s h
  · exact h

lemma lossless {α : Type} {x : ClusterAction P W α} {p : Cluster P × W}
    (h : Assures (Beside env) (Order held extra) (fun _ => Order held extra)
      (fun _ => Order held extra) x p) :
    Ensures (Beside env) (fun p => ∃ lost, lost = 0 ∧ Order held (lost + extra) p)
      (fun _ => Order held extra) (discard x.run) p := by
  refine (ensures_discard h fun _ _ hp => hp).mono (fun p hp => ⟨0, rfl, ?_⟩) fun _ _ hp => hp
  rwa [zero_add]

/-- **What a call does**: a call that ends leaves the cluster in order, and so does one that is
given up, but a teardown that is given up has taken something along. -/
theorem call_spec (acc : host.Accounts env held) (call : Call) (h : c.InOrder held extra w) :
    Ensures (Beside env)
      (fun p => ∃ lost, (if call = .teardown then lost ≠ 0 else lost = 0) ∧
        Order held (lost + extra) p)
      (fun _ => Order held extra) (call.task host) (c, w) := by
  cases call with
  | bootstrap name port => exact lossless (bootstrap_spec acc h)
  | addWorker name port => exact lossless (addWorker_spec acc h)
  | partitionTable partitioning => exact lossless (executeOnCoordinator_spec acc h)
  | execute statement => exact lossless (executeOnCoordinator_spec acc h)
  | runOnNode name statement => exact lossless (runOnNode_spec acc h)
  | teardown =>
    refine ensures_discard ((teardown_spec acc h).mono ?_ ?_ fun _ _ h => h) fun _ _ h => h
    · rintro p ⟨node, rest, hp⟩
      exact ⟨_, hp.lost_ne_zero, hp.order⟩
    · rintro - ⟨c', w'⟩ ⟨same, hw⟩
      simp only at same hw
      rw [same]
      exact inOrder_emptied hw

end Cluster

/-- **After any history** the cluster is in order, and something is lost exactly if a teardown was
given up. -/
theorem History.order {P W : Type} {env : W → W → Prop} {held : Estate P → W → Prop}
    {host : Host P W} (acc : host.Accounts env held) {s s' : Cluster P × W} {events : List Event}
    (h : History env host s events s') (hs : s.1.InOrder held 0 s.2) :
    ∃ lost, (lost = 0 ↔ .givenUp .teardown ∉ events) ∧ s'.1.InOrder held lost s'.2 := by
  -- what a call loses adds to what was lost before, and a loss is never made good
  induction h with
  | start => exact ⟨0, by simp, hs⟩
  | ended call _ h ih =>
    obtain ⟨lost, hl, ho⟩ := ih
    exact ⟨lost, by simpa using hl, Cluster.call_spec acc call ho _ _ h⟩
  | givenUp call _ h ih =>
    obtain ⟨lost, hl, ho⟩ := ih
    obtain ⟨more, hm, ho'⟩ := Cluster.call_spec acc call ho _ _ h
    refine ⟨more + lost, ?_, ho'⟩
    by_cases torn : call = .teardown
    · rw [if_pos torn] at hm
      simp only [torn, List.mem_cons, true_or, not_true_eq_false, iff_false]
      exact fun h => hm (Estate.eq_zero_of_add h)
    · rw [if_neg torn] at hm
      rw [hm, zero_add, hl, List.mem_cons, not_or]
      exact ⟨fun h => ⟨fun he => torn (Event.givenUp.inj he).symm, h⟩, fun h => h.2⟩
  | meanwhile _ he ih =>
    obtain ⟨lost, hl, ho⟩ := ih
    exact ⟨lost, hl, ho.still (acc.kept _ _ _ ho.estate he)⟩

lemma History.inOrder {P W : Type} {env : W → W → Prop} {host : Host P W} {config : Config}
    {c₀ : Cluster P} {w₀ : W} {events : List Event} {s : Cluster P × W}
    (created : Cluster.create config = .ok c₀) (h : History env host (c₀, w₀) events s) :
    ∃ lost, s.1.InOrder (fun _ _ => True) lost s.2 := by
  obtain ⟨lost, -, ho⟩ := h.order (accounts_nothing env host)
    (Cluster.inOrder_create created trivial)
  exact ⟨lost, ho⟩

/-! ### A cluster to look at -/

/-- a new cluster with the default settings -/
def Cluster.ofDefaults : Cluster Simulated.Process :=
  (Cluster.create (.ofEnvironment ⟨[]⟩)).toOption.get (by decide +kernel)

lemma Cluster.create_ofDefaults : Cluster.create (.ofEnvironment ⟨[]⟩) = .ok Cluster.ofDefaults :=
  eq_ok_get _

/-- a floor on which servers take half a second to start and to stop -/
def Scenario.Floor.slow : Scenario.Floor :=
  { Scenario.Floor.empty with
    interference := { delays := [(.start, 500000000), (.stop, 500000000)] } }

/-- Nobody else acts on the floor. -/
abbrev Scenario.Floor.Still (f f' : Scenario.Floor) : Prop := f' = f

/-- such a cluster on such a floor, with an empty log -/
def Cluster.sample : Cluster Simulated.Process × Log Simulated.Process × Scenario.Floor :=
  (.ofDefaults, [], .slow)

end ShardCluster
