import Mathlib.Logic.Relation
import ShardCluster.Proofs.Service

/-!
# Fleets

A fleet is a list of handles on nodes that share a world, each with the calls that are under way on
it. Statements are shared: any number of them may be under way on one handle, but no other call
beside them. What happens in a fleet happens in between two pauses: a call begins, goes on where it
has waited, is over or is given up, a new node joins, or others change the world (`Fleet.Step`).

`Handle.Sound` says of a handle that all its calls, whenever they go on, hold on to what the host
makes of the node; a step of one handle keeps it so (`Handle.Step.sound`).
-/

namespace ShardCluster

open ShardCluster.Task (Obeys Follows Beyond Leads)

/-! ### Between two pauses -/

namespace Task

variable {S X α : Type} {s : S}

/-- Runs a task up to its next pause, or to its end. -/
def settle : Task S α → S → Task S α × S
  | done a, s => (done a, s)
  | act effect next, s => (next s).settle (effect s)
  | pause delay wake next, s => (pause delay wake next, s)

section Obedience

variable {env : X × S → X × S → Prop} {R : S → S → Prop} {I : X × S → Prop}
  {Q : α → X × S → Prop} {t : Task S α} {x : X}

lemma Obeys.settle (h : Obeys env R I Q t (x, s)) :
    Obeys env R I Q (t.settle s).1 (x, (t.settle s).2) := by
  induction t generalizing s with
  | done a => exact h
  | act effect next ih => exact ih s h.2
  | pause delay wake next => exact h

lemma Obeys.settled (h : Obeys env R I (fun _ => I) t (x, s)) : I (x, (t.settle s).2) := by
  induction t generalizing s with
  | done a => exact h
  | act effect next ih => exact ih s h.2
  | pause delay wake next => exact h.1

lemma Obeys.settle_moves (h : Obeys env R I Q t (x, s)) (refl : ∀ s, R s s)
    (trans : ∀ {a b c}, R a b → R b c → R a c) : R s (t.settle s).2 := by
  induction t generalizing s with
  | done a => exact refl s
  | act effect next ih => exact trans h.1 (ih s h.2)
  | pause delay wake next => exact refl s

end Obedience

end Task

/-! ### Handles -/

/-- whether a call can be under way beside others of its kind -/
def NodeCall.isShared : NodeCall → Bool
  | .runSql .. => true
  | _ => false

/-- a node and the calls that are under way on it -/
structure Handle (P W : Type) where
  node : Node P
  pending : List (NodeCall × Task (Node P × W) Unit) := []

section Handles

variable {P W X : Type}

/-- **What happens to a handle**: a call begins and goes on to its first pause, a call that has
waited goes on to its next one, or a call that is over or is given up leaves. -/
inductive Handle.Step (host : Host P W) : Handle P W × W → Handle P W × W → Prop
  | begins {h : Handle P W} {w : W} (call : NodeCall) :
      h.pending = [] ∨ call.isShared ∧ (∀ item ∈ h.pending, item.1.isShared) →
      Step host (h, w)
        (⟨((call.task host).settle (h.node, w)).2.1,
          (call, ((call.task host).settle (h.node, w)).1) :: h.pending⟩,
          ((call.task host).settle (h.node, w)).2.2)
  | resumes {n : Node P} {w : W} {before after : List (NodeCall × Task (Node P × W) Unit)}
      (call : NodeCall) {delay : Option Nat} {wake : Node P × W → Bool}
      {next : Task (Node P × W) Unit} :
      delay.isSome ∨ wake (n, w) →
      Step host (⟨n, before ++ (call, .pause delay wake next) :: after⟩, w)
        (⟨(next.settle (n, w)).2.1, before ++ (call, (next.settle (n, w)).1) :: after⟩,
          (next.settle (n, w)).2.2)
  | leaves {n : Node P} {w : W} {before after : List (NodeCall × Task (Node P × W) Unit)}
      (item : NodeCall × Task (Node P × W) Unit) :
      Step host (⟨n, before ++ item :: after⟩, w) (⟨n, before ++ after⟩, w)

/-- **What happens in a fleet**: a new node joins it, something happens to one of its handles, or
others change the world. -/
inductive Fleet.Step (env : W → W → Prop) (host : Host P W) :
    List (Handle P W) × W → List (Handle P W) × W → Prop
  | joins {hs : List (Handle P W)} {w : W} (identity : Identity) (timeout : Duration) :
      Step env host (hs, w) (hs ++ [{ node := .create identity timeout }], w)
  | acts {before after : List (Handle P W)} {h h' : Handle P W} {w w' : W} :
      Handle.Step host (h, w) (h', w') →
      Step env host (before ++ h :: after, w) (before ++ h' :: after, w')
  | meanwhile {hs : List (Handle P W)} {w w' : W} : env w w' → Step env host (hs, w) (hs, w')

section Alone

variable {env : W → W → Prop} {host : Host P W} {s' : Node P × W} {r : Option Unit}
  (before after : List (Handle P W))

variable (host) in
lemma Fleet.goes_on {call : NodeCall} {t : Task (Node P × W) Unit} {s : Node P × W}
    (led : Leads (Task.Beside env) t s r s') :
    ∃ rest, Relation.ReflTransGen (Fleet.Step env host)
      (before ++ ⟨(t.settle s).2.1, [(call, (t.settle s).1)]⟩ :: after, (t.settle s).2.2)
      (before ++ ⟨s'.1, [(call, rest)]⟩ :: after, s'.2) := by
  induction led with
  | done a s => exact ⟨_, .refl⟩
  | act _ ih => exact ih
  | wait delay wake next s => exact ⟨_, .refl⟩
  | @resume delay wake next s s₁ s' r others ready _ ih =>
    obtain ⟨rest, steps⟩ := ih
    obtain ⟨_, w⟩ := s
    obtain ⟨n, w₁⟩ := s₁
    obtain ⟨rfl, others⟩ := others
    have resumed : Handle.Step host (⟨n, [] ++ (call, .pause delay wake next) :: []⟩, w₁) _ :=
      .resumes call ready
    exact ⟨rest, .head (.meanwhile others) (.head (.acts resumed) steps)⟩

/-- Whatever a call leads to is something its handle can get to while the other handles rest. -/
lemma Fleet.calls {n : Node P} {w : W} (call : NodeCall)
    (led : Leads (Task.Beside env) (call.task host) (n, w) r s') :
    Relation.ReflTransGen (Fleet.Step env host) (before ++ { node := n } :: after, w)
      (before ++ { node := s'.1 } :: after, s'.2) := by
  obtain ⟨rest, steps⟩ := Fleet.goes_on host before after led
  have begun : Handle.Step host (({ node := n } : Handle P W), w) _ := .begins call (.inl rfl)
  have left : Handle.Step host ((⟨s'.1, [] ++ (call, rest) :: []⟩ : Handle P W), s'.2) _ :=
    .leaves _
  exact .head (.acts begun) (steps.tail (.acts left))

end Alone

/-! ### Sound handles -/

/-- A sound node of that identity, with what the host makes of it. -/
structure Node.Holds (i : Identity) (held : Option P → X × W → Prop) (p : X × Node P × W) :
    Prop where
  identity : p.2.1.identity = i
  sound : p.2.1.Sound
  held : held p.2.1.process (p.1, p.2.2)

lemma Node.Abides.holds {i : Identity} {held : Option P → X × W → Prop} {phase : Phase}
    {p : X × Node P × W} (h : Node.Abides i held phase p) : Node.Holds i held p :=
  ⟨h.identity, h.sound, h.held⟩

/-- A shared call leaves the node alone. -/
def NodeCall.Moving (call : NodeCall) (a b : Node P × W) : Prop := call.isShared → b.1 = a.1

/-- A call that is under way, and holds on to what the host makes of the node whenever it goes
on. -/
def Handle.Engaged (env : X × W → X × W → Prop) (held : Identity → Option P → X × W → Prop)
    (n : Node P) (item : NodeCall × Task (Node P × W) Unit) : Prop :=
  ∃ x w, Obeys (Beyond env) item.1.Moving (Node.Holds n.identity (held n.identity))
    (fun _ => Node.Holds n.identity (held n.identity)) item.2 (x, n, w)

/-- **A sound handle**: its node is sound, all its calls are engaged, and if there is more than one
call, all are shared. -/
structure Handle.Sound (env : X × W → X × W → Prop) (held : Identity → Option P → X × W → Prop)
    (h : Handle P W) : Prop where
  sound : h.node.Sound
  engaged : ∀ item ∈ h.pending, Handle.Engaged env held h.node item
  shared : h.pending.length ≤ 1 ∨ ∀ item ∈ h.pending, item.1.isShared

section Steps

variable {env : X × W → X × W → Prop} {held : Identity → Option P → X × W → Prop} {host : Host P W}
  {h h' : Handle P W} {n : Node P} {x : X} {w w' : W}

lemma Handle.sound_create {i : Identity} {timeout : Duration} :
    Handle.Sound env held ({ node := .create i timeout } : Handle P W) where
  sound := ⟨by simp [Node.create], by simp [Node.create]⟩
  engaged := nofun
  shared := .inl (Nat.zero_le 1)

lemma NodeCall.engages
    (serves : host.Serves env n.identity (held n.identity) (held n.identity none)) (call : NodeCall)
    (sound : n.Sound) (hw : held n.identity n.process (x, w)) :
    Obeys (Beyond env) call.Moving (Node.Holds n.identity (held n.identity))
      (fun _ => Node.Holds n.identity (held n.identity)) (call.task host) (x, n, w) := by
  have abides : Node.Abides n.identity (held n.identity) n.phase (x, n, w) := ⟨rfl, sound, rfl, hw⟩
  have unfinished (p : X × Node P × W) (hp : Node.Unfinished call n.identity (held n.identity)
      (held n.identity none) n.phase p) : Node.Holds n.identity (held n.identity) p := by
    rcases hp with hp | ⟨-, hp⟩
    · exact hp.holds
    · have vacant : p.2.1.process = none := hp.sound.idle (by simp [hp.phase])
      exact ⟨hp.identity, hp.sound, vacant ▸ hp.held⟩
  have served (p : X × Node P × W) (hp : Node.Served n.identity (held n.identity)
      (held n.identity none) p) : Node.Holds n.identity (held n.identity) p :=
    ⟨hp.identity, hp.sound, hp.outcome.elim id fun h => h.1 ▸ h.2⟩
  have follows : Follows (Beyond env) call.Moving (Node.Holds n.identity (held n.identity))
      (fun _ => Node.Holds n.identity (held n.identity))
      (fun _ => Node.Holds n.identity (held n.identity)) (call.attempt host) (x, n, w) := by
    by_cases shared : call.isShared
    · obtain ⟨database, statement, rfl⟩ :
          ∃ database statement, call = .runSql database statement := by
        cases call <;> simp_all [NodeCall.isShared]
      simp only [NodeCall.attempt, Task.follows_bind,
        Node.follows_current (R := NodeCall.Moving _) fun _ _ => rfl]
      refine (Node.runSql_abides serves (fun _ _ _ _ => rfl) abides).mono
        (fun _ => Node.Abides.holds) ?_ fun _ _ => Node.Abides.holds
      exact fun _ p hp => Task.follows_pure.2 (served p hp)
    · have follows := (Node.call_abides serves call abides).mono unfinished (fun _ => served)
        fun _ => unfinished
      exact follows.coarser fun _ _ _ is_shared => absurd is_shared shared
  rw [call.task_eq]
  refine Task.obeys_map.2 (Obeys.mono follows (fun _ h => h) ?_)
  rintro (e | _) p hp <;> exact hp

lemma Handle.settles {call : NodeCall} {t : Task (Node P × W) Unit}
    (obeys : Obeys (Beyond env) call.Moving (Node.Holds n.identity (held n.identity))
      (fun _ => Node.Holds n.identity (held n.identity)) t (x, n, w)) :
    ∃ t' n' w', t.settle (n, w) = (t', n', w') ∧ n'.identity = n.identity ∧ n'.Sound ∧
      held n'.identity n'.process (x, w') ∧ Handle.Engaged env held n' (call, t') ∧
      (call.isShared → n' = n) := by
  have holds := obeys.settled
  have moved := obeys.settle_moves (fun _ _ => rfl) fun first last is_shared =>
    (last is_shared).trans (first is_shared)
  have engaged := obeys.settle
  generalize t.settle (n, w) = settled at *
  obtain ⟨t', n', w'⟩ := settled
  have identity : n'.identity = n.identity := holds.identity
  rw [← identity] at holds engaged
  exact ⟨t', n', w', rfl, identity, holds.sound, holds.held, ⟨x, w', engaged⟩, moved⟩

/-- **A step of a handle** leaves it sound, with what the host makes of its node. -/
theorem Handle.Step.sound
    (serves : ∀ i, host.Serves env i (held i) (held i none))
    (others : ∀ i process p p', held i process p → held i process p' → env p p')
    (step : Handle.Step host (h, w) (h', w')) (hs : h.Sound env held)
    (hw : held h.node.identity h.node.process (x, w)) :
    h'.Sound env held ∧ h'.node.identity = h.node.identity ∧
      held h'.node.identity h'.node.process (x, w') := by
  cases step with
  | begins call free =>
    obtain ⟨t', n', w'', settled, identity, sound, there, engaged, same⟩ :=
      Handle.settles (call.engages (serves _) hs.sound hw)
    simp only [settled]
    refine ⟨⟨sound, List.forall_mem_cons.2 ⟨engaged, ?_⟩, ?_⟩, identity, there⟩
    · rcases free with alone | ⟨is_shared, -⟩
      · simp [alone]
      · obtain rfl := same is_shared
        exact hs.engaged
    · rcases free with alone | shared
      · exact .inl (by simp [alone])
      · exact .inr (List.forall_mem_cons.2 shared)
  | @resumes n _ before after call delay wake next ready =>
    obtain ⟨x₀, w₀, waits, goes⟩ := hs.engaged (call, .pause delay wake next) (by simp)
    have resumed := goes (x, n, w) ⟨rfl, others _ _ _ _ waits.held hw⟩ ready
    obtain ⟨t', n', w'', settled, identity, sound, there, engaged, same⟩ := Handle.settles resumed
    simp only at settled same
    have engagements := hs.engaged
    have shared := hs.shared
    simp only [List.forall_mem_append, List.forall_mem_cons, List.length_append,
      List.length_cons] at engagements shared
    simp only [settled]
    refine ⟨⟨sound, ?_, ?_⟩, identity, there⟩
    · rw [List.forall_mem_append, List.forall_mem_cons]
      rcases shared with alone | ⟨-, is_shared, -⟩
      · obtain ⟨rfl, rfl⟩ : before = [] ∧ after = [] := by
          simp only [← List.length_eq_zero_iff]
          omega
        exact ⟨nofun, engaged, nofun⟩
      · obtain rfl := same is_shared
        exact ⟨engagements.1, engaged, engagements.2.2⟩
    · simpa only [List.forall_mem_append, List.forall_mem_cons, List.length_append,
        List.length_cons] using shared
  | @leaves n _ before after item =>
    have engagements := hs.engaged
    have shared := hs.shared
    simp only [List.forall_mem_append, List.forall_mem_cons, List.length_append,
      List.length_cons] at engagements shared
    refine ⟨⟨hs.sound, ?_, ?_⟩, rfl, hw⟩
    · exact List.forall_mem_append.2 ⟨engagements.1, engagements.2.2⟩
    · rw [List.length_append, List.forall_mem_append]
      exact shared.imp (fun alone => by omega) fun shared => ⟨shared.1, shared.2.2⟩

end Steps

end Handles

end ShardCluster
