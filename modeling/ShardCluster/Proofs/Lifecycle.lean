import ShardCluster.Proofs.Service
import ShardCluster.Proofs.Traces

/-!
# The life of a node

A node goes through its phases along `Phase.next` only, and holds a server exactly while it runs.
What it asks of its host is lawful (`Trace.Lawful`): no server is started while another one is held,
only the server held is stopped, and no statement is executed without one.
`NodeHistory.lifecycle` says so of every history of a node, whatever the host answers, together with
what becomes of the phase where a call fails or is given up.
-/

namespace ShardCluster

open ShardCluster.Task (Obeys Beside Leads Moves)

/-! ### Lawful traces -/

section Traces

variable {P W : Type}

/-- What may be asked for while a server is held, or none. -/
def HostCall.Allowed (held : Option P) : HostCall P → Prop
  | .start _ => held = none
  | .stop p => held = some p
  | .execute .. => held.isSome
  | _ => True

/-- whether a call neither starts nor stops a server -/
def HostCall.isCalm : HostCall P → Bool
  | .start _ | .stop _ => false
  | _ => true

namespace TraceEntry

/-- the server that is held after an entry, given the one before -/
def serving (held : Option P) : TraceEntry P W → Option P
  | answered (.start _) (.server p) => some p
  | answered (.stop _) .done => none
  | _ => held

/-- An answer is not asked for. -/
def Allowed (held : Option P) : TraceEntry P W → Prop
  | made call _ => call.Allowed held
  | answered _ _ => True

/-- whether a start has succeeded -/
def isStarted : TraceEntry P W → Bool
  | answered (.start _) (.server _) => true
  | _ => false

/-- whether a stop has succeeded -/
def isStopped : TraceEntry P W → Bool
  | answered (.stop _) .done => true
  | _ => false

end TraceEntry

namespace Trace

/-- the server of the latest start that has succeeded, unless a stop has succeeded since -/
def serving (t : Trace P W) : Option P := t.foldl TraceEntry.serving none

/-- **A lawful trace**: all that has been asked for was allowed at its time. -/
def Lawful (t : Trace P W) : Prop :=
  ∀ before entry after, t = before ++ entry :: after → entry.Allowed (serving before)

/-- how many starts have succeeded -/
def starts (t : Trace P W) : Nat := t.countP TraceEntry.isStarted

/-- how many stops have succeeded -/
def stops (t : Trace P W) : Nat := t.countP TraceEntry.isStopped

variable {t : Trace P W} {entry : TraceEntry P W}

lemma lawful_nil : Lawful ([] : Trace P W) := fun before _ _ h => by
  cases before <;> cases h

lemma Lawful.append (h : Lawful t) (allowed : entry.Allowed t.serving) :
    Lawful (t ++ [entry]) := by
  intro before e after parts
  rcases List.eq_nil_or_concat after with rfl | ⟨most, last, rfl⟩
  · obtain ⟨rfl, same⟩ := List.append_inj' parts rfl
    cases same
    exact allowed
  · rw [List.concat_eq_append, ← List.cons_append, ← List.append_assoc] at parts
    exact h before e most (List.append_inj' parts rfl).1

@[simp] lemma serving_append : serving (t ++ [entry]) = entry.serving t.serving := by
  simp [serving]

@[simp] lemma starts_append :
    starts (t ++ [entry]) = t.starts + if entry.isStarted then 1 else 0 := by
  simp [starts, List.countP_cons]

@[simp] lemma stops_append : stops (t ++ [entry]) = t.stops + if entry.isStopped then 1 else 0 := by
  simp [stops, List.countP_cons]

end Trace

end Traces

/-! ### What a trace tells -/

section Lives

variable {P W α : Type}

/-- **What a trace tells of a server that is held**, or that there is none. -/
structure Trace.Tells (held : Option P) (t : Trace P W) : Prop where
  serving : t.serving = held
  lawful : t.Lawful
  balanced : t.starts = t.stops + if held.isSome then 1 else 0

/-- A trace that goes on from an earlier one without another stop. -/
structure Trace.Since (t₀ : Trace P W) (held : Option P) (t : Trace P W) : Prop
    extends t.Tells held where
  since : t₀ <+: t
  stops : t.stops = t₀.stops

/-- A trace that goes on from an earlier one, and has seen the server stopped since. -/
structure Trace.Halted (t₀ t : Trace P W) : Prop extends t.Tells none where
  since : t₀ <+: t
  stops : t₀.stops < t.stops

namespace Trace

variable {t₀ t : Trace P W} {held : Option P} {call : HostCall P} {entry : TraceEntry P W} {w : W}

lemma tells_nil : Tells none ([] : Trace P W) := ⟨rfl, lawful_nil, rfl⟩

lemma Tells.append (h : t.Tells held) (allowed : entry.Allowed held)
    (same : entry.serving held = held) (not_started : entry.isStarted = false)
    (not_stopped : entry.isStopped = false) : Tells held (t ++ [entry]) where
  serving := by rw [serving_append, h.serving, same]
  lawful := h.lawful.append (h.serving ▸ allowed)
  balanced := by simpa [not_started, not_stopped] using h.balanced

lemma Tells.made (h : t.Tells held) (allowed : call.Allowed held) :
    Tells held (t ++ [.made call w]) :=
  h.append allowed rfl rfl rfl

lemma Tells.calm (h : t.Tells held) (calm : call.isCalm) (answer : Answer P) :
    Tells held (t ++ [.answered call answer]) := by
  cases call <;> first | exact h.append trivial rfl rfl rfl | cases calm

lemma Tells.failed (h : t.Tells held) : Tells held (t ++ [.answered call .failed]) := by
  cases call <;> exact h.append trivial rfl rfl rfl

lemma Tells.started {launch : Launch} {p : P} (h : t.Tells none) :
    Tells (some p) (t ++ [.answered (.start launch) (.server p)]) where
  serving := by rw [serving_append]; rfl
  lawful := h.lawful.append trivial
  balanced := by simp [h.balanced, TraceEntry.isStarted, TraceEntry.isStopped]

lemma Tells.stopped {p : P} (h : t.Tells (some p)) :
    Tells none (t ++ [.answered (.stop p) .done]) where
  serving := by rw [serving_append]; rfl
  lawful := h.lawful.append trivial
  balanced := by simp [h.balanced, TraceEntry.isStarted, TraceEntry.isStopped]

lemma Tells.since (h : t.Tells held) : t.Since held t := ⟨h, List.prefix_rfl, rfl⟩

lemma Since.append {held' : Option P} (h : Since t₀ held t) (tells : Tells held' (t ++ [entry]))
    (not_stopped : entry.isStopped = false) : Since t₀ held' (t ++ [entry]) where
  toTells := tells
  since := h.since.trans (List.prefix_append _ _)
  stops := by simpa [not_stopped] using h.stops

lemma Since.made (h : Since t₀ held t) (allowed : call.Allowed held) :
    Since t₀ held (t ++ [.made call w]) :=
  h.append (h.toTells.made allowed) rfl

lemma Since.calm (h : Since t₀ held t) (calm : call.isCalm) (answer : Answer P) :
    Since t₀ held (t ++ [.answered call answer]) :=
  h.append (h.toTells.calm calm answer) (by cases call <;> first | rfl | cases calm)

lemma Since.failed (h : Since t₀ held t) : Since t₀ held (t ++ [.answered call .failed]) :=
  h.append h.toTells.failed (by cases call <;> rfl)

lemma Since.stopped {p : P} (h : Since t₀ (some p) t) :
    Halted t₀ (t ++ [.answered (.stop p) .done]) where
  toTells := h.toTells.stopped
  since := h.since.trans (List.prefix_append _ _)
  stops := by
    rw [stops_append, h.stops]
    exact Nat.lt_succ_self _

lemma Halted.append (h : Halted t₀ t) (tells : Tells none (t ++ [entry])) :
    Halted t₀ (t ++ [entry]) where
  toTells := tells
  since := h.since.trans (List.prefix_append _ _)
  stops := by
    rw [stops_append]
    exact h.stops.trans_le (Nat.le_add_right _ _)

end Trace

/-- Nothing is kept beside the world, and others leave the trace alone. -/
def Around (env : W → W → Prop) (p p' : Unit × Trace P W × W) : Prop := Beside env p.2 p'.2

section Serving

variable {env : W → W → Prop} {host : Host P W} {t₀ : Trace P W} {held : Option P}
  {call : HostCall P} {answer : α → Answer P} {task : Task W α}

lemma obeys_traced {I : Unit × Trace P W × W → Prop} {Q : α → Unit × Trace P W × W → Prop}
    {t : Trace P W} {w : W} (hI : ∀ w', I ((), t ++ [.made call w], w'))
    (hQ : ∀ a w', Q a ((), t ++ [.made call w] ++ [.answered call (answer a)], w')) :
    Obeys (Around env) (fun _ _ => True) I Q (tracing call answer task) ((), t, w) := by
  have traced : Task.Ensures (Beside env) (fun s => I ((), s)) (fun a s => Q a ((), s))
      (tracing call answer task) (t, w) := by
    refine ensures_traced hI fun a w' => ?_
    have := hQ a w'
    rwa [List.append_assoc] at this
  exact Task.obeys_of_ensures traced

variable (call)

lemma leaves_traced {J : Trace P W → Prop} (made : ∀ t w, J t → J (t ++ [.made call w]))
    (answered : ∀ t a, J t → J (t ++ [.answered call a])) :
    Task.Leaves (Around env) (fun p => J p.2.1) (tracing call answer task) :=
  fun p h => Task.obeys_of_ensures (keeps_tracing made answered p.2 h)

lemma leaves_calm (calm : call.isCalm) (allowed : call.Allowed held) :
    Task.Leaves (Around env) (fun p => t₀.Since held p.2.1) (tracing call answer task) :=
  leaves_traced call (J := Trace.Since t₀ held) (fun _ _ h => h.made allowed)
    fun _ a h => h.calm calm a

/-- **A traced host serves every node**, whatever it does: its trace tells which server is held. -/
theorem serves_traced (env : W → W → Prop) (host : Host P W) (i : Identity) (t₀ : Trace P W) :
    host.traced.Serves (Around env) i (fun held p => t₀.Since held p.2.1)
      (fun p => t₀.Halted p.2.1) where
  start := by
    rintro launch ⟨⟨⟩, t, w⟩ - (h : t₀.Since none t)
    have asked : t₀.Since none (t ++ [.made (.start launch) w]) := h.made rfl
    refine obeys_traced (fun _ => asked) ?_
    rintro (e | process) w'
    · exact asked.failed
    · exact asked.append asked.started rfl
  stop := by
    rintro process ⟨⟨⟩, t, w⟩ (h : t₀.Since (some process) t)
    have asked : t₀.Since (some process) (t ++ [.made (.stop process) w]) := h.made rfl
    refine obeys_traced (fun _ => asked) ?_
    rintro (e | _) w'
    · exact asked.failed
    · exact asked.stopped
  execute process port database statement :=
    leaves_calm (.execute port database statement) rfl rfl
  init held d := leaves_calm (.init d) rfl trivial
  portAvailable held port := leaves_calm (.portAvailable port) rfl trivial
  pathExists held path := leaves_calm (.pathExists path) rfl trivial
  namesIn held path := leaves_calm (.namesIn path) rfl trivial
  createDirectories held path := leaves_calm (.createDirectories path) rfl trivial
  append held path content := leaves_calm (.append path content) rfl trivial
  removeTree path := leaves_calm (.removeTree path) rfl trivial
  removeLast path := leaves_traced (.removeTree path) (J := Trace.Halted t₀)
    (fun _ _ h => h.append (h.toTells.made trivial)) fun _ a h => h.append (h.toTells.calm rfl a)

end Serving

/-! ### The life of a node -/

/-- **A node that fits its trace.** -/
structure Node.Fits (n : Node P) (t : Trace P W) : Prop where
  sound : n.Sound
  tells : t.Tells n.process

section Histories

variable {env : W → W → Prop} {host : Host P W} {n n' : Node P} {t t' : Trace P W} {w w' : W}

lemma Node.fits_create {i : Identity} {timeout : Duration} :
    (Node.create i timeout : Node P).Fits ([] : Trace P W) :=
  ⟨⟨by simp [Node.create], by simp [Node.create]⟩, Trace.tells_nil⟩

/-- What is left of a call that has not succeeded. -/
structure Node.Given (call : NodeCall) (n : Node P) (t : Trace P W) (n' : Node P) (t' : Trace P W) :
    Prop where
  fits : n'.Fits t'
  since : t <+: t'
  phase : n'.phase = if call = .cleanup ∧ t.stops < t'.stops then .stopped else n.phase

lemma Node.Unfinished.given {call : NodeCall}
    (h : Node.Unfinished call n.identity (fun held p => t.Since held p.2.1)
      (fun p => t.Halted p.2.1) n.phase ((), n', t', w')) : n.Given call t n' t' := by
  rcases h with ⟨-, sound, phase, told⟩ | ⟨rfl, -, sound, phase, told⟩
  · refine ⟨⟨sound, told.toTells⟩, told.since, ?_⟩
    rw [told.stops, if_neg fun halted => lt_irrefl _ halted.2]
    exact phase
  · have vacant : n'.process = none := sound.idle fun running => by
      cases phase.symm.trans running
    refine ⟨⟨sound, vacant ▸ told.toTells⟩, told.since, ?_⟩
    rw [if_pos ⟨rfl, told.stops⟩]
    exact phase

/-- **What a call does to a node that fits its trace.** -/
lemma Node.Fits.call (h : n.Fits t) (call : NodeCall) :
    Task.Follows (Task.Beyond (Around env)) Node.Paced (fun p => n.Given call t p.2.1 p.2.2.1)
      (fun _ p => p.2.1.Fits p.2.2.1) (fun _ p => n.Given call t p.2.1 p.2.2.1)
      (call.attempt host.traced) ((), n, t, w) := by
  have abides : Node.Abides n.identity (fun held p => t.Since held p.2.1) n.phase
      ((), n, t, w) := ⟨rfl, h.sound, rfl, h.tells.since⟩
  refine (Node.call_abides (serves_traced env host n.identity t) call abides).mono ?_ ?_ ?_
  · exact fun _ h => h.given
  · exact fun _ p h => ⟨h.sound, h.outcome.elim (fun h => h.toTells) fun h => h.1 ▸ h.2.toTells⟩
  · exact fun _ _ h => h.given

lemma Node.Fits.leads (h : n.Fits t) {call : NodeCall} {r : Option (Except ClusterError Unit)}
    (led : Leads (Beside (Beside env)) (call.attempt host.traced).run (n, t, w) r (n', t', w')) :
    n'.Fits t' ∧ (r ≠ some (.ok ()) → n.Given call t n' t') := by
  have still (s s' : Node P × Trace P W × W) (he : Beside (Beside env) s s') :
      Task.Beyond (Around env) ((), s) ((), s') := he
  have left := (h.call (w := w) call).ensures still r _ led
  rcases r with _ | _ | _
  · exact ⟨left.fits, fun _ => left⟩
  · exact ⟨left.fits, fun _ => left⟩
  · exact ⟨left, fun unfinished => absurd rfl unfinished⟩

lemma NodeHistory.fits {i : Identity} {timeout : Duration} {w₀ : W} {events : List NodeEvent}
    {p : Node P × Trace P W × W}
    (h : NodeHistory (Beside env) host.traced (.create i timeout, [], w₀) events p) :
    p.1.Fits p.2.1 := by
  have kept {call : NodeCall} {p p' : Node P × Trace P W × W} {r : Option Unit}
      (hp : p.1.Fits p.2.1) (led : Leads (Beside (Beside env)) (call.task host.traced) p r p') :
      p'.1.Fits p'.2.1 := by
    obtain ⟨r', -, led⟩ := NodeCall.leads_task.1 led
    exact (hp.leads led).1
  induction h with
  | start => exact Node.fits_create
  | ended call _ led ih => exact kept ih led
  | givenUp call _ led ih => exact kept ih led
  | meanwhile _ he ih =>
    rw [he.1]
    exact ih

/-- **The life of a node**, after any history of calls that ended or were given up, and whatever the
host does. A server is held exactly while the node runs: the one of the latest start that has
succeeded, unless it has been stopped. Until it is cleaned up again, a node that has been set up has
taken its directory over. Servers have been started, stopped and used lawfully. Whichever call comes
next, the phase goes along `Phase.next` only; a call that fails or waits leaves the phase alone, but
for a clean-up that has stopped the server; and nothing more becomes of a node that is gone. -/
theorem NodeHistory.lifecycle {i : Identity} {timeout : Duration} {w₀ : W} {events : List NodeEvent}
    (h : NodeHistory (Beside env) host.traced (.create i timeout, [], w₀) events (n, t, w)) :
    n.process = t.serving ∧ (n.process.isSome ↔ n.phase = .running) ∧
    (n.phase = .initialized ∨ n.phase = .running ∨ n.phase = .stopped → n.claimed = true) ∧
    t.Lawful ∧ (t.starts = t.stops + if n.phase = .running then 1 else 0) ∧
    ∀ call : NodeCall,
      (∀ a b, Moves (Beside (Beside env)) (call.attempt host.traced).run (n, t, w) a b →
        b.1.phase = a.1.phase ∨ b.1.phase ∈ a.1.phase.next) ∧
      (∀ r n' t' w', Leads (Beside (Beside env)) (call.attempt host.traced).run (n, t, w) r
          (n', t', w') → r ≠ some (.ok ()) → t <+: t' ∧
        n'.phase = if call = .cleanup ∧ t.stops < t'.stops then .stopped else n.phase) ∧
      (n.phase = .cleanedUp → ∀ r s', Leads (Beside (Beside env)) (call.attempt host.traced).run
        (n, t, w) r s' → s' = (n, t, w)) := by
  have fits : n.Fits t := h.fits
  refine ⟨fits.tells.serving.symm, fits.sound.serving, ?_, fits.tells.lawful, ?_,
    fun call => ⟨fun a b m => ?_, fun r n' t' w' led unfinished => ?_, fun gone r s' led => ?_⟩⟩
  · rintro (phase | phase | phase) <;> exact fits.sound.claimed (by simp [phase]) (by simp [phase])
  · simpa only [fits.sound.serving] using fits.tells.balanced
  · exact (fits.call (w := w) call).moves (fun _ _ he => he) m
  · have left := (fits.leads led).2 unfinished
    exact ⟨left.since, left.phase⟩
  · have idle : Task.Ensures (Beside (Beside env)) (· = (n, t, w)) (fun _ => (· = (n, t, w)))
        (call.task host.traced) (n, t, w) := Node.idle_of_cleanedUp call gone rfl
    have := idle _ _ (NodeCall.leads_task.2 ⟨r, rfl, led⟩)
    cases r <;> exact this

lemma NodeHistory.cut {s s₁ : Node P × W} {events : List NodeEvent} (quiet : Task.Quiet env)
    (call : NodeCall) (nanos : Nat) (h : NodeHistory env host s events s₁)
    (ends : (((call.task host).limit nanos).run [] s₁).1 = some none) :
    NodeHistory env host s (.givenUp call :: events) (((call.task host).limit nanos).run [] s₁).2 :=
  h.givenUp call (Task.leads_of_limited_run quiet.beside ends)

end Histories

end Lives

/-! ### On the floor -/

open Scenario (Floor)

/-- A clean-up that is given up once the server is down leaves a node that is stopped, and whose
directory is still its own. The next clean-up stops nothing. -/
theorem half_cleaned_up : ∃ n t f,
    NodeHistory (Beside Floor.Still) Floor.host.traced
      (.create (.under Cluster.ofDefaults.config.baseDirectory "W1" 5433) (.ofSeconds 60), [],
        .slow)
      [.givenUp .cleanup, .ended .start, .ended (.appendConfig ""), .ended .init] (n, t, f) ∧
    n.phase = .stopped ∧ n.claimed = true ∧ t.starts = 1 ∧ t.stops = 1 ∧ t.serving = none ∧
    ∀ before p f' after,
      t ≠ before ++ .answered (.stop p) .done :: .made (.stop p) f' :: after := by
  have quiet : Task.Quiet (Beside (X := Trace Simulated.Process Floor) Floor.Still) :=
    Task.quiet_eq.beside
  obtain ⟨⟨n, t, f⟩, h, phase, starts⟩ : ∃ s,
      NodeHistory (Beside Floor.Still) Floor.host.traced
        (.create (.under Cluster.ofDefaults.config.baseDirectory "W1" 5433) (.ofSeconds 60), [],
          .slow)
        [.givenUp .cleanup, .ended .start, .ended (.appendConfig ""), .ended .init] s ∧
      s.1.phase = .stopped ∧ s.2.1.starts = 1 := by
    have new : NodeHistory (Beside Floor.Still) Floor.host.traced
      (.create (.under Cluster.ofDefaults.config.baseDirectory "W1" 5433) (.ofSeconds 60), [],
        .slow)
      [] _ := .start
    have started := ((new.run quiet .init (by decide +kernel)).run quiet (.appendConfig "")
      (by decide +kernel)).run quiet .start (by decide +kernel)
    have h := started.cut quiet .cleanup 500000000 (by decide +kernel)
    exact ⟨_, h, by decide +kernel, by decide +kernel⟩
  simp only at phase starts
  obtain ⟨process, serving, claimed, lawful, balanced, -⟩ := h.lifecycle
  have idle : n.process = none := by simpa [phase] using serving
  refine ⟨n, t, f, h, phase, claimed (.inr (.inr phase)), starts, ?_, process ▸ idle, ?_⟩
  · simpa [phase, starts] using balanced.symm
  · intro before p f' after parts
    have again := lawful (before ++ [.answered (.stop p) .done]) (.made (.stop p) f') after
      (by simpa using parts)
    rw [Trace.serving_append] at again
    cases again

end ShardCluster
