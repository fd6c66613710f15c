import ShardCluster.Proofs.Accounts
import ShardCluster.Proofs.Vacancies

/-!
# Lodgings

Nodes that are known by their identities lodge in one base directory. `Lodging` tells from a log and
the files what has become of their places since the start: a place that was never claimed is as it
was, one that was claimed was vacant before, and nothing is left there once it has been given back.
It is kept when a node takes its place over (`Lodging.settle`) and gives it back (`Lodging.vacate`).
-/

namespace ShardCluster

open FileSystem (linkLimit nameLimit OnlyAt Razed Tenancy)
open ShardCluster.Path (IsName)

/-! ### Places of nodes -/

namespace Identity

/-- where the data directory of a node is, in a base directory at that place -/
def home (q : Place) (i : Identity) : Place := q ++ [Utf8.encode i.name]

/-- **An identity named in a base directory**: its data directory is there by its name. -/
structure NamedIn (base : Path) (i : Identity) : Prop where
  directory : i.dataDirectory = base.child i.name
  one : IsName i.name
  short : (Utf8.encode i.name).length ≤ nameLimit

variable {base : Path} {i j : Identity} {q p : Place}

lemma home_eq_of_name (same : i.name = j.name) : i.home q = j.home q := by
  rw [home, home, same]

lemma name_eq_of_below (below : i.home q <+: p) (below' : j.home q <+: p) : i.name = j.name := by
  have length : (i.home q).length = (j.home q).length := by simp [home]
  have same : i.home q = j.home q :=
    (List.prefix_of_prefix_length_le below below' length.le).eq_of_length length
  exact Utf8.encode_injective (by simpa [home] using same)

lemma not_home_prefix : ¬ i.home q <+: q := by
  intro below
  have longer := below.length_le
  simp only [home, List.length_append, List.length_singleton] at longer
  omega

lemma logDirectory_eq_iff (named : i.NamedIn base) (named' : j.NamedIn base) :
    i.logDirectory = j.logDirectory ↔ i.name = j.name := by
  constructor
  · intro same
    have alike := Path.same_of_child_eq (by decide +kernel) same
    rw [named.directory, named'.directory, Path.same, beq_iff_eq, named.one.components_child,
      named'.one.components_child] at alike
    exact Utf8.encode_injective (by simpa using alike)
  · intro same
    unfold logDirectory
    rw [named.directory, named'.directory, same]

end Identity

/-! ### The ground -/

/-- **The ground** for nodes: their base directory is there, also without those of their directories
that are vacant, and none of these is a link. -/
structure FileSystem.Ground (fs : FileSystem) (base : Path) (known : List Identity) (q : Place) :
    Prop where
  reached : ∃ (m : Layout) (n : Nat), (∀ p, m p = fs.layout p ∨ m p = none) ∧
    (∀ i ∈ known, fs.layout.Vacant (i.home q) → ∀ p, i.home q <+: p → m p = none) ∧
    m.Route linkLimit (fs.origin base) base.names n q
  directory : fs.layout q = some .directory
  no_link : ∀ i ∈ known, ∀ target, fs.layout (i.home q) ≠ some (.link target)

section Lodging

variable {P : Type} [DecidableEq P]

/-- Logs that say the same of directories. -/
structure Log.Alike (l l₁ : Log P) : Prop where
  claims : ∀ logs, .claimed logs ∈ l₁ ↔ .claimed logs ∈ l
  directories : l₁.estate.2 = l.estate.2

/-- A log that says of one more directory that it has been taken over. -/
structure Log.Claims (logs : Path) (l l₁ : Log P) : Prop where
  claims : ∀ other, .claimed other ∈ l₁ ↔ other = logs ∨ .claimed other ∈ l
  directories : l₁.estate.2 = logs ::ₘ l.estate.2

/-- **A place taken over** since the files were `fs₀`: it was vacant, there is at most a directory
at it now, and nothing is left once the node has given it back. -/
structure Taken (fs₀ : FileSystem) (q : Place) (i : Identity) (l : Log P) (fs : FileSystem) :
    Prop where
  vacant : fs₀.layout.Vacant (i.home q)
  ok : FileSystem.admissible i.dataDirectory = .ok ()
  top : fs.layout (i.home q) = none ∨ fs.layout (i.home q) = some .directory
  gone : i.logDirectory ∉ l.estate.2 → ∀ p, i.home q <+: p → fs.layout p = none

/-- **The lodging of nodes** since the files were `fs₀` and the log was empty. -/
structure Lodging (fs₀ : FileSystem) (q : Place) (known : List Identity) (l : Log P)
    (fs : FileSystem) : Prop where
  workingDirectory : fs.workingDirectory = fs₀.workingDirectory
  outside : ∀ p, (∀ i ∈ known, ¬ i.home q <+: p) → fs.layout p = fs₀.layout p
  spared : ∀ i ∈ known, .claimed i.logDirectory ∉ l → ∀ p, i.home q <+: p →
    fs.layout p = fs₀.layout p
  taken : ∀ i ∈ known, .claimed i.logDirectory ∈ l → Taken fs₀ q i l fs

variable {fs₀ fs fs₁ : FileSystem} {base : Path} {q : Place} {known : List Identity} {i : Identity}
  {l l₁ : Log P}

lemma Lodging.start : Lodging fs₀ q known ([] : Log P) fs₀ :=
  ⟨rfl, fun _ _ => rfl, fun _ _ _ _ _ => rfl, fun _ _ claimed => absurd claimed List.not_mem_nil⟩

/-- What the log says of servers does not matter. -/
lemma Lodging.relogged (h : Lodging fs₀ q known l fs) (alike : l.Alike l₁) :
    Lodging fs₀ q known l₁ fs where
  workingDirectory := h.workingDirectory
  outside := h.outside
  spared i member unclaimed := h.spared i member (mt (alike.claims _).2 unclaimed)
  taken i member claimed :=
    have taken := h.taken i member ((alike.claims _).1 claimed)
    ⟨taken.vacant, taken.ok, taken.top, alike.directories ▸ taken.gone⟩

/-- **The base directory stays reached.** -/
lemma Lodging.reaches (h : Lodging fs₀ q known l fs) (ground : fs₀.Ground base known q) :
    (∃ n, fs.layout.Route linkLimit (fs.origin base) base.names n q) ∧
      fs.layout q = some .directory := by
  obtain ⟨m, n, less, hidden, route⟩ := ground.reached
  refine ⟨⟨n, ?_⟩, ?_⟩
  · rw [FileSystem.origin_congr h.workingDirectory]
    refine route.of_fewer fun p => ?_
    by_cases below : ∃ i ∈ known, i.home q <+: p
    · obtain ⟨i, member, below⟩ := below
      by_cases claimed : .claimed i.logDirectory ∈ l
      · exact .inr (hidden i member (h.taken i member claimed).vacant p below)
      · rw [h.spared i member claimed p below]
        exact less p
    · rw [h.outside p (by simpa using below)]
      exact less p
  · rw [h.outside q fun i _ => Identity.not_home_prefix]
    exact ground.directory

section Changes

variable (named : ∀ i ∈ known, i.NamedIn base) (member : i ∈ known)
include named member

/-- **A change at one place** leaves the others as they are. -/
lemma Lodging.changed (h : Lodging fs₀ q known l fs) (only : OnlyAt (i.home q) fs fs₁)
    (claims : ∀ logs, logs ≠ i.logDirectory → (.claimed logs ∈ l₁ ↔ .claimed logs ∈ l))
    (kept : ∀ logs, logs ≠ i.logDirectory → logs ∉ l₁.estate.2 → logs ∉ l.estate.2)
    (claimed : .claimed i.logDirectory ∈ l₁) (taken : Taken fs₀ q i l₁ fs₁) :
    Lodging fs₀ q known l₁ fs₁ := by
  have apart {j : Identity} (known_j : j ∈ known) (other : j.name ≠ i.name) :
      j.logDirectory ≠ i.logDirectory ∧ ∀ p, j.home q <+: p → fs₁.layout p = fs.layout p := by
    refine ⟨mt (Identity.logDirectory_eq_iff (named j known_j) (named i member)).1 other, ?_⟩
    exact fun p below => only.elsewhere p fun here => other (Identity.name_eq_of_below below here)
  refine ⟨only.workingDirectory.trans h.workingDirectory, fun p outside => ?_, ?_, ?_⟩
  · rw [only.elsewhere p (outside i member), h.outside p outside]
  · intro j known_j unclaimed p below
    by_cases same : j.name = i.name
    · rw [(Identity.logDirectory_eq_iff (named j known_j) (named i member)).2 same] at unclaimed
      exact absurd claimed unclaimed
    · obtain ⟨logs, elsewhere⟩ := apart known_j same
      rw [elsewhere p below]
      exact h.spared j known_j (mt (claims _ logs).2 unclaimed) p below
  · intro j known_j claimed_j
    by_cases same : j.name = i.name
    · have logs := (Identity.logDirectory_eq_iff (named j known_j) (named i member)).2 same
      have directories : j.dataDirectory = i.dataDirectory := by
        rw [(named j known_j).directory, (named i member).directory, same]
      obtain ⟨vacant, ok, top, gone⟩ := taken
      rw [← Identity.home_eq_of_name same] at vacant top gone
      rw [← directories] at ok
      rw [← logs] at gone
      exact ⟨vacant, ok, top, gone⟩
    · obtain ⟨logs, elsewhere⟩ := apart known_j same
      obtain ⟨vacant, ok, top, gone⟩ := h.taken j known_j ((claims _ logs).1 claimed_j)
      refine ⟨vacant, ok, ?_, fun given_back p below => ?_⟩
      · rwa [elsewhere _ (List.prefix_refl _)]
      · rw [elsewhere p below]
        exact gone (kept _ logs given_back) p below

/-- **A node gives its place back.** -/
theorem Lodging.vacate (h : Lodging fs₀ q known l fs) (claimed : .claimed i.logDirectory ∈ l)
    (razed : Razed (i.home q) fs fs₁)
    (claims : ∀ logs, .claimed logs ∈ l₁ ↔ .claimed logs ∈ l)
    (kept : ∀ logs, logs ≠ i.logDirectory → logs ∉ l₁.estate.2 → logs ∉ l.estate.2) :
    Lodging fs₀ q known l₁ fs₁ := by
  obtain ⟨vacant, ok, -, -⟩ := h.taken i member claimed
  exact h.changed named member razed.toOnlyAt (fun logs _ => claims logs) kept
    ((claims _).2 claimed)
    ⟨vacant, ok, .inl (razed.gone _ (List.prefix_refl _)), fun _ => razed.gone⟩

lemma Lodging.emptied (h : Lodging fs₀ q known l fs) (claimed : .claimed i.logDirectory ∈ l) :
    Lodging fs₀ q known l (fs.eraseBelow (i.home q)) := by
  obtain ⟨vacant, ok, top, gone⟩ := h.taken i member claimed
  have changes : OnlyAt (i.home q) fs (fs.eraseBelow (i.home q)) ∧
      Taken fs₀ q i l (fs.eraseBelow (i.home q)) := by
    by_cases directory : fs.layout (i.home q) = some .directory
    · have emptied := FileSystem.layout_eraseBelow directory
      refine ⟨⟨FileSystem.workingDirectory_eraseBelow, fun p outside => ?_⟩, vacant, ok, .inr ?_,
        fun given_back => ?_⟩
      · rw [emptied, Layout.set_elsewhere outside]
      · rw [emptied, Layout.set_self]
      · have missing := gone given_back _ (List.prefix_refl _)
        rw [directory] at missing
        cases missing
    · have same := FileSystem.layout_eraseBelow_of_missing directory
      refine ⟨⟨FileSystem.workingDirectory_eraseBelow, fun p _ => by rw [same]⟩, vacant, ok, ?_, ?_⟩
      all_goals rw [same]
      · exact top
      · exact gone
  exact h.changed named member changes.1 (fun _ _ => .rfl) (fun _ _ => id) claimed changes.2

variable (ground : fs₀.Ground base known q)
include ground

/-- What passes for vacant when a node looks at it was vacant at the start. -/
lemma Lodging.vacant (h : Lodging fs₀ q known l fs)
    (checked : fs.pathExists i.dataDirectory = .ok false ∨ fs.namesIn i.dataDirectory = .ok []) :
    FileSystem.admissible i.dataDirectory = .ok () ∧ fs.layout.Vacant (i.home q) ∧
      fs₀.layout.Vacant (i.home q) := by
  obtain ⟨reached, directory⟩ := h.reaches ground
  obtain ⟨own, one, short⟩ := named i member
  rw [own] at checked ⊢
  have no_link : ∀ target, fs.layout (i.home q) ≠ some (.link target) := by
    intro target
    by_cases claimed : .claimed i.logDirectory ∈ l
    · rcases (h.taken i member claimed).top with there | there <;> simp [there]
    · rw [h.spared i member claimed _ (List.prefix_refl _)]
      exact ground.no_link i member target
  obtain ⟨ok, vacant⟩ :=
    FileSystem.vacant_of_checked reached directory one short no_link checked
  refine ⟨ok, vacant, ?_⟩
  by_cases claimed : .claimed i.logDirectory ∈ l
  · exact (h.taken i member claimed).vacant
  · exact vacant.congr fun p below => (h.spared i member claimed p below).symm

/-- **A node takes its place over.** -/
theorem Lodging.settle (h : Lodging fs₀ q known l fs)
    (checked : fs.pathExists i.dataDirectory = .ok false ∨ fs.namesIn i.dataDirectory = .ok [])
    (tenant : fs.Tenancy i.dataDirectory fs₁) (entered : l.Claims i.logDirectory l₁) :
    Lodging fs₀ q known l₁ fs₁ := by
  obtain ⟨ok, vacant, vacant₀⟩ := h.vacant named member ground checked
  obtain ⟨own, one, -⟩ := named i member
  rw [own] at tenant
  obtain ⟨same, grown⟩ := tenant.grown (h.reaches ground).1 one vacant
  refine h.changed named member ⟨same, grown.outside⟩ (fun logs other => ?_) (fun logs other => ?_)
    ((entered.claims _).2 (.inl rfl)) ⟨vacant₀, ok, ?_, fun given_back => ?_⟩
  · rw [entered.claims logs, or_iff_right other]
  · rw [entered.directories, Multiset.mem_cons, not_or]
    exact And.right
  · rcases vacant.top with missing | there
    · exact grown.fresh missing
    · have kept := grown.kept (by simp [Identity.home] at there ⊢; simp [there])
      exact .inr (kept.trans there)
  · rw [entered.directories] at given_back
    exact absurd (Multiset.mem_cons_self _ _) given_back

/-- **A place that was taken over can be cleared.** -/
theorem Lodging.removeTree (h : Lodging fs₀ q known l fs) (claimed : .claimed i.logDirectory ∈ l) :
    FileAction.Leaves (fun _ => Razed (i.home q) fs)
      (fun e fs' => e = .notFound ∧ Razed (i.home q) fs fs')
      (FileSystem.removeTree i.dataDirectory) fs := by
  obtain ⟨-, ok, top, -⟩ := h.taken i member claimed
  obtain ⟨own, one, short⟩ := named i member
  have child {fs' : FileSystem} (h' : Lodging fs₀ q known l fs') : fs'.Child base i.name q :=
    ⟨(h'.reaches ground).1, (h'.reaches ground).2, one, short, own ▸ ok⟩
  rw [own]
  exact (child h).removeTree top (child (h.emptied named member claimed))

end Changes

end Lodging

end ShardCluster
