import ShardCluster.Proofs.Anchors
import ShardCluster.Proofs.Children
import ShardCluster.Proofs.Tenancy

/-!
# Building along a path

Directories are created along a path that is vacant, and more is put behind it. All that is new is
then where the path leads in the end (`FileSystem.Built`), or on the way there, and if the path
leads there, it is anchored (`Built.anchored`).
-/

namespace ShardCluster

open FileSystem (linkLimit nameLimit)
open ShardCluster.Path (IsPlain)

namespace Layout

/-! ### Ways down -/

/-- where names lead from a place, if none of them goes up and there are no links -/
def downward (names : List Bytes) : Place := names.filter (· ≠ [Path.dot])

section Down

variable {m m₀ : Layout} {home goal p q r s : Place} {names ns rest : List Bytes} {name : Bytes}
  {n n' k : Nat}

lemma downward_dot : downward ([Path.dot] :: names) = downward names := by
  simp [downward]

lemma downward_plain (plain : IsPlain name) :
    downward (name :: names) = name :: downward names := by
  simp [downward, plain.1]

lemma downward_append : downward (names ++ rest) = downward names ++ downward rest :=
  List.filter_append ..

lemma Route.down (no_up : Path.up ∉ names) (there : ∀ before name,
      before ++ [name] <+: downward names →
        m (s ++ before ++ [name]) = some .directory ∧ name.length ≤ nameLimit) :
    m.Route n s names n (s ++ downward names) := by
  induction names generalizing s with
  | nil =>
    rw [downward, List.filter_nil, List.append_nil]
    exact .stay n s
  | cons name rest ih =>
    have no_up' : Path.up ∉ rest := fun h => no_up (List.mem_cons_of_mem _ h)
    by_cases one : name = [Path.dot]
    · rw [one, downward_dot] at there ⊢
      exact .here (ih no_up' there)
    have plain : IsPlain name := ⟨one, fun h => no_up (h ▸ List.mem_cons_self)⟩
    rw [downward_plain plain] at there ⊢
    obtain ⟨found, short⟩ := there [] name (List.prefix_append [name] _)
    rw [List.append_nil] at found
    rw [List.append_cons]
    refine .enter plain short found (ih no_up' fun before name' further => ?_)
    have := there (name :: before) name' (List.cons_prefix_cons.2 ⟨rfl, further⟩)
    rwa [List.append_cons s name before] at this

lemma Route.onward (before : m.Route n p ns n' q) (plain : IsPlain name) (no_up : Path.up ∉ rest)
    (there : ∀ r part, q ++ [name] <+: r ++ [part] → r ++ [part] <+: q ++ [name] ++ downward rest →
      m (r ++ [part]) = some .directory ∧ part.length ≤ nameLimit) :
    m.Route n p (ns ++ name :: rest) n' (q ++ [name] ++ downward rest) := by
  obtain ⟨found, short⟩ := there q name (List.prefix_refl _) (List.prefix_append _ _)
  refine before.append (.enter plain short found (.down no_up fun before part first => ?_))
  refine there _ part ?_ ?_
  · rw [List.append_assoc _ before]
    exact List.prefix_append _ _
  · rwa [List.append_assoc _ before, List.prefix_append_right_inj]

/-- There are no links on the way down from a place. -/
def Unlinked (m : Layout) (s : Place) (names : List Bytes) : Prop :=
  ∀ p target, s <+: p → p ≠ s → p <+: s ++ downward names → m p ≠ some (.link target)

lemma Unlinked.here (h : m.Unlinked s ([Path.dot] :: rest)) : m.Unlinked s rest := by
  unfold Unlinked at h
  rwa [downward_dot] at h

lemma Unlinked.further (h : m.Unlinked s (name :: rest)) (plain : IsPlain name) :
    m.Unlinked (s ++ [name]) rest := by
  unfold Unlinked at h
  rw [downward_plain plain, List.append_cons] at h
  intro p target below _ first
  refine h p target ((List.prefix_append _ _).trans below) ?_ first
  rintro rfl
  exact absurd below.length_le (by simp)

lemma Unlinked.next (h : m.Unlinked s (name :: rest)) (plain : IsPlain name) (target : Path) :
    m (s ++ [name]) ≠ some (.link target) := by
  unfold Unlinked at h
  rw [downward_plain plain, List.append_cons] at h
  exact h _ target (List.prefix_append _ _) (by simp) (List.prefix_append _ _)

lemma Unlinked.first (h : m.Unlinked s (ns ++ rest)) : m.Unlinked s ns := by
  intro p target below ne first
  refine h p target below ne (first.trans ?_)
  rw [downward_append, ← List.append_assoc]
  exact List.prefix_append _ _

lemma Route.straight (route : m.Route n s names k q) (no_up : Path.up ∉ names)
    (unlinked : m.Unlinked s names) : q = s ++ downward names := by
  induction route with
  | stay => rw [downward, List.filter_nil, List.append_nil]
  | here _ ih =>
    rw [downward_dot]
    exact ih (fun h => no_up (List.mem_cons_of_mem _ h)) unlinked.here
  | up => exact absurd List.mem_cons_self no_up
  | enter plain _ _ _ ih =>
    rw [downward_plain plain, List.append_cons]
    exact ih (fun h => no_up (List.mem_cons_of_mem _ h)) (unlinked.further plain)
  | follow plain _ found => exact absurd found (unlinked.next plain _)

lemma Grown.straight (h : Grown m₀ home m) (start : home <+: s) (no_up : Path.up ∉ names)
    (route : m.Route n s names k q) : q = s ++ downward names := by
  refine route.straight no_up fun p target below ne _ => h.inside p (start.trans below) ?_ target
  rintro rfl
  exact ne (List.IsPrefix.eq_of_length_le start below.length_le)

lemma Grown.enter (h : Grown m₀ (p ++ [name]) m) (missing : m₀ (p ++ [name]) = none)
    (plain : IsPlain name) (route : m.Route n p (name :: rest) k q) :
    m.Route n (p ++ [name]) rest k q := by
  cases route with
  | here => exact absurd rfl plain.1
  | up => exact absurd rfl plain.2
  | enter _ _ _ tail => exact tail
  | follow _ _ found _ => rcases h.fresh missing with h | h <;> rw [h] at found <;> cases found

end Down

/-! ### Aims -/

/-- **Where names lead in the end**, once there is a directory at each of them, and the first place
on the way there at which nothing is yet. -/
inductive Aims (m : Layout) (n : Nat) (p : Place) (names : List Bytes) : Place → Place → Prop
  | there {n' : Nat} {home : Place} : m.Route n p names n' home → Aims m n p names home home
  | missing {ns rest : List Bytes} {name : Bytes} {n' : Nat} {q : Place} :
      names = ns ++ name :: rest → m.Route n p ns n' q → IsPlain name → Path.up ∉ rest →
      m (q ++ [name]) = none → Aims m n p names (q ++ [name]) (q ++ [name] ++ downward rest)

section Aims

variable {m m₀ : Layout} {home goal p q r : Place} {names ns extra : List Bytes} {name : Bytes}
  {n k : Nat}

lemma Heads.aims (h : m.Heads n p names home) : ∃ goal, m.Aims n p names home goal := by
  cases h with
  | there route => exact ⟨_, .there route⟩
  | missing parts route plain down missing => exact ⟨_, .missing parts route plain down missing⟩

lemma Heads.eq_of_route (h : m.Heads n p names home) (whole : m.Route n p names k r) :
    home = r := by
  cases h with
  | there route => exact (whole.unique route).2
  | @missing _ rest _ _ _ parts before plain _ missing =>
    exact absurd missing (whole.present ⟨rest, by simp [parts]⟩ plain before)

lemma Aims.home_prefix (h : m.Aims n p names home goal) : home <+: goal := by
  cases h with
  | there => exact List.prefix_refl _
  | missing => exact List.prefix_append _ _

theorem Aims.eq_goal (h : m₀.Aims n p names home goal) (grown : Grown m₀ home m)
    (route : m.Route n p names k r) : r = goal := by
  cases h with
  | there whole => exact ((whole.of_fewer grown.fewer).unique route).2
  | @missing ns rest name n' q parts before plain down missing =>
    rw [parts] at route
    obtain ⟨_, _, before', after⟩ := route.split
    obtain ⟨rfl, rfl⟩ := (before.of_fewer grown.fewer).unique before'
    exact grown.straight (List.prefix_refl _) down (grown.enter missing plain after)

theorem Aims.beyond (h : m₀.Aims n p names home goal) (grown : Grown m₀ home m)
    (route : m.Route n p (names ++ extra) k r) (down : Path.up ∉ extra) :
    r = goal ++ downward extra := by
  obtain ⟨_, q, whole, after⟩ := route.split
  obtain rfl := h.eq_goal grown whole
  exact grown.straight h.home_prefix down after

/-- **Each of the names** leads on to something that was there, or on the way to the aim. -/
theorem Aims.ahead (h : m₀.Aims n p names home goal) (grown : Grown m₀ home m)
    (route : m.Route n p ns k q) (first : ns ++ [name] <+: names) (plain : IsPlain name) :
    m₀ (q ++ [name]) ≠ none ∧ (ns ++ [name] = names → ∃ k r, m₀.Route n p names k r) ∨
      (home <+: q ++ [name] ∧ q ++ [name] <+: goal) ∧ m₀ home = none ∧
        ∀ k r, ¬ m₀.Route n p names k r := by
  have present {all : List Bytes} {n' : Nat} {r : Place} (whole : m₀.Route n p all n' r)
      (first : ns ++ [name] <+: all) : m₀ (q ++ [name]) ≠ none := by
    obtain ⟨rest, rfl⟩ := first
    have parts : ns ++ [name] ++ rest = ns ++ ([name] ++ rest) := List.append_assoc ..
    obtain ⟨_, q', before, -⟩ := (parts ▸ whole).split
    obtain ⟨-, rfl⟩ := (before.of_fewer grown.fewer).unique route
    exact whole.present (List.prefix_append _ _) plain before
  cases h with
  | there whole => exact .inl ⟨present whole first, fun _ => ⟨_, _, whole⟩⟩
  | @missing ns₀ rest name' n' q₀ parts before plain' down missing =>
    have unreached : ∀ k r, ¬ m₀.Route n p names k r := fun k r whole =>
      whole.present ⟨rest, by simp [parts]⟩ plain' before missing
    have short : ns ++ [name] <+: ns₀ → ns ++ [name] ≠ names := by
      rintro early rfl
      have := early.length_le
      rw [parts, List.length_append, List.length_cons] at this
      omega
    rw [parts] at first
    -- before the missing name, a route that was there tells; from it on, the way goes down
    rcases List.prefix_or_prefix_of_prefix first (List.prefix_append ns₀ (name' :: rest)) with
      early | late
    · exact .inl ⟨present before early, fun all => absurd all (short early)⟩
    rcases List.prefix_concat_iff.1 late with same | ⟨more, rfl⟩
    · have early : ns ++ [name] <+: ns₀ := same ▸ List.prefix_refl _
      exact .inl ⟨present before early, fun all => absurd all (short early)⟩
    right
    rw [List.append_assoc, List.prefix_append_right_inj] at first
    obtain ⟨_, q₁, before', after⟩ := route.split
    obtain ⟨rfl, rfl⟩ := (before.of_fewer grown.fewer).unique before'
    cases more with
    | nil =>
      cases after
      obtain ⟨rfl, -⟩ := List.cons_prefix_cons.1 first
      exact ⟨⟨List.prefix_refl _, List.prefix_append _ _⟩, missing, unreached⟩
    | cons next more =>
      obtain ⟨rfl, further⟩ := List.cons_prefix_cons.1 first
      have no_up : Path.up ∉ more := fun h =>
        down (further.subset (List.mem_append_left _ h))
      have place : q ++ [name] = q₁ ++ [next] ++ downward (more ++ [name]) := by
        have at_home : q = q₁ ++ [next] ++ downward more :=
          grown.straight (List.prefix_refl _) no_up (grown.enter missing plain' after)
        rw [at_home, downward_append, downward_plain plain, List.append_assoc]
        rfl
      rw [place]
      refine ⟨⟨List.prefix_append _ _, ?_⟩, missing, unreached⟩
      rw [List.prefix_append_right_inj]
      exact further.filter _

end Aims

end Layout

namespace FileSystem

open FileAction (Leaves)
open ShardCluster.Layout (Aims downward downward_append)

variable {fs₀ fs : FileSystem} {path above : Path} {home goal p q place : Place} {name : Bytes}
  {ns extra : List Bytes} {content : Bytes}

/-! ### What is built -/

/-- A directory created on the way to where a path leads, which it did not lead to before. -/
structure Paved (fs₀ : FileSystem) (path : Path) (goal : Place) (fs : FileSystem) (p : Place) :
    Prop where
  directory : fs.layout p = some .directory
  onTheWay : p <+: goal
  short : ∀ q name, p = q ++ [name] → name.length ≤ nameLimit
  unreached : ∀ q, ¬ fs₀.Reaches path path.names q

/-- **What is built along a path** and behind it: what is new is on the way to where the path leads
in the end, or in the directory there. -/
structure Built (fs₀ : FileSystem) (path : Path) (home goal : Place) (fs : FileSystem) : Prop where
  workingDirectory : fs.workingDirectory = fs₀.workingDirectory
  grown : fs₀.layout.Grown home fs.layout
  placed : ∀ p, fs₀.layout p = none → fs.layout p ≠ none →
    Paved fs₀ path goal fs p ∨ goal <+: p ∧ p ≠ goal

lemma Built.refl (bare : ∀ p, home <+: p → p ≠ home → fs.layout p = none) :
    Built fs path home goal fs :=
  ⟨rfl, .refl bare, fun _ missing there => absurd missing there⟩

lemma Built.insert {entry : Entry} (h : Built fs₀ path home goal fs)
    (directory : fs.layout q = some .directory) (bare : entry.isBare)
    (grown : fs₀.layout.Grown home (fs.layout.set (q ++ [name]) (some entry.shape)))
    (placed : (entry.shape = .directory ∧ q ++ [name] <+: goal ∧ name.length ≤ nameLimit ∧
        ∀ q, ¬ fs₀.Reaches path path.names q) ∨ goal <+: q ++ [name] ∧ q ++ [name] ≠ goal) :
    Built fs₀ path home goal (fs.insert (q ++ [name]) entry) := by
  have layout : (fs.insert (q ++ [name]) entry).layout =
      fs.layout.set (q ++ [name]) (some entry.shape) := layout_insert directory bare
  refine ⟨workingDirectory_insert.trans h.workingDirectory, layout ▸ grown,
    fun p missing there => ?_⟩
  by_cases here : p = q ++ [name]
  · rw [here]
    refine placed.imp (fun ⟨is_directory, onTheWay, short, unreached⟩ => ?_) id
    refine ⟨?_, onTheWay, fun q' name' same => ?_, unreached⟩
    · rw [layout, Layout.set_self, is_directory]
    · obtain ⟨-, last⟩ := List.append_inj' same rfl
      obtain rfl := List.singleton_injective last
      exact short
  have elsewhere : ¬ q ++ [name] <+: p := fun below =>
    there (by rw [layout, Layout.set_below below here])
  have same : (fs.insert (q ++ [name]) entry).layout p = fs.layout p := by
    rw [layout, Layout.set_elsewhere elsewhere]
  rw [same] at there
  exact (h.placed p missing there).imp
    (fun paved => ⟨same.trans paved.directory, paved.onTheWay, paved.short, paved.unreached⟩) id

variable (aims : fs₀.layout.Aims linkLimit (fs₀.origin path) path.names home goal)
include aims

theorem Built.createDirectory (h : Built fs₀ path home goal fs)
    (names : above.names <+: path.names ++ extra) (absolute : above.isAbsolute = path.isAbsolute)
    (down : Path.up ∉ extra) :
    Leaves (fun _ => Built fs₀ path home goal) (fun _ => Built fs₀ path home goal)
      (createDirectory above) fs := by
  refine putNew_spec.mono ?_ fun _ _ same => same ▸ h
  rintro - _ ⟨ns, name, q, parts, plain, reached, directory, short, nothing, rfl⟩
  obtain ⟨n, route⟩ : fs.Reaches path ns q := by
    unfold Reaches origin at reached ⊢
    rwa [absolute] at reached
  rw [origin_congr h.workingDirectory] at route
  rw [parts] at names
  have grown (inside : home <+: q ++ [name]) :
      fs₀.layout.Grown home (fs.layout.set (q ++ [name]) (some .directory)) := by
    by_cases at_home : q ++ [name] = home
    · rw [at_home] at nothing ⊢
      exact h.grown.set_home (.inl nothing)
    · exact h.grown.set_inside inside at_home (by simp)
  -- the new name is one of the path's own, or behind all of them
  rcases first_names names with early | ⟨more, rfl, late⟩
  · rcases aims.ahead h.grown route early plain with
      ⟨there, -⟩ | ⟨⟨inside, onTheWay⟩, -, unreached⟩
    · exact absurd nothing fun missing => there ((h.grown.fewer _).elim (·.trans missing) id)
    · exact h.insert directory rfl (grown inside)
        (.inl ⟨rfl, onTheWay, short, fun q ⟨k, whole⟩ => unreached k q whole⟩)
  · have no_up : Path.up ∉ more := fun hu => down (late.subset (List.mem_append_left _ hu))
    have place := aims.beyond h.grown route no_up
    have inside : goal <+: q ++ [name] := by
      rw [place, List.append_assoc]
      exact List.prefix_append _ _
    refine h.insert directory rfl (grown (aims.home_prefix.trans inside)) (.inr ⟨inside, ?_⟩)
    intro same
    have := congrArg List.length same
    rw [place] at this
    simp at this

theorem Built.createDirectories (h : Built fs₀ path home goal fs)
    (names : above.names = path.names ++ extra) (absolute : above.isAbsolute = path.isAbsolute)
    (down : Path.up ∉ extra) :
    Leaves (fun _ => Built fs₀ path home goal) (fun _ => Built fs₀ path home goal)
      (createDirectories above) fs :=
  createDirectories_keeps (fun _ first same _ h =>
    h.createDirectory aims (names ▸ first) (same.trans absolute) down) h

theorem Built.writeFile (h : Built fs₀ path home goal fs)
    (names : above.names = path.names ++ extra) (absolute : above.isAbsolute = path.isAbsolute)
    (down : Path.up ∉ extra) (ne : extra ≠ []) :
    Leaves (fun _ => Built fs₀ path home goal) (fun _ => Built fs₀ path home goal)
      (writeFile above content) fs := by
  refine writeFile_spec.mono ?_ fun _ _ same => same ▸ h
  rintro - _ ⟨place, ⟨ns, name, q, parts, plain, reached, directory, arrived⟩, rfl⟩
  obtain ⟨n, route⟩ : fs.Reaches path (path.names ++ extra.dropLast) q := by
    have : ns = path.names ++ extra.dropLast := by
      rw [← List.dropLast_append_of_ne_nil ne, ← names, parts, List.dropLast_concat]
    unfold Reaches origin at reached ⊢
    rwa [absolute, this] at reached
  rw [origin_congr h.workingDirectory] at route
  have at_goal := aims.beyond h.grown route fun hu => down (List.dropLast_subset _ hu)
  have inside : goal <+: q ++ [name] := by
    rw [at_goal, List.append_assoc]
    exact List.prefix_append _ _
  have other : q ++ [name] ≠ goal := by
    intro same
    have := congrArg List.length same
    rw [at_goal] at this
    simp at this
  have below : home <+: q ++ [name] := aims.home_prefix.trans inside
  have ne_home : q ++ [name] ≠ home := by
    rintro same
    exact other (List.IsPrefix.eq_of_length_le inside
      (same ▸ aims.home_prefix.length_le)).symm
  rcases arrived with ⟨rfl, -⟩ | ⟨target, link⟩
  · exact h.insert directory trivial (h.grown.set_inside below ne_home (by simp [Entry.shape]))
      (.inr ⟨inside, other⟩)
  · exact absurd link (h.grown.inside _ below ne_home target)

/-! ### Where it all is -/

/-- **A directory above** where a path leads: its first names lead there, and the other ones only
go down. -/
def Above (fs : FileSystem) (path : Path) (p : Place) : Prop :=
  ∃ ns rest, path.names = ns ++ rest ∧ (∃ name ∈ rest, IsPlain name) ∧ Path.up ∉ rest ∧
    fs.Reaches path ns p

omit aims in
/-- On the way from the first missing name to a directory there are directories with names that are
not too long. -/
lemma Built.way {d r : Place} {part : Bytes} (h : Built fs₀ path home goal fs)
    (missing : fs₀.layout home = none) (directory : fs.layout d = some .directory)
    (onTheWay : d <+: goal) (inside : home <+: r ++ [part]) (before : r ++ [part] <+: d) :
    fs.layout (r ++ [part]) = some .directory ∧ part.length ≤ nameLimit := by
  have there : fs.layout (r ++ [part]) = some .directory := by
    obtain ⟨more, rfl⟩ := before
    by_cases here : more = []
    · rwa [here, List.append_nil] at directory
    · exact directory_of_layout_append (by rw [directory]; simp) here
  have new : fs₀.layout (r ++ [part]) = none := by
    by_cases at_home : r ++ [part] = home
    · rw [at_home, missing]
    · exact h.grown.bare _ inside at_home
  rcases h.placed _ new (by rw [there]; simp) with paved | ⟨behind, other⟩
  · exact ⟨there, paved.short _ _ rfl⟩
  · exact absurd (List.IsPrefix.eq_of_length_le behind (before.trans onTheWay).length_le).symm other

lemma Built.without (h : Built fs₀ path home goal fs) (directory : fs.layout goal = some .directory)
    (p : Place) : fs₀.layout p = fs.layout.set goal (some .directory) p ∨ fs₀.layout p = none := by
  rcases there : fs₀.layout p with _ | s
  · exact .inr rfl
  left
  refine (Layout.set_directory_of_outside (fun below => ?_) directory ?_).symm
  · by_contra other
    have ne_home : p ≠ home := by
      rintro rfl
      exact other (List.IsPrefix.eq_of_length_le below aims.home_prefix.length_le).symm
    have nothing := h.grown.bare p (aims.home_prefix.trans below) ne_home
    rw [there] at nothing
    cases nothing
  · rw [h.grown.same (by rw [there]; simp), there]

lemma Built.no_link (h : Built fs₀ path home goal fs)
    (no_link : ∀ place target, fs₀.find path .kept ≠ .ok (place, .link target)) (place : Place)
    (target : Path) : fs.find path .kept ≠ .ok (place, .link target) := by
  intro found
  obtain ⟨ns, name, q, parts, plain, ⟨_, first⟩, rfl⟩ := find_other found (by simp)
  obtain other | ⟨-, _, _, -, -, link⟩ := walkOn_arrived (resolve_eq (find_eq found))
  · cases other
  rw [origin_congr h.workingDirectory] at first
  rcases aims.ahead h.grown first (parts ▸ List.prefix_refl _) plain with
    ⟨-, whole⟩ | ⟨⟨inside, -⟩, missing, -⟩
  · obtain ⟨k, r, whole⟩ := whole parts.symm
    obtain ⟨_, named⟩ := named_of_reaches (admissible_of_find found) ⟨k, whole⟩ no_link
    obtain ⟨_, named', alike⟩ := find_of_fewer h.workingDirectory h.grown.fewer named
    rw [found] at named'
    cases named'
    cases alike
  · by_cases at_home : q ++ [name] = home
    · rw [at_home] at link
      rcases h.grown.fresh missing with there | there <;> rw [there] at link <;> cases link
    · exact h.grown.inside _ inside at_home target link

/-- **Where the path leads to a directory in the end**, it is anchored there. -/
theorem Built.anchored (h : Built fs₀ path home goal fs) (ok : admissible path = .ok ())
    (no_link : ∀ place target, fs₀.find path .kept ≠ .ok (place, .link target))
    (directory : fs.layout goal = some .directory) : fs.Anchored path goal := by
  have fewer := h.without aims directory
  have ⟨k, route⟩ : ∃ k, (fs.layout.set goal (some .directory)).Route linkLimit (fs.origin path)
      path.names k goal := by
    rw [origin_congr h.workingDirectory]
    cases aims with
    | there whole => exact ⟨_, whole.of_fewer fewer⟩
    | @missing ns rest name n q parts before plain down missing =>
      rw [parts]
      refine ⟨_, (before.of_fewer fewer).onward plain down fun r part inside first => ?_⟩
      obtain ⟨there, short⟩ := h.way missing directory (List.prefix_refl _) inside first
      refine ⟨Layout.set_directory_of_outside (fun below => ?_) directory there, short⟩
      exact (List.IsPrefix.eq_of_length_le below first.length_le).symm
  have reached : fs.Reaches path path.names goal :=
    ⟨k, route.of_passable fun _ _ there _ => Layout.set_directory_eq directory there⟩
  exact ⟨directory, ⟨k, route⟩, named_of_reaches ok reached (h.no_link aims no_link)⟩

omit aims in
lemma exists_of_downward_prefix {names : List Bytes} {r : Place} (first : r <+: downward names)
    (ne : r ≠ downward names) : ∃ ns rest, names = ns ++ rest ∧ downward ns = r ∧
      ∃ name ∈ rest, name ≠ [Path.dot] := by
  obtain ⟨more, whole⟩ := first
  obtain ⟨ns, rest, rfl, rfl, further⟩ := List.filter_eq_append_iff.1 whole.symm
  refine ⟨ns, rest, rfl, rfl, ?_⟩
  have some_left : more ≠ [] := by
    rintro rfl
    rw [List.append_nil] at whole
    exact ne whole
  obtain ⟨name, listed⟩ := List.exists_mem_of_ne_nil more some_left
  rw [← further, List.mem_filter] at listed
  exact ⟨name, listed.1, by simpa using listed.2⟩

/-- **What is created on the way** is above where the path leads, or there. -/
theorem Paved.isAbove (h : Built fs₀ path home goal fs) (paved : Paved fs₀ path goal fs p)
    (new : fs₀.layout p = none) (other : p ≠ goal) : fs.Above path p := by
  have inside : home <+: p := by
    by_contra outside
    have there := paved.directory
    rw [h.grown.outside p outside, new] at there
    cases there
  cases aims with
  | there whole => exact absurd ⟨_, whole⟩ (paved.unreached _)
  | @missing ns rest name n q parts before plain down missing =>
    obtain ⟨r, rfl⟩ := inside
    have first : r <+: downward rest := (List.prefix_append_right_inj _).1 paved.onTheWay
    obtain ⟨ns', rest', rfl, rfl, left⟩ :=
      exists_of_downward_prefix first fun same => other (by rw [same])
    have down' : Path.up ∉ ns' := fun hu => down (List.mem_append_left _ hu)
    have down'' : Path.up ∉ rest' := fun hu => down (List.mem_append_right _ hu)
    obtain ⟨name', listed, no_dot⟩ := left
    refine ⟨ns ++ name :: ns', rest', by simp [parts],
      ⟨name', listed, no_dot, fun hu => down'' (hu ▸ listed)⟩, down'', n, ?_⟩
    rw [origin_congr h.workingDirectory]
    exact (before.of_fewer h.grown.fewer).onward plain down' fun r part inside first =>
      h.way missing paved.directory paved.onTheWay inside first

/-- **All that is new**, but for directories above, is where the path leads, or there is nothing of
it. -/
theorem Built.confined (h : Built fs₀ path home goal fs) :
    (∀ p, fs₀.layout p = none → fs.layout p ≠ none → fs.Above path p) ∨
      fs.layout goal = some .directory ∧
        ∀ p, fs₀.layout p = none → fs.layout p ≠ none → ¬ fs.Above path p → goal <+: p := by
  by_cases directory : fs.layout goal = some .directory
  · refine .inr ⟨directory, fun p new there below => ?_⟩
    rcases h.placed p new there with paved | ⟨behind, -⟩
    · by_contra outside
      exact below (paved.isAbove aims h new fun same => outside (same ▸ List.prefix_refl _))
    · exact behind
  · refine .inl fun p new there => ?_
    rcases h.placed p new there with paved | ⟨⟨more, rfl⟩, other⟩
    · exact paved.isAbove aims h new fun same => directory (same ▸ paved.directory)
    · exact absurd (directory_of_layout_append there (by simpa using other)) directory

end FileSystem

end ShardCluster
