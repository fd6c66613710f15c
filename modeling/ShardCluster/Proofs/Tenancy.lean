import ShardCluster.Proofs.FileChanges

/-!
# Tenancies

Somebody who creates directories and files along a path, and removes the tree the path leads to in
the end, may find that the path leads elsewhere than before. If it was direct (`FileSystem.Direct`)
and led to an empty directory or to nothing at the start, it does not: the files have only grown at
one place, to which the path and everything behind it leads (`FileSystem.Tenancy`). A tenancy
begins with a vacant path (`tenancy_of_empty`, `tenancy_of_missing`), is kept by what is created
along the path and inside, and when the tree is removed, all that was there at the start is spared
(`Tenancy.cleared`).
-/

namespace ShardCluster

open FileSystem (base nameLimit linkLimit)
open ShardCluster.Path (IsPlain)

namespace Layout

/-! ### Where names lead -/

/-- Where names lead: to a directory, or to a place where nothing is yet and that the names after it
do not leave again. -/
inductive Heads (m : Layout) (n : Nat) (p : Place) (names : List Bytes) : Place → Prop
  | there {n' : Nat} {home : Place} : m.Route n p names n' home → Heads m n p names home
  | missing {ns rest : List Bytes} {name : Bytes} {n' : Nat} {q : Place} :
      names = ns ++ name :: rest → m.Route n p ns n' q → IsPlain name → Path.up ∉ rest →
      m (q ++ [name]) = none → Heads m n p names (q ++ [name])

/-- **A layout that has grown** at a place where there was nothing, or below a directory where there
was nothing in it. No links have grown. -/
structure Grown (m₀ : Layout) (home : Place) (m : Layout) : Prop where
  bare : ∀ p, home <+: p → p ≠ home → m₀ p = none
  outside : ∀ p, ¬ home <+: p → m p = m₀ p
  inside : ∀ p, home <+: p → p ≠ home → ∀ target, m p ≠ some (.link target)
  kept : m₀ home ≠ none → m home = m₀ home
  fresh : m₀ home = none → m home = none ∨ m home = some .directory

section Grown

variable {m₀ m : Layout} {home p p' q : Place} {names ns extra rest : List Bytes} {name : Bytes}
  {n k k' : Nat} {s : Option Shape}

lemma Grown.refl (bare : ∀ p, home <+: p → p ≠ home → m₀ p = none) : Grown m₀ home m₀ where
  bare := bare
  outside _ _ := rfl
  inside p hp ne target := by simp [bare p hp ne]
  kept _ := rfl
  fresh h := .inl h

lemma Grown.same (h : Grown m₀ home m) (there : m₀ p ≠ none) : m p = m₀ p := by
  by_cases below : home <+: p
  · by_cases at_home : p = home
    · subst at_home
      exact h.kept there
    · exact absurd (h.bare p below at_home) there
  · exact h.outside p below

lemma Grown.fewer (h : Grown m₀ home m) (p : Place) : m₀ p = m p ∨ m₀ p = none := by
  by_cases there : m₀ p = none
  · exact .inr there
  · exact .inl (h.same there).symm

lemma Grown.set_inside (h : Grown m₀ home m) (below : home <+: q) (ne : q ≠ home)
    (no_link : ∀ target, s ≠ some (.link target)) : Grown m₀ home (m.set q s) := by
  have at_home : m.set q s home = m home := Layout.set_elsewhere fun h' =>
    ne (List.IsPrefix.eq_of_length_le h' below.length_le)
  refine ⟨h.bare, fun p hp => ?_, fun p hp hne target => ?_, ?_, ?_⟩
  · rw [Layout.set_elsewhere fun h' => hp (below.trans h')]
    exact h.outside p hp
  · by_cases hq : q <+: p
    · by_cases same : p = q
      · rw [same, Layout.set_self]
        exact no_link target
      · simp [Layout.set_below hq same]
    · rw [Layout.set_elsewhere hq]
      exact h.inside p hp hne target
  · rw [at_home]
    exact h.kept
  · rw [at_home]
    exact h.fresh

lemma Grown.set_home (h : Grown m₀ home m) (open_ : m home = none ∨ m home = some .directory) :
    Grown m₀ home (m.set home (some .directory)) := by
  refine ⟨h.bare, fun p hp => ?_, fun p hp hne target => ?_, fun there => ?_, fun _ => ?_⟩
  · rw [Layout.set_elsewhere hp]
    exact h.outside p hp
  · simp [Layout.set_below hp hne]
  · rw [Layout.set_self, ← h.kept there]
    rcases open_ with none | directory
    · rw [h.kept there] at none
      exact absurd none there
    · exact directory.symm
  · exact .inr Layout.set_self

/-! ### Routes into what has grown -/

lemma Grown.inward (h : Grown m₀ home m) (route : m.Route n p rest k q) (down : Path.up ∉ rest)
    (start : home <+: p) : home <+: q := by
  induction route with
  | stay => exact start
  | here _ ih => exact ih (fun h => down (List.mem_cons_of_mem _ h)) start
  | up => exact absurd (List.mem_cons_self ..) down
  | enter _ _ _ _ ih =>
    exact ih (fun h => down (List.mem_cons_of_mem _ h)) (start.trans (List.prefix_append _ _))
  | @follow _ _ p _ name _ target _ _ found _ _ =>
    refine absurd found (h.inside _ (start.trans (List.prefix_append _ _)) ?_ target)
    rintro rfl
    exact absurd start.length_le (by simp)

lemma Grown.homeward (h : Grown m₀ (p ++ [name]) m) (missing : m₀ (p ++ [name]) = none)
    (plain : IsPlain name) (route : m.Route n p (name :: rest) k q) (down : Path.up ∉ rest) :
    p ++ [name] <+: q := by
  cases route with
  | here => exact absurd rfl plain.1
  | up => exact absurd rfl plain.2
  | enter _ _ _ tail => exact h.inward tail down (List.prefix_refl _)
  | follow _ _ found _ => rcases h.fresh missing with h | h <;> rw [h] at found <;> cases found

lemma Grown.beyond {name' : Bytes} (h : Grown m₀ (p' ++ [name]) m) (before : m₀.Route n p ns k' p')
    (missing : m₀ (p' ++ [name]) = none) (plain : IsPlain name) (down : Path.up ∉ rest)
    (route : m.Route n p (ns ++ extra) k q) (first : extra ++ [name'] <+: name :: rest) :
    p' ++ [name] <+: q ++ [name'] := by
  obtain ⟨_, _, before', after⟩ := route.split
  obtain ⟨rfl, rfl⟩ := (before.of_fewer h.fewer).unique before'
  cases extra with
  | nil =>
    cases after
    obtain ⟨rfl, -⟩ := List.cons_prefix_cons.1 first
    exact List.prefix_refl _
  | cons next more =>
    obtain ⟨rfl, further⟩ := List.cons_prefix_cons.1 first
    refine (h.homeward missing plain after fun hu => down ?_).trans (List.prefix_append _ _)
    exact further.subset (List.mem_append_left _ hu)

/-- **A route along all the names and on** leads home or further inside. -/
theorem Heads.inside (heads : m₀.Heads n p names home) (h : Grown m₀ home m)
    (route : m.Route n p (names ++ extra) k q) (down : Path.up ∉ extra) : home <+: q := by
  cases heads with
  | there whole =>
    obtain ⟨n', q', before, after⟩ := route.split
    obtain ⟨-, rfl⟩ := (whole.of_fewer h.fewer).unique before
    exact h.inward after down (List.prefix_refl _)
  | @missing ns rest name _ q' parts before plain down' missing =>
    rw [parts, List.append_assoc] at route
    obtain ⟨_, q'', before', after⟩ := route.split
    obtain ⟨rfl, rfl⟩ := (before.of_fewer h.fewer).unique before'
    exact h.homeward missing plain after fun hu => (List.mem_append.1 hu).elim down' down

/-- **What is missing** along the names is home or inside. -/
theorem Heads.vacant (heads : m₀.Heads n p names home) (h : Grown m₀ home m)
    (route : m.Route n p ns k q) (first : ns ++ [name] <+: names) (plain : IsPlain name)
    (nothing : m (q ++ [name]) = none) : home <+: q ++ [name] := by
  -- what the route and one step further have in common with a route that was there from the start
  have present {all : List Bytes} {n' : Nat} {r : Place} (whole : m₀.Route n p all n' r)
      (first : ns ++ [name] <+: all) : False :=
    (whole.of_fewer h.fewer).present first plain route nothing
  cases heads with
  | there whole => exact (present whole first).elim
  | @missing ns' rest name' _ q' parts before plain' down missing =>
    rw [parts] at first
    rcases List.prefix_or_prefix_of_prefix first (List.prefix_append ns' (name' :: rest)) with
      early | late
    · exact (present before early).elim
    · rcases List.prefix_concat_iff.1 late with same | ⟨more, rfl⟩
      · exact (present before (same ▸ List.prefix_refl _)).elim
      · rw [List.append_assoc, List.prefix_append_right_inj] at first
        exact h.beyond before missing plain' down route first

end Grown

end Layout

namespace FileSystem

open FileAction (Leaves)

/-! ### Direct paths -/

/-- **A direct path** is not empty, and does not go up again after a name at which nothing is. -/
structure Direct (fs : FileSystem) (path : Path) : Prop where
  given : path.bytes ≠ []
  down : ∀ before name after place, path.names = before ++ name :: after →
    fs.walkOn .kept linkLimit (fs.start path) (before ++ [name]) = .ok (place, none) →
    Path.up ∉ after

/-- **A tenancy** at a path, since the files were `fs₀`: something may have grown where the path
leads, or it leads nowhere and nothing can. -/
inductive Tenancy (fs₀ : FileSystem) (path : Path) (fs : FileSystem) : Prop
  | held {home : Place} : fs.workingDirectory = fs₀.workingDirectory →
      fs₀.layout.Heads linkLimit (fs₀.origin path) path.names home →
      fs₀.layout.Grown home fs.layout → Tenancy fs₀ path fs
  | barred : fs.workingDirectory = fs₀.workingDirectory → fs.layout = fs₀.layout →
      (∀ q, ¬ fs₀.Reaches path path.names q) →
      (∀ ns name q, ns ++ [name] <+: path.names → IsPlain name → fs₀.Reaches path ns q →
        fs₀.layout q = some .directory → name.length ≤ nameLimit →
        fs₀.layout (q ++ [name]) ≠ none) →
      Tenancy fs₀ path fs

section Tenancy

variable {fs₀ fs fs' : FileSystem} {path above : Path} {place q home : Place} {name : Bytes}
  {ns extra : List Bytes} {content : Bytes}

/-! ### Taking over what is vacant -/

lemma reaches_iff_of_eq (same : fs.workingDirectory = fs₀.workingDirectory)
    (layout : fs.layout = fs₀.layout) : fs.Reaches path ns q ↔ fs₀.Reaches path ns q := by
  unfold Reaches
  rw [origin_congr same, layout]

theorem tenancy_of_empty (h : fs.namesIn path = .ok []) : Tenancy fs path fs := by
  have ⟨place, found⟩ : ∃ place, fs.find path .followed = .ok (place, .directory []) := by
    unfold namesIn at h
    rcases hf : fs.find path .followed with e | ⟨place, inner | content | target⟩ <;>
      rw [hf] at h <;> simp only [bind, Except.bind] at h
    · cases h
    · obtain rfl : inner = [] := List.map_eq_nil_iff.1 (Except.ok.inj h)
      exact ⟨place, rfl⟩
    · cases h
    · cases h
  obtain ⟨n, route⟩ := reaches_of_find_followed found
  refine .held rfl (.there route) (.refl ?_)
  rintro _ ⟨more, rfl⟩ ne
  have more_ne : more ≠ [] := by simpa using ne
  by_contra there
  obtain ⟨inner, hl⟩ := layout_eq_directory.1 (directory_of_layout_append there more_ne)
  have empty : inner = [] := by
    rcases walkOn_arrived (resolve_eq (find_eq found)) with same | ⟨other, -⟩
    · have hf : fs.folder? place = some inner := by
        unfold folder?
        rw [hl]
      rw [hf] at same
      cases same
      rfl
    · exact absurd rfl other
  rw [layout_append_of_lookup hl, empty] at there
  exact there (Folder.layout_empty more_ne)

lemma admissible_of_missing (given : path.bytes ≠ []) (h : fs.pathExists path = .ok false) :
    admissible path = .ok () := by
  unfold pathExists find resolve at h
  rcases ha : admissible path with e | _
  · rw [ha] at h
    unfold admissible at ha
    simp only [List.isEmpty_iff, given, if_false] at ha
    split_ifs at ha <;> cases ha <;> cases h
  · rfl

/-- A walk that arrives where nothing is has come to its last name, and that is missing. -/
lemma missing_of_walkOn {n : Nat} {p : Place}
    (walk : fs.walkOn .kept n (fs.trailTo p) (ns ++ [name]) = .ok (place, none)) :
    ∃ n' q, fs.layout.Route n p ns n' q ∧ IsPlain name ∧ fs.layout (q ++ [name]) = none := by
  obtain ⟨n', q, route, rest⟩ := route_of_walkOn walk (.inl (List.cons_ne_nil _ _))
  have plain : IsPlain name := by
    constructor
    · rintro rfl
      rw [walkOn_dot, walkOn_nil] at rest
      cases rest
    · rintro rfl
      rw [walkOn_up, walkOn_nil] at rest
      cases rest
  obtain ⟨-, -, ⟨rfl, missing⟩ | ⟨ne, -⟩⟩ := walkOn_single plain rest
  · exact ⟨n', q, route, plain, missing⟩
  · exact absurd rfl ne

theorem tenancy_of_missing (direct : fs.Direct path) (h : fs.pathExists path = .ok false) :
    Tenancy fs path fs := by
  have ok := admissible_of_missing direct.given h
  have nowhere : ∀ q, ¬ fs.Reaches path path.names q := by
    intro q reached
    obtain ⟨inner, found⟩ := find_followed_of_reaches ok reached
    unfold pathExists at h
    rw [found] at h
    cases h
  by_cases some_missing : ∃ before name after place, path.names = before ++ name :: after ∧
      fs.walkOn .kept linkLimit (fs.start path) (before ++ [name]) = .ok (place, none)
  · obtain ⟨before, name, after, place, parts, walk⟩ := some_missing
    have down := direct.down before name after place parts walk
    rw [start_eq] at walk
    obtain ⟨n, q, route, plain, missing⟩ := missing_of_walkOn walk
    refine .held rfl (.missing parts route plain down missing) (.refl ?_)
    rintro _ ⟨more, rfl⟩ ne
    by_contra there
    have := directory_of_layout_append there (by simpa using ne)
    rw [missing] at this
    cases this
  · refine .barred rfl rfl nowhere fun ns name q first plain reached directory short missing => ?_
    obtain ⟨after, parts⟩ := first
    obtain ⟨n, route⟩ := reached
    obtain ⟨entry, he, shape⟩ := entryIn_of_layout directory short
    rw [missing] at shape
    refine some_missing ⟨ns, name, after, q ++ [name], by simp [← parts], ?_⟩
    rw [start_eq, walkOn_append route (.inl (List.cons_ne_nil _ _)), walkOn_plain plain, he]
    rcases entry with _ | entry
    · rfl
    · cases shape

/-! ### What stays in a tenancy -/

lemma first_names (h : ns ++ [name] <+: path.names ++ extra) :
    ns ++ [name] <+: path.names ∨ ∃ more, ns = path.names ++ more ∧ more ++ [name] <+: extra := by
  rcases List.prefix_or_prefix_of_prefix h (List.prefix_append path.names extra) with early | late
  · exact .inl early
  · rcases List.prefix_concat_iff.1 late with same | ⟨more, rfl⟩
    · exact .inl (same ▸ List.prefix_refl _)
    · rw [List.append_assoc, List.prefix_append_right_inj] at h
      exact .inr ⟨more, rfl, h⟩

theorem Tenancy.createDirectory (h : Tenancy fs₀ path fs)
    (names : above.names <+: path.names ++ extra) (absolute : above.isAbsolute = path.isAbsolute)
    (down : Path.up ∉ extra) :
    Leaves (fun _ => Tenancy fs₀ path) (fun _ => Tenancy fs₀ path) (createDirectory above) fs := by
  refine putNew_spec.mono ?_ fun _ _ same => same ▸ h
  rintro - _ ⟨ns, name, q, parts, plain, reached, directory, short, nothing, rfl⟩
  have from_path : fs.Reaches path ns q := by
    unfold Reaches origin at reached ⊢
    rwa [absolute] at reached
  have placed : (fs.insert (q ++ [name]) (.directory [])).layout = _ := layout_insert directory rfl
  rw [parts] at names
  cases h with
  | @held home same heads grown =>
    obtain ⟨n, route⟩ := from_path
    rw [origin_congr same] at route
    have inside : home <+: q ++ [name] := by
      rcases first_names names with early | ⟨more, rfl, late⟩
      · exact heads.vacant grown route early plain nothing
      · refine (heads.inside grown route fun hu => down ?_).trans (List.prefix_append _ _)
        exact late.subset (List.mem_append_left _ hu)
    refine .held (by rw [workingDirectory_insert, same]) heads ?_
    rw [placed]
    by_cases at_home : q ++ [name] = home
    · rw [at_home] at nothing ⊢
      exact grown.set_home (.inl nothing)
    · exact grown.set_inside inside at_home (by simp [Entry.shape])
  | barred same layout nowhere complete =>
    rw [reaches_iff_of_eq same layout] at from_path
    rw [layout] at directory nothing
    rcases first_names names with early | ⟨more, rfl, -⟩
    · exact absurd nothing (complete ns name q early plain from_path directory short)
    · obtain ⟨n, route⟩ := from_path
      obtain ⟨n', q', before, -⟩ := route.split
      exact absurd ⟨n', before⟩ (nowhere q')

theorem Tenancy.createDirectories (h : Tenancy fs₀ path fs)
    (names : above.names = path.names ++ extra) (absolute : above.isAbsolute = path.isAbsolute)
    (down : Path.up ∉ extra) :
    Leaves (fun _ => Tenancy fs₀ path) (fun _ => Tenancy fs₀ path) (createDirectories above) fs :=
  createDirectories_keeps (fun _ first same _ h =>
    h.createDirectory (names ▸ first) (same.trans absolute) down) h

theorem Tenancy.insertFile (h : Tenancy fs₀ path fs) (names : above.names = path.names ++ extra)
    (absolute : above.isAbsolute = path.isAbsolute) (down : Path.up ∉ extra) (ne : extra ≠ [])
    (ends : fs.EndsAt above place) : Tenancy fs₀ path (fs.insert place (.file content)) := by
  obtain ⟨ns, name, q, parts, plain, reached, directory, arrived⟩ := ends
  have from_path : fs.Reaches path (path.names ++ extra.dropLast) q := by
    have : ns = path.names ++ extra.dropLast := by
      rw [← List.dropLast_append_of_ne_nil ne, ← names, parts, List.dropLast_concat]
    unfold Reaches origin at reached ⊢
    rwa [absolute, this] at reached
  cases h with
  | @held home same heads grown =>
    obtain ⟨n, route⟩ := from_path
    rw [origin_congr same] at route
    have inside : home <+: q := heads.inside grown route fun hu =>
      down (List.dropLast_subset _ hu)
    have ne_home : q ++ [name] ≠ home := by
      rintro rfl
      exact absurd inside.length_le (by simp)
    have below : home <+: q ++ [name] := inside.trans (List.prefix_append _ _)
    rcases arrived with ⟨rfl, -⟩ | ⟨target, link⟩
    · refine .held (by rw [workingDirectory_insert, same]) heads ?_
      rw [layout_insert directory (show (Entry.file content).isBare from trivial)]
      exact grown.set_inside below ne_home (by simp [Entry.shape])
    · exact absurd link (grown.inside _ below ne_home target)
  | barred same layout nowhere complete =>
    rw [reaches_iff_of_eq same layout] at from_path
    obtain ⟨n, route⟩ := from_path
    obtain ⟨n', q', before, -⟩ := route.split
    exact absurd ⟨n', before⟩ (nowhere q')

/-! ### What is left alone -/

/-- Whatever was there still is, as it was, but the path may have lost the empty directory or the
link that it named. -/
def Spares (fs₀ : FileSystem) (path : Path) (fs : FileSystem) : Prop :=
  ∀ place entry, fs₀.lookup place = some entry → fs.layout place = some entry.shape ∨
    (fs₀.find path .kept = .ok (place, entry) ∧ entry.isVacant)

lemma Spares.refl : Spares fs path fs := fun _ _ there => .inl (layout_of_lookup there)

lemma Tenancy.same (h : Tenancy fs₀ path fs) (there : fs₀.layout place ≠ none) :
    fs.layout place = fs₀.layout place := by
  cases h with
  | held _ _ grown => exact grown.same there
  | barred _ layout => rw [layout]

theorem Tenancy.spares (h : Tenancy fs₀ path fs) : Spares fs₀ path fs := by
  intro place entry there
  have there := layout_of_lookup there
  refine .inl ?_
  rw [h.same (by simp [there]), there]

theorem Tenancy.emptied (h : Tenancy fs₀ path fs) (emptied : fs.Emptied path fs') :
    Tenancy fs₀ path fs' := by
  obtain ⟨same', unchanged | ⟨place, inner, named, directory, less⟩⟩ := emptied
  · cases h with
    | held same heads grown => exact .held (same'.trans same) heads (unchanged ▸ grown)
    | barred same layout nowhere complete =>
      exact .barred (same'.trans same) (unchanged.trans layout) nowhere complete
  · have reached := reaches_of_find named
    cases h with
    | @held home same heads grown =>
      obtain ⟨n, route⟩ := reached
      rw [origin_congr same, ← List.append_nil path.names] at route
      have inside : home <+: place := heads.inside grown route List.not_mem_nil
      refine .held (same'.trans same) heads ?_
      rw [less]
      by_cases at_home : place = home
      · rw [at_home] at directory ⊢
        exact grown.set_home (.inr directory)
      · exact grown.set_inside inside at_home (by simp)
    | barred same layout nowhere complete =>
      rw [reaches_iff_of_eq same layout] at reached
      exact absurd reached (nowhere place)

lemma Tenancy.bare {entry : Entry} (h : Tenancy fs₀ path fs)
    (named : fs.find path .kept = .ok (place, entry)) (present : fs.layout place = some entry.shape)
    (below : place <+: q) (ne : q ≠ place) : fs₀.layout q = none := by
  by_contra there
  obtain ⟨more, rfl⟩ := below
  have directory : fs.layout place = some .directory :=
    directory_of_layout_append (by rw [h.same there]; exact there) (by simpa using ne)
  rcases entry with inner | content | target
  · have reached := reaches_of_find named
    cases h with
    | @held home same heads grown =>
      obtain ⟨n, route⟩ := reached
      rw [origin_congr same, ← List.append_nil path.names] at route
      have inside : home <+: place := heads.inside grown route List.not_mem_nil
      refine there (grown.bare _ (inside.trans (List.prefix_append _ _)) ?_)
      rintro rfl
      exact absurd inside.length_le (by
        have := List.length_pos_iff.2 (show more ≠ [] by simpa using ne)
        rw [List.length_append]
        omega)
    | barred same layout nowhere complete =>
      rw [reaches_iff_of_eq same layout] at reached
      exact nowhere place reached
  · rw [present] at directory
    cases directory
  · rw [present] at directory
    cases directory

lemma Tenancy.named {entry : Entry} (h : Tenancy fs₀ path fs)
    (named : fs.find path .kept = .ok (place, entry)) (present : fs.layout place = some entry.shape)
    (there : fs₀.layout place ≠ none) :
    ∃ entry₀, fs₀.find path .kept = .ok (place, entry₀) ∧ entry₀.shape = entry.shape := by
  cases h with
  | @held home same heads grown =>
    -- what leads to something at first leads to the same now, and what is missing was not there
    have outside : ¬ home <+: place ∨ fs₀.layout home ≠ none := by
      by_cases inside : home <+: place
      · refine .inr fun missing => there ?_
        by_cases at_home : place = home
        · rwa [at_home]
        · exact grown.bare _ inside at_home
      · exact .inl inside
    cases heads with
    | there route =>
      obtain ⟨_, _, named₀⟩ := find_of_reaches (admissible_of_find named) ⟨_, route⟩
      obtain ⟨_, named₁, alike⟩ := find_of_fewer same grown.fewer named₀
      rw [named] at named₁
      cases named₁
      exact ⟨_, named₀, alike.symm⟩
    | @missing ns rest name _ q parts before plain down missing =>
      refine absurd ?_ (outside.resolve_right fun h => h missing)
      by_cases directory : ∃ inner, entry = .directory inner
      · obtain ⟨inner, rfl⟩ := directory
        obtain ⟨n, route⟩ := reaches_of_find named
        rw [origin_congr same, ← List.append_nil path.names] at route
        exact Layout.Heads.inside (.missing parts before plain down missing) grown route
          List.not_mem_nil
      · obtain ⟨ns', name', q', parts', -, ⟨n, route⟩, rfl⟩ :=
          find_other named fun inner h => directory ⟨inner, h⟩
        rw [origin_congr same] at route
        have late : ns <+: ns' := by
          rw [parts] at parts'
          rcases List.prefix_concat_iff.1 (parts' ▸ List.prefix_append ns (name :: rest)) with
            same | late
          · rw [same] at parts'
            simp at parts'
          · exact late
        obtain ⟨more, rfl⟩ := late
        refine grown.beyond before missing plain down route ?_
        rw [parts, List.append_assoc, List.append_cancel_left_eq] at parts'
        exact parts' ▸ List.prefix_refl _
  | barred same layout nowhere complete =>
    obtain ⟨entry₀, named₀, alike⟩ :=
      find_of_fewer same.symm (fun p => .inl (congrFun layout p)) named
    exact ⟨entry₀, named₀, alike⟩

/-- **A removal** takes nothing that was there but the empty directory or the link. -/
theorem Tenancy.cleared (h : Tenancy fs₀ path fs) (cleared : fs.Cleared path fs') :
    Spares fs₀ path fs' := by
  obtain ⟨-, place, entry, named, no_file, present, less⟩ := cleared
  intro p entry' there
  have before := layout_of_lookup there
  by_cases below : place <+: p
  · obtain rfl : p = place := by
      by_contra ne
      rw [h.bare named present below ne] at before
      cases before
    obtain ⟨entry₀, named₀, alike⟩ := h.named named present (by simp [before])
    have same : entry.shape = entry'.shape := by
      rw [h.same (by simp [before]), before] at present
      exact (Option.some.inj present).symm
    obtain rfl := eq_of_find named₀ there (alike.trans same)
    refine .inr ⟨named₀, ?_⟩
    rcases entry₀ with inner | content | target
    · exact eq_nil_of_bare there fun q below ne => h.bare named present below ne
    · rcases entry with _ | content' | _
      · cases same
      · exact absurd rfl (no_file content')
      · cases same
    · trivial
  · refine .inl ?_
    rw [less, Layout.set_elsewhere below, h.same (by simp [before]), before]

end Tenancy

end FileSystem

end ShardCluster
