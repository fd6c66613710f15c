import ShardCluster.Proofs.Routes

/-!
# Where paths lead

What a path names and where all of its names lead. What a walk comes to depends on the layout alone:
it ends at a place exactly if there is a `Layout.Walk` to it (`walk_of_walkOn`, `walkOn_of_walk`),
and what a change of the layout does to it is shown by induction on that. So a walk that arrives at
something arrives at the same where there is more (`walkOn_of_fewer`). A path names something
exactly if all of its names lead somewhere or its last name is a link (`find_of_reaches`,
`reaches_of_find`).
-/

namespace ShardCluster

open ShardCluster.Path (IsPlain)
open FileSystem (LastLink base nameLimit)

/-! ### Walks -/

/-- whether a walk ends at what it finds at its last name -/
def FileSystem.LastLink.EndsAt (last : LastLink) : Option Shape → Prop
  | none | some (.file _) => True
  | some (.link _) => last = .kept
  | some .directory => False

/-- **A walk** through a layout, from a directory along all the names to a place and what is there,
following so many links at most. -/
inductive Layout.Walk (m : Layout) (last : LastLink) :
    Nat → Place → List Bytes → Place → Option Shape → Prop
  | stay (n : Nat) (p : Place) : Walk m last n p [] p (some .directory)
  | here {n : Nat} {p q : Place} {rest : List Bytes} {s : Option Shape} :
      Walk m last n p rest q s → Walk m last n p ([Path.dot] :: rest) q s
  | up {n : Nat} {p q : Place} {rest : List Bytes} {s : Option Shape} :
      Walk m last n p.dropLast rest q s → Walk m last n p (Path.up :: rest) q s
  | enter {n : Nat} {p q : Place} {name : Bytes} {rest : List Bytes} {s : Option Shape} :
      IsPlain name → name.length ≤ nameLimit → m (p ++ [name]) = some .directory →
      Walk m last n (p ++ [name]) rest q s → Walk m last n p (name :: rest) q s
  | follow {n : Nat} {p q : Place} {name : Bytes} {rest : List Bytes} {target : Path}
      {s : Option Shape} : IsPlain name → name.length ≤ nameLimit →
      m (p ++ [name]) = some (.link target) → (rest = [] → last.Follows target) →
      Walk m last n (base p target) (target.steps ++ rest) q s →
      Walk m last (n + 1) p (name :: rest) q s
  | arrive {n : Nat} {p : Place} {name : Bytes} {s : Option Shape} : IsPlain name →
      name.length ≤ nameLimit → m p = some .directory → m (p ++ [name]) = s → last.EndsAt s →
      Walk m last n p [name] (p ++ [name]) s

namespace Layout.Walk

variable {m m' : Layout} {last : LastLink} {n : Nat} {p q : Place} {names ns rest : List Bytes}
  {s : Option Shape}

lemma route (h : m.Walk last n p (ns ++ rest) q s)
    (more : rest ≠ [] ∨ last = .followed ∧ s = some .directory) :
    ∃ n' q', m.Route n p ns n' q' := by
  generalize hall : ns ++ rest = all at h
  induction h generalizing ns with
  | stay n p =>
    obtain ⟨rfl, rfl⟩ := List.append_eq_nil_iff.1 hall
    exact ⟨n, p, .stay n p⟩
  | here _ ih =>
    cases ns with
    | nil => exact ⟨_, _, .stay _ _⟩
    | cons name ns =>
      obtain ⟨rfl, rfl⟩ := List.cons_eq_cons.1 hall
      obtain ⟨n', q', route⟩ := ih more rfl
      exact ⟨n', q', .here route⟩
  | up _ ih =>
    cases ns with
    | nil => exact ⟨_, _, .stay _ _⟩
    | cons name ns =>
      obtain ⟨rfl, rfl⟩ := List.cons_eq_cons.1 hall
      obtain ⟨n', q', route⟩ := ih more rfl
      exact ⟨n', q', .up route⟩
  | enter plain short found _ ih =>
    cases ns with
    | nil => exact ⟨_, _, .stay _ _⟩
    | cons name ns =>
      obtain ⟨rfl, rfl⟩ := List.cons_eq_cons.1 hall
      obtain ⟨n', q', route⟩ := ih more rfl
      exact ⟨n', q', .enter plain short found route⟩
  | follow plain short found _ _ ih =>
    cases ns with
    | nil => exact ⟨_, _, .stay _ _⟩
    | cons name ns =>
      obtain ⟨rfl, rfl⟩ := List.cons_eq_cons.1 hall
      obtain ⟨n', q', route⟩ := ih more (List.append_assoc ..)
      exact ⟨n', q', .follow plain short found route⟩
  | arrive plain short directory there ends =>
    cases ns with
    | nil => exact ⟨_, _, .stay _ _⟩
    | cons name ns =>
      obtain ⟨rfl, none_left⟩ := List.cons_eq_cons.1 hall
      obtain ⟨rfl, rfl⟩ := List.append_eq_nil_iff.1 none_left
      -- it went on to a directory, and does not end at one
      rcases more with ne | ⟨-, rfl⟩
      · exact absurd rfl ne
      · cases ends

lemma ends_at (h : m.Walk last n p names q s) : s = some .directory ∨
    s ≠ some .directory ∧ ∃ inside name, q = inside ++ [name] ∧ m inside = some .directory ∧
      m q = s := by
  induction h with
  | stay => exact .inl rfl
  | here _ ih => exact ih
  | up _ ih => exact ih
  | enter _ _ _ _ ih => exact ih
  | follow _ _ _ _ _ ih => exact ih
  | @arrive _ p name s _ _ directory there ends =>
    refine .inr ⟨?_, p, name, rfl, directory, there⟩
    rintro rfl
    exact ends

theorem of_fewer {t : Shape} (h : m.Walk last n p names q (some t))
    (fewer : ∀ p, m p = m' p ∨ m p = none) : m'.Walk last n p names q (some t) := by
  have same {p : Place} {t : Shape} (found : m p = some t) : m' p = some t := by
    rcases fewer p with h | h
    · rwa [← h]
    · rw [h] at found
      cases found
  generalize hs : some t = s at h
  induction h with
  | stay n p => exact .stay n p
  | here _ ih => exact .here (ih hs)
  | up _ ih => exact .up (ih hs)
  | enter plain short found _ ih => exact .enter plain short (same found) (ih hs)
  | follow plain short found follows _ ih => exact .follow plain short (same found) follows (ih hs)
  | arrive plain short directory there ends =>
    subst hs
    exact .arrive plain short (same directory) (same there) ends

end Layout.Walk

namespace FileSystem

variable {fs fs' : FileSystem} {path : Path} {last : LastLink} {n : Nat} {p q place inside : Place}
  {name : Bytes} {names ns rest : List Bytes} {entry : Entry} {found : Option Entry}

/-- What a walk comes to, it comes to by a walk through the layout; of a directory it finds what is
in it. -/
theorem walk_of_walkOn (h : fs.walkOn last n (fs.trailTo p) names = .ok (q, found)) :
    fs.layout.Walk last n p names q (found.map Entry.shape) ∧
      ∀ inner, found = some (.directory inner) → inner = (fs.folder? q).getD [] := by
  -- on the links that are left, and then on the names, which a link gives new ones
  induction n using Nat.strong_induction_on generalizing p names with
  | _ n further =>
    induction names generalizing p with
    | nil =>
      rw [walkOn_nil] at h
      cases h
      exact ⟨.stay _ _, fun _ same => by cases same; rfl⟩
    | cons name rest ih =>
      by_cases one : name = [Path.dot]
      · subst one
        rw [walkOn_dot] at h
        exact ⟨.here (ih h).1, (ih h).2⟩
      by_cases two : name = Path.up
      · subst two
        rw [walkOn_up] at h
        exact ⟨.up (ih h).1, (ih h).2⟩
      have step := h
      rw [walkOn_plain ⟨one, two⟩] at step
      rcases he : entryIn (fs.folder? p) name with e | entry <;> rw [he] at step
      · cases step
      obtain ⟨directory, short, shape⟩ := layout_of_entryIn he
      rcases entry with _ | (inner | content | target)
      · simp only at step
        split at step <;> cases step
        rename_i none_left
        obtain rfl := List.isEmpty_iff.1 none_left
        exact ⟨.arrive ⟨one, two⟩ short directory shape trivial, fun _ same => by cases same⟩
      · exact ⟨.enter ⟨one, two⟩ short shape (ih step).1, (ih step).2⟩
      · simp only at step
        split at step <;> cases step
        rename_i none_left
        obtain rfl := List.isEmpty_iff.1 none_left
        exact ⟨.arrive ⟨one, two⟩ short directory shape trivial, fun _ same => by cases same⟩
      · rcases exists_of_walkOn_link ⟨one, two⟩ he h with
          ⟨rfl, rfl, same⟩ | ⟨k, rfl, follows, onward⟩
        · cases same
          exact ⟨.arrive ⟨one, two⟩ short directory shape rfl, fun _ same => by cases same⟩
        · obtain ⟨walk, inner⟩ := further k (Nat.lt_succ_self k) onward
          exact ⟨.follow ⟨one, two⟩ short shape follows walk, inner⟩

theorem walkOn_of_walk {s : Option Shape} (h : fs.layout.Walk last n p names q s) :
    ∃ found, fs.walkOn last n (fs.trailTo p) names = .ok (q, found) ∧
      found.map Entry.shape = s := by
  induction h with
  | stay n p => exact ⟨_, walkOn_nil, rfl⟩
  | here _ ih => rwa [walkOn_dot]
  | up _ ih => rwa [walkOn_up]
  | enter plain short found _ ih => rwa [walkOn_enter plain short found]
  | follow plain short found follows _ ih => rwa [walkOn_follow plain short found follows]
  | @arrive _ p name s plain short directory there ends =>
    obtain ⟨entry, he, shape⟩ := entryIn_of_layout directory short
    rw [walkOn_plain plain, he]
    rw [there] at shape
    subst shape
    rcases entry with _ | (inner | content | target)
    · exact ⟨_, rfl, rfl⟩
    · cases ends
    · exact ⟨_, rfl, rfl⟩
    · obtain rfl : last = .kept := ends
      exact ⟨_, rfl, rfl⟩

theorem route_of_walkOn {r : Place × Option Entry}
    (h : fs.walkOn last n (fs.trailTo p) (ns ++ rest) = .ok r)
    (more : rest ≠ [] ∨ last = .followed ∧ ∃ inner, r.2 = some (.directory inner)) :
    ∃ n' q, fs.layout.Route n p ns n' q ∧
      fs.walkOn last n' (fs.trailTo q) rest = .ok r := by
  obtain ⟨place, found⟩ := r
  have ⟨n', q, route⟩ : ∃ n' q, fs.layout.Route n p ns n' q := by
    refine (walk_of_walkOn h).1.route (more.imp_right ?_)
    rintro ⟨followed, inner, rfl⟩
    exact ⟨followed, rfl⟩
  exact ⟨n', q, route, by rwa [walkOn_append route (more.imp_right And.left)] at h⟩

/-! ### Where walks arrive -/

/-- a route along some names from where a path starts -/
def Reaches (fs : FileSystem) (path : Path) (names : List Bytes) (q : Place) : Prop :=
  ∃ n, fs.layout.Route linkLimit (fs.origin path) names n q

lemma Reaches.unique (h : fs.Reaches path names p) (h' : fs.Reaches path names q) : q = p := by
  obtain ⟨_, h⟩ := h
  obtain ⟨_, h'⟩ := h'
  exact (h.unique h').2

/-- A single name of its own leads to the entry of that name, unless that is a link to follow. -/
lemma walkOn_single (plain : IsPlain name)
    (h : fs.walkOn last n (fs.trailTo p) [name] = .ok (q, found)) :
    fs.layout p = some .directory ∧ name.length ≤ nameLimit ∧
      ((q = p ++ [name] ∧ fs.layout q = found.map Entry.shape) ∨
        last ≠ .kept ∧ ∃ target, fs.layout (p ++ [name]) = some (.link target)) := by
  rw [walkOn_plain plain] at h
  rcases he : entryIn (fs.folder? p) name with e | entry <;> rw [he] at h
  · cases h
  obtain ⟨directory, short, shape⟩ := layout_of_entryIn he
  refine ⟨directory, short, ?_⟩
  rcases entry with _ | (inner | content | target)
  · cases h
    exact .inl ⟨rfl, shape⟩
  · simp only [walkOn_nil, Except.ok.injEq, Prod.mk.injEq] at h
    obtain ⟨rfl, rfl⟩ := h
    exact .inl ⟨rfl, shape⟩
  · cases h
    exact .inl ⟨rfl, shape⟩
  · by_cases kept : last = .kept
    · subst kept
      cases h
      exact .inl ⟨rfl, shape⟩
    · exact .inr ⟨kept, target, shape⟩

theorem walkOn_arrived (h : fs.walkOn last n (fs.trailTo p) names = .ok (place, found)) :
    found = some (.directory ((fs.folder? place).getD [])) ∨
      found.map Entry.shape ≠ some .directory ∧
      ∃ q name, place = q ++ [name] ∧ fs.layout q = some .directory ∧
        fs.layout place = found.map Entry.shape := by
  obtain ⟨walk, inner⟩ := walk_of_walkOn h
  rcases walk.ends_at with directory | other
  · rcases found with _ | (folder | _ | _) <;> simp [Entry.shape] at directory
    exact .inl (by rw [inner folder rfl])
  · exact .inr other

lemma resolve_eq {r : Place × Option Entry} (h : fs.resolve path last = .ok r) :
    fs.walkOn last linkLimit (fs.trailTo (fs.origin path)) path.steps = .ok r := by
  unfold resolve at h
  rcases ha : admissible path with e | _ <;> rw [ha] at h
  · cases h
  · rwa [← start_eq]

lemma find_eq (h : fs.find path last = .ok (place, entry)) :
    fs.resolve path last = .ok (place, some entry) := by
  unfold find at h
  rcases hr : fs.resolve path last with e | ⟨place', _ | entry'⟩ <;> rw [hr] at h <;> cases h
  rfl

lemma admissible_of_resolve {r : Place × Option Entry} (h : fs.resolve path last = .ok r) :
    admissible path = .ok () := by
  unfold resolve at h
  rcases ha : admissible path with e | _
  · rw [ha] at h
    cases h
  · rfl

lemma admissible_of_find (h : fs.find path last = .ok (place, entry)) :
    admissible path = .ok () :=
  admissible_of_resolve (find_eq h)

lemma eq_of_find {entry' : Entry} (h : fs.find path last = .ok (place, entry))
    (there : fs.lookup place = some entry') (alike : entry.shape = entry'.shape) :
    entry = entry' := by
  rcases entry with inner | content | target <;> rcases entry' with inner' | content' | target' <;>
    simp [Entry.shape] at alike
  · have hf : fs.folder? place = some inner' := by
      unfold folder?
      rw [there]
    rcases walkOn_arrived (resolve_eq (find_eq h)) with same | ⟨other, -⟩
    · rw [hf] at same
      exact Option.some.inj same
    · exact absurd rfl other
  · rw [alike]
  · rw [alike]

lemma steps_of_closed (closed : path.isOpen = false) : path.steps = path.names := by
  unfold Path.steps
  rw [closed]
  exact List.append_nil _

/-- Where the last name of a path leads: to its own entry, unless that is a link to follow. -/
theorem resolve_spec (closed : path.isOpen = false) (parts : path.names = ns ++ [name])
    (plain : IsPlain name) (h : fs.resolve path last = .ok (place, found)) :
    ∃ q, fs.Reaches path ns q ∧ fs.layout q = some .directory ∧
      ((place = q ++ [name] ∧ fs.layout place = found.map Entry.shape) ∨
        last ≠ .kept ∧ ∃ target, fs.layout (q ++ [name]) = some (.link target)) := by
  have walk := resolve_eq h
  rw [steps_of_closed closed, parts] at walk
  obtain ⟨n', q, route, rest⟩ := route_of_walkOn walk (.inl (List.cons_ne_nil _ _))
  obtain ⟨directory, -, arrived⟩ := walkOn_single plain rest
  exact ⟨q, ⟨n', route⟩, directory, arrived⟩

/-- **Where there is more**, a walk that arrives at something arrives at the same. -/
theorem walkOn_of_fewer (fewer : ∀ p, fs.layout p = fs'.layout p ∨ fs.layout p = none)
    (h : fs.walkOn last n (fs.trailTo p) names = .ok (place, some entry)) :
    ∃ entry', fs'.walkOn last n (fs'.trailTo p) names = .ok (place, some entry') ∧
      entry'.shape = entry.shape := by
  obtain ⟨_ | entry', walk, shape⟩ := walkOn_of_walk ((walk_of_walkOn h).1.of_fewer fewer)
  · cases shape
  · exact ⟨entry', walk, Option.some.inj shape⟩

lemma find_other (h : fs.find path .kept = .ok (place, entry))
    (other : ∀ inner, entry ≠ .directory inner) :
    ∃ ns name q, path.names = ns ++ [name] ∧ IsPlain name ∧ fs.Reaches path ns q ∧
      place = q ++ [name] := by
  have walk := resolve_eq (find_eq h)
  unfold Path.steps at walk
  by_cases opened : path.isOpen = true
  · rw [opened, if_pos rfl] at walk
    obtain ⟨n', q, -, rest⟩ := route_of_walkOn walk (.inl (List.cons_ne_nil _ _))
    rw [walkOn_dot, walkOn_nil] at rest
    cases rest
    exact absurd rfl (other _)
  rw [if_neg opened, List.append_nil] at walk
  rcases List.eq_nil_or_concat path.names with none | ⟨ns, name, parts⟩
  · rw [none, walkOn_nil] at walk
    cases walk
    exact absurd rfl (other _)
  rw [List.concat_eq_append] at parts
  rw [parts] at walk
  obtain ⟨n', q, route, rest⟩ := route_of_walkOn walk (.inl (List.cons_ne_nil _ _))
  have plain : IsPlain name := by
    constructor
    · rintro rfl
      rw [walkOn_dot, walkOn_nil] at rest
      cases rest
      exact absurd rfl (other _)
    · rintro rfl
      rw [walkOn_up, walkOn_nil] at rest
      cases rest
      exact absurd rfl (other _)
  obtain ⟨-, -, ⟨rfl, -⟩ | ⟨ne, -⟩⟩ := walkOn_single plain rest
  · exact ⟨ns, name, q, parts, plain, ⟨n', route⟩, rfl⟩
  · exact absurd rfl ne

lemma origin_congr (same : fs'.workingDirectory = fs.workingDirectory) :
    fs'.origin path = fs.origin path := by
  unfold origin
  rw [same]

theorem find_of_fewer (same : fs'.workingDirectory = fs.workingDirectory)
    (fewer : ∀ p, fs.layout p = fs'.layout p ∨ fs.layout p = none)
    (h : fs.find path last = .ok (place, entry)) :
    ∃ entry', fs'.find path last = .ok (place, entry') ∧ entry'.shape = entry.shape := by
  obtain ⟨entry', walk, shape⟩ := walkOn_of_fewer fewer (resolve_eq (find_eq h))
  refine ⟨entry', ?_, shape⟩
  unfold find resolve
  rw [admissible_of_find h, start_eq, origin_congr same]
  simp only [bind, Except.bind, walk]

/-- Where all names lead somewhere, the path names something: that, or a link to it. -/
lemma find_of_reaches (ok : admissible path = .ok ()) (reached : fs.Reaches path path.names q) :
    ∃ place entry, fs.find path .kept = .ok (place, entry) := by
  have ⟨place, entry, walk⟩ : ∃ place entry,
      fs.walkOn .kept linkLimit (fs.trailTo (fs.origin path)) path.steps =
        .ok (place, some entry) := by
    obtain ⟨n', route⟩ := reached
    unfold Path.steps
    by_cases opened : path.isOpen = true
    · rw [opened, if_pos rfl, walkOn_append route (.inl (List.cons_ne_nil _ _)), walkOn_dot,
        walkOn_nil]
      exact ⟨_, _, rfl⟩
    rw [if_neg opened, List.append_nil]
    rcases List.eq_nil_or_concat path.names with none | ⟨ns, name, parts⟩
    · rw [none, walkOn_nil]
      exact ⟨_, _, rfl⟩
    rw [List.concat_eq_append] at parts
    rw [parts] at route ⊢
    obtain ⟨n₁, q₁, before, step⟩ := route.split
    rw [walkOn_append before (.inl (List.cons_ne_nil _ _))]
    cases step with
    | here =>
      rw [walkOn_dot, walkOn_nil]
      exact ⟨_, _, rfl⟩
    | up =>
      rw [walkOn_up, walkOn_nil]
      exact ⟨_, _, rfl⟩
    | enter plain short found =>
      rw [walkOn_enter plain short found, walkOn_nil]
      exact ⟨_, _, rfl⟩
    | follow plain short found =>
      rw [walkOn_plain plain, entryIn_link short found]
      exact ⟨_, _, rfl⟩
  refine ⟨place, entry, ?_⟩
  unfold find resolve
  rw [ok, start_eq]
  simp only [bind, Except.bind, walk]

lemma find_followed_of_reaches (ok : admissible path = .ok ())
    (reached : fs.Reaches path path.names q) :
    ∃ inner, fs.find path .followed = .ok (q, .directory inner) := by
  obtain ⟨n', route⟩ := reached
  refine ⟨(fs.folder? q).getD [], ?_⟩
  unfold find resolve Path.steps
  rw [ok, start_eq]
  simp only [bind, Except.bind]
  rw [walkOn_append route (.inr rfl)]
  split_ifs
  · rw [walkOn_dot, walkOn_nil]
  · rw [walkOn_nil]

lemma reaches_of_find_followed {inner : Folder}
    (h : fs.find path .followed = .ok (place, .directory inner)) :
    fs.Reaches path path.names place := by
  have walk := resolve_eq (find_eq h)
  rw [← List.append_nil path.steps] at walk
  obtain ⟨n', q, route, rest⟩ := route_of_walkOn walk (.inr ⟨rfl, inner, rfl⟩)
  rw [walkOn_nil] at rest
  cases rest
  obtain ⟨n₁, q₁, before, tail⟩ := Layout.Route.split route
  split_ifs at tail
  · cases tail with
    | here tail =>
      cases tail
      exact ⟨_, before⟩
    | enter plain => exact absurd rfl plain.1
    | follow plain => exact absurd rfl plain.1
  · cases tail
    exact ⟨_, before⟩

lemma reaches_of_find {inner : Folder} (h : fs.find path .kept = .ok (place, .directory inner)) :
    fs.Reaches path path.names place := by
  have walk := resolve_eq (find_eq h)
  unfold Path.steps at walk
  by_cases opened : path.isOpen = true
  · rw [opened, if_pos rfl] at walk
    obtain ⟨n', q, route, rest⟩ := route_of_walkOn walk (.inl (List.cons_ne_nil _ _))
    rw [walkOn_dot, walkOn_nil] at rest
    cases rest
    exact ⟨n', route⟩
  rw [if_neg opened, List.append_nil] at walk
  rcases List.eq_nil_or_concat path.names with none | ⟨ns, name, parts⟩
  · rw [none, walkOn_nil] at walk
    cases walk
    rw [none]
    exact ⟨_, .stay ..⟩
  rw [List.concat_eq_append] at parts
  rw [parts] at walk ⊢
  obtain ⟨n', q, route, rest⟩ := route_of_walkOn walk (.inl (List.cons_ne_nil _ _))
  by_cases one : name = [Path.dot]
  · rw [one, walkOn_dot, walkOn_nil] at rest
    cases rest
    exact ⟨n', route.append (one ▸ .here (.stay ..))⟩
  by_cases two : name = Path.up
  · rw [two, walkOn_up, walkOn_nil] at rest
    cases rest
    exact ⟨n', route.append (two ▸ .up (.stay ..))⟩
  obtain ⟨-, short, ⟨rfl, shape⟩ | ⟨ne, -⟩⟩ := walkOn_single ⟨one, two⟩ rest
  · exact ⟨n', route.append (.enter ⟨one, two⟩ short shape (.stay ..))⟩
  · exact absurd rfl ne

end FileSystem

end ShardCluster
