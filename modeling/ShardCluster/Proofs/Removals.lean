import ShardCluster.Proofs.FileChanges

/-!
# Nothing left

After a tree has been removed, or was found missing, its path leads to nothing
(`removeTree_vacates`). Where there is less, a walk that arrived at something arrives at the same or
finds something missing on the way (`walkOn_of_more`).
-/

namespace ShardCluster

namespace FileSystem

open ShardCluster.Path (IsPlain)
open FileAction (Leaves)

variable {fs fs' : FileSystem} {path : Path} {last : LastLink} {n : Nat} {p q place inside : Place}
  {name : Bytes} {names rest : List Bytes} {entry : Entry}
  {r : Except IoError (Place × Option Entry)}

/-- A walk that finds something missing. -/
def IsMissing (r : Except IoError (Place × Option Entry)) : Prop :=
  r = .error .notFound ∨ ∃ place, r = .ok (place, none)

lemma walkOn_missing (h : IsMissing (fs.walkOn .kept n (fs.trailTo p) names)) :
    IsMissing (fs.walkOn last n (fs.trailTo p) names) := by
  induction n using Nat.strong_induction_on generalizing p names with
  | _ n further =>
    induction names generalizing p with
    | nil =>
      rw [walkOn_nil] at h
      rcases h with h | ⟨_, h⟩ <;> cases h
    | cons name rest ih =>
      by_cases one : name = [Path.dot]
      · rw [one, walkOn_dot] at h ⊢
        exact ih h
      by_cases two : name = Path.up
      · rw [two, walkOn_up] at h ⊢
        exact ih h
      rw [walkOn_plain ⟨one, two⟩] at h ⊢
      rcases he : entryIn (fs.folder? p) name with e | _ | (inner | content | target) <;>
        rw [he] at h
      · exact h
      · exact h
      · exact ih h
      · exact h
      · -- a link at the end is kept, and then nothing is missing
        cases rest with
        | nil => rcases h with h | ⟨_, h⟩ <;> cases h
        | cons next rest =>
          cases n with
          | zero => exact h
          | succ n => exact further n (Nat.lt_succ_self n) h

lemma entryIn_of_missing (h : fs.layout p = none) :
    entryIn (fs.folder? p) name = .error .notFound := by
  have : fs.folder? p = none := by
    unfold folder?
    split
    · rename_i there
      rw [layout_of_lookup there] at h
      cases h
    · rfl
  rw [this]
  rfl

/-- A walk finds a name missing in a directory, or the directory itself. -/
lemma isMissing_of_next (plain : IsPlain name) (short : name.length ≤ nameLimit)
    (inside : fs.layout p = some .directory ∨ fs.layout p = none)
    (gone : fs.layout (p ++ [name]) = none) :
    IsMissing (fs.walkOn last n (fs.trailTo p) (name :: rest)) := by
  rw [walkOn_plain plain]
  rcases inside with directory | missing
  · obtain ⟨_ | entry, he, shape⟩ := entryIn_of_layout directory short
    · rw [he]
      simp only
      split
      · exact .inr ⟨_, rfl⟩
      · exact .inl rfl
    · rw [gone] at shape
      cases shape
  · rw [entryIn_of_missing missing]
    exact .inl rfl

lemma walk_of_more {s : Option Shape}
    (less : ∀ p, fs'.layout p = fs.layout p ∨ fs'.layout p = none)
    (h : fs.layout.Walk last n p names place s) (present : s ≠ none) :
    fs'.layout.Walk last n p names place s ∨
      IsMissing (fs'.walkOn last n (fs'.trailTo p) names) := by
  -- what the walk finds next is there as before, or missing
  have next {n : Nat} {p : Place} {name : Bytes} {t : Shape} (rest : List Bytes)
      (plain : IsPlain name) (short : name.length ≤ nameLimit)
      (there : fs.layout (p ++ [name]) = some t) : fs'.layout (p ++ [name]) = some t ∨
        IsMissing (fs'.walkOn last n (fs'.trailTo p) (name :: rest)) := by
    rw [← there]
    refine (less (p ++ [name])).imp_right fun gone => isMissing_of_next plain short ?_ gone
    rw [← directory_of_layout_append (by rw [there]; simp) (List.cons_ne_nil _ _)]
    exact less p
  induction h with
  | stay n p => exact .inl (.stay n p)
  | here _ ih =>
    rw [walkOn_dot]
    exact (ih present).imp_left .here
  | up _ ih =>
    rw [walkOn_up]
    exact (ih present).imp_left .up
  | @enter _ _ _ _ rest _ plain short found _ ih =>
    rcases next rest plain short found with found | missing
    · rw [walkOn_enter plain short found]
      exact (ih present).imp_left (.enter plain short found)
    · exact .inr missing
  | @follow _ _ _ _ rest _ _ plain short found follows _ ih =>
    rcases next rest plain short found with found | missing
    · rw [walkOn_follow plain short found follows]
      exact (ih present).imp_left (.follow plain short found follows)
    · exact .inr missing
  | arrive plain short _ there ends =>
    obtain ⟨t, rfl⟩ := Option.ne_none_iff_exists'.1 present
    rcases next [] plain short there with there | missing
    · have directory := directory_of_layout_append (by rw [there]; simp) (List.cons_ne_nil _ _)
      exact .inl (.arrive plain short directory there ends)
    · exact .inr missing

/-- **Where there is less**, a walk that arrived at something arrives at the same, or finds
something missing. -/
theorem walkOn_of_more (less : ∀ p, fs'.layout p = fs.layout p ∨ fs'.layout p = none)
    (h : fs.walkOn .kept n (fs.trailTo p) names = .ok (place, some entry)) :
    (∃ entry', fs'.walkOn .kept n (fs'.trailTo p) names = .ok (place, some entry') ∧
      entry'.shape = entry.shape) ∨ IsMissing (fs'.walkOn .kept n (fs'.trailTo p) names) := by
  refine (walk_of_more less (walk_of_walkOn h).1 (by simp)).imp_left fun walk => ?_
  obtain ⟨_ | entry', arrived, shape⟩ := walkOn_of_walk walk
  · cases shape
  · exact ⟨entry', arrived, Option.some.inj shape⟩

lemma find_eq_walkOn (ok : admissible path = .ok ()) : fs.find path last =
    match fs.walkOn last linkLimit (fs.trailTo (fs.origin path)) path.steps with
    | .error e => .error e
    | .ok (_, none) => .error .notFound
    | .ok (place, some entry) => .ok (place, entry) := by
  unfold find resolve
  rw [ok, start_eq]
  generalize fs.walkOn last linkLimit (fs.trailTo (fs.origin path)) path.steps = r
  rcases r with e | ⟨place, _ | entry⟩ <;> rfl

lemma find_of_refused {e : IoError} (refused : admissible path = .error e) :
    fs.find path last = .error e := by
  unfold find resolve
  rw [refused]
  rfl

lemma find_eq_notFound (ok : admissible path = .ok ()) : fs.find path last = .error .notFound ↔
    IsMissing (fs.walkOn last linkLimit (fs.trailTo (fs.origin path)) path.steps) := by
  rw [find_eq_walkOn ok]
  generalize fs.walkOn last linkLimit (fs.trailTo (fs.origin path)) path.steps = r
  unfold IsMissing
  rcases r with e | ⟨place, _ | entry⟩ <;> simp

lemma pathExists_of_find (h : fs.find path .kept = .error .notFound) :
    fs.pathExists path = .ok false := by
  have : fs.find path .followed = .error .notFound := by
    rcases ha : admissible path with e | _
    · rw [find_of_refused ha] at h ⊢
      exact h
    · exact (find_eq_notFound ha).2 (walkOn_missing ((find_eq_notFound ha).1 h))
  unfold pathExists
  rw [this]

/-- **Where there is less**, a path names the same as before, or nothing. -/
theorem find_of_more (origin : fs'.workingDirectory = fs.workingDirectory)
    (less : ∀ p, fs'.layout p = fs.layout p ∨ fs'.layout p = none)
    (h : fs.find path .kept = .ok (place, entry)) :
    (∃ entry', fs'.find path .kept = .ok (place, entry') ∧ entry'.shape = entry.shape) ∨
      fs'.find path .kept = .error .notFound := by
  have ok := admissible_of_find h
  have walk := resolve_eq (find_eq h)
  rw [← origin_congr origin] at walk
  rcases walkOn_of_more less walk with ⟨entry', walk', alike⟩ | missing
  · exact .inl ⟨entry', by rw [find_eq_walkOn ok, walk'], alike⟩
  · exact .inr ((find_eq_notFound ok).2 missing)

/-! ### Removed trees -/

lemma holder_of_reaches (ok : admissible path = .ok ())
    (reached : fs.Reaches path path.names.dropLast inside) : fs.holder path = .ok inside := by
  obtain ⟨n, route⟩ := reached
  unfold holder
  rw [ok, start_eq, ← List.append_nil path.names.dropLast]
  simp only [bind, Except.bind]
  rw [walkOn_append route (.inr rfl), walkOn_nil]
  rfl

lemma present_of_reaches (less : ∀ p, fs'.layout p = fs.layout p ∨ fs'.layout p = none)
    (origin : fs'.workingDirectory = fs.workingDirectory)
    (parts : path.names = path.names.dropLast ++ [name]) (plain : IsPlain name)
    (held : fs.holder path = .ok inside) (reached : fs'.Reaches path path.names q) :
    fs'.layout (inside ++ [name]) ≠ none := by
  obtain ⟨n, route⟩ := reached
  rw [parts, origin_congr origin] at route
  obtain ⟨_, q', before, present⟩ := route.last_present plain
  have here : fs.Reaches path path.names.dropLast q' := ⟨_, before.of_fewer less⟩
  obtain rfl : inside = q' := here.unique (holder_spec held)
  rcases present with ⟨there, -⟩ | ⟨target, there⟩ <;> simp [there]

/-- **A removed directory** is not reached any more, and neither is one that is found missing. -/
lemma removeDirectory_spec (ok : admissible path = .ok ()) :
    Leaves (fun _ fs' => fs'.workingDirectory = fs.workingDirectory ∧
        (∀ p, fs'.layout p = fs.layout p ∨ fs'.layout p = none) ∧
        ∀ q, ¬ fs'.Reaches path path.names q)
      (fun e fs' => fs' = fs ∧ (e = .notFound → ∀ q, ¬ fs.Reaches path path.names q))
      (removeDirectory path) fs := by
  unfold removeDirectory
  simp only [FileAction.leaves_bind, FileAction.leaves_get, FileAction.leaves_liftM]
  rcases hh : fs.holder path with e | inside
  · refine ⟨trivial, ?_⟩
    rintro - q ⟨n, route⟩
    obtain ⟨last, parts⟩ : ∃ last, path.names = path.names.dropLast ++ last := by
      rcases List.eq_nil_or_concat path.names with none | ⟨ns, name, parts⟩
      · exact ⟨[], by rw [none]; rfl⟩
      · exact ⟨[name], by rw [parts, List.concat_eq_append, List.dropLast_concat]⟩
    rw [parts] at route
    obtain ⟨n', q, before, -⟩ := route.split
    rw [holder_of_reaches ok ⟨n', before⟩] at hh
    cases hh
  rcases hl : lastName path with _ | _ | _ | name
  · exact ⟨rfl, by rintro ⟨⟩⟩
  · exact ⟨rfl, by rintro ⟨⟩⟩
  · exact ⟨rfl, by rintro ⟨⟩⟩
  obtain ⟨parts, plain⟩ := lastName_spec hl
  simp only [FileAction.leaves_bind, FileAction.leaves_liftM]
  rcases he : entryIn (fs.folder? inside) name with
    e | _ | (_ | ⟨item, items⟩) | content | target
  · refine ⟨trivial, ?_⟩
    rintro rfl q reached
    have there := present_of_reaches (fun _ => .inl rfl) rfl parts plain hh reached
    obtain ⟨inner, hi⟩ := layout_eq_directory.1
      (directory_of_layout_append there (List.cons_ne_nil _ _))
    unfold folder? entryIn at he
    rw [hi] at he
    simp only at he
    split at he <;> cases he
  · refine ⟨rfl, fun _ q reached => ?_⟩
    exact present_of_reaches (fun _ => .inl rfl) rfl parts plain hh reached
      (layout_of_entryIn he).2.2
  · obtain ⟨directory, -, -⟩ := layout_of_entryIn he
    have less (p : Place) : (fs.erase (inside ++ [name])).layout p = fs.layout p ∨
        (fs.erase (inside ++ [name])).layout p = none := by
      rw [layout_erase directory]
      exact Layout.set_none_or p
    refine FileAction.leaves_set.2 ⟨workingDirectory_erase, less, fun q reached => ?_⟩
    refine present_of_reaches less workingDirectory_erase parts plain hh reached ?_
    rw [layout_erase directory, Layout.set_self]
  · exact ⟨rfl, by rintro ⟨⟩⟩
  · exact ⟨rfl, by rintro ⟨⟩⟩
  · exact ⟨rfl, by rintro ⟨⟩⟩

/-- **A removed tree** is gone: its path leads to nothing, as it does where nothing was found. -/
theorem removeTree_vacates (path : Path) (fs : FileSystem) :
    Leaves (fun _ fs' => fs'.pathExists path = .ok false)
    (fun e fs' => e = .notFound → fs'.pathExists path = .ok false) (removeTree path) fs := by
  unfold removeTree
  simp only [FileAction.leaves_bind, FileAction.leaves_get, FileAction.leaves_liftM]
  rcases hf : fs.find path .kept with e | ⟨place, inner | content | target⟩
  · rintro rfl
    exact pathExists_of_find hf
  · have emptied := (emptied_eraseBelow hf).fewer
    simp only [FileAction.leaves_bind, FileAction.leaves_set, FileAction.leaves_tryCatch]
    -- gone, as soon as not all names lead to the place any more
    have gone {fs' : FileSystem} (origin : fs'.workingDirectory = fs.workingDirectory)
        (less : ∀ p, fs'.layout p = (fs.eraseBelow place).layout p ∨ fs'.layout p = none)
        (left : ∀ q, ¬ fs'.Reaches path path.names q) : fs'.pathExists path = .ok false := by
      have less (p : Place) : fs'.layout p = fs.layout p ∨ fs'.layout p = none := by
        rcases less p with same | gone
        · rw [same]
          exact emptied p
        · exact .inr gone
      rcases find_of_more origin less hf with ⟨entry, found, alike⟩ | missing
      · rcases entry with inner' | _ | _ <;> simp [Entry.shape] at alike
        exact absurd (reaches_of_find found) (left place)
      · exact pathExists_of_find missing
    refine (removeDirectory_spec (admissible_of_find hf)).mono
      (fun _ fs' h => gone h.1 h.2.1 h.2.2) ?_
    rintro e _ ⟨rfl, left⟩
    split
    · exact gone rfl (fun _ => .inl rfl) (left rfl)
    · rename_i ne
      exact fun h => absurd h ne
  · exact fun h => by cases h
  · obtain dir | ⟨-, q, name, rfl, directory, there⟩ := walkOn_arrived (resolve_eq (find_eq hf))
    · cases dir
    have less (p : Place) : (fs.erase (q ++ [name])).layout p = fs.layout p ∨
        (fs.erase (q ++ [name])).layout p = none := by
      rw [layout_erase directory]
      exact Layout.set_none_or p
    rcases find_of_more workingDirectory_erase less hf with ⟨entry, found, alike⟩ | missing
    · rcases walkOn_arrived (resolve_eq (find_eq found)) with h | ⟨-, _, _, -, -, there'⟩
      · cases h
        cases alike
      · rw [layout_erase directory, Layout.set_self] at there'
        cases there'
    · exact pathExists_of_find missing

end FileSystem

end ShardCluster
