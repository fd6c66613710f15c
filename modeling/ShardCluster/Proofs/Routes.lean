import ShardCluster.Proofs.Names
import ShardCluster.Proofs.Places

/-!
# Routes

A walk goes from one directory to the next (`walkOn_enter`, `walkOn_follow`). A route passes all of
its names, each through a directory or a link that is followed: walks go along routes
(`walkOn_append`). Where something is missing, routes end, but they never turn
(`Route.eq_of_persists`, `Route.of_fewer`).
-/

namespace ShardCluster

namespace FileSystem

open ShardCluster.Path (IsPlain)

/-! ### Trails -/

section Trails

variable {fs : FileSystem} {p : Place} {name : Bytes}

lemma trailTo_append {inner : Option Folder}
    (h : (match (fs.folderOf (fs.trailTo p)).bind (·.lookup name) with
      | some (.directory folder) => some folder
      | _ => none) = inner) : fs.trailTo (p ++ [name]) = (name, inner) :: fs.trailTo p := by
  subst h
  unfold trailTo
  rw [List.foldl_append, List.foldl_cons, List.foldl_nil]
  generalize Option.bind _ _ = found
  rcases found with _ | (_ | _ | _) <;> rfl

lemma folderOf_trailTo : fs.folderOf (fs.trailTo p) = fs.folder? p := by
  induction p using List.reverseRecOn with
  | nil => rfl
  | append_singleton p name ih =>
    rw [trailTo_append rfl, folderOf, ih]
    unfold folder?
    rw [lookup_append]
    rfl

@[simp] lemma place_trailTo : (fs.trailTo p).place = p := by
  induction p using List.reverseRecOn with
  | nil => rfl
  | append_singleton p name ih =>
    rw [trailTo_append rfl]
    unfold Trail.place at ih ⊢
    rw [List.map_cons, List.reverse_cons, ih]

lemma tail_trailTo : (fs.trailTo p).tail = fs.trailTo p.dropLast := by
  induction p using List.reverseRecOn with
  | nil => rfl
  | append_singleton p name ih =>
    rw [trailTo_append rfl, List.tail_cons, List.dropLast_concat]

/-- the place a path starts from -/
def origin (fs : FileSystem) (path : Path) : Place :=
  if path.isAbsolute then [] else fs.workingDirectory

lemma start_eq {path : Path} : fs.start path = fs.trailTo (fs.origin path) := by
  unfold start origin
  split <;> rfl

end Trails

/-! ### Steps of a walk -/

section Steps

variable {fs : FileSystem} {last : LastLink} {n : Nat} {p : Place} {name : Bytes}
  {rest : List Bytes}

/-- where the target of a link in the directory at a place is looked for -/
def base (p : Place) (target : Path) : Place := if target.isAbsolute then [] else p

lemma walkOn_nil : fs.walkOn last n (fs.trailTo p) [] =
    .ok (p, some (.directory ((fs.folder? p).getD []))) := by
  unfold walkOn walk
  simp only [place_trailTo, folderOf_trailTo]

lemma walkOn_congr {trail trail' : Trail} {names names' : List Bytes}
    (h : fs.walk last trail names = fs.walk last trail' names') :
    fs.walkOn last n trail names = fs.walkOn last n trail' names' := by
  conv_lhs => unfold walkOn
  conv_rhs => unfold walkOn
  rw [h]

lemma walkOn_dot : fs.walkOn last n (fs.trailTo p) ([Path.dot] :: rest) =
    fs.walkOn last n (fs.trailTo p) rest :=
  walkOn_congr (by rw [walk, if_pos rfl])

lemma walkOn_up : fs.walkOn last n (fs.trailTo p) (Path.up :: rest) =
    fs.walkOn last n (fs.trailTo p.dropLast) rest := by
  refine walkOn_congr ?_
  have ne : Path.up ≠ [Path.dot] := by decide
  rw [walk, if_neg ne, if_pos (show Path.up = [Path.dot, Path.dot] from rfl), tail_trailTo]

lemma walk_plain (plain : IsPlain name) : fs.walk last (fs.trailTo p) (name :: rest) =
    match entryIn (fs.folder? p) name with
    | .error e => .error e
    | .ok none => if rest.isEmpty then .ok (.arrived (p ++ [name]) none) else .error .notFound
    | .ok (some (.directory _)) => fs.walk last (fs.trailTo (p ++ [name])) rest
    | .ok (some (.file content)) =>
      if rest.isEmpty then .ok (.arrived (p ++ [name]) (some (.file content)))
      else .error .notDirectory
    | .ok (some (.link target)) =>
      if rest.isEmpty && last == .kept then
        .ok (.arrived (p ++ [name]) (some (.link target)))
      else .ok (.atLink (fs.trailTo p) target rest) := by
  have two : name ≠ [Path.dot, Path.dot] := plain.2
  rw [walk, if_neg plain.1, if_neg two, folderOf_trailTo]
  unfold entryIn
  rcases hf : fs.folder? p with _ | folder
  · rfl
  by_cases long : name.length > nameLimit
  · simp only [long, if_true]
  simp only [long, if_false]
  rcases hl : folder.lookup name with _ | (inner | content | target)
  · simp only [place_trailTo]
  · have : fs.trailTo (p ++ [name]) = (name, some inner) :: fs.trailTo p :=
      trailTo_append (by rw [folderOf_trailTo, hf, Option.bind_some, hl])
    simp only [this]
  all_goals simp only [place_trailTo]

/-- **One step of a walk**, to a name of its own. -/
lemma walkOn_plain (plain : IsPlain name) : fs.walkOn last n (fs.trailTo p) (name :: rest) =
    match entryIn (fs.folder? p) name with
    | .error e => .error e
    | .ok none => if rest.isEmpty then .ok (p ++ [name], none) else .error .notFound
    | .ok (some (.directory _)) => fs.walkOn last n (fs.trailTo (p ++ [name])) rest
    | .ok (some (.file content)) =>
      if rest.isEmpty then .ok (p ++ [name], some (.file content)) else .error .notDirectory
    | .ok (some (.link target)) =>
      if rest.isEmpty && last == .kept then .ok (p ++ [name], some (.link target))
      else match n with
        | 0 => .error .tooManyLinks
        | n + 1 =>
          if rest.isEmpty && last == .written && target.isOpen then do
            let _ ← asDirectory (← fs.walkOn .followed n (fs.trailTo (base p target))
              target.names.dropLast)
            .error .isDirectory
          else fs.walkOn last n (fs.trailTo (base p target)) (target.steps ++ rest) := by
  have from_base (target : Path) :
      (if target.isAbsolute then [] else fs.trailTo p) = fs.trailTo (base p target) := by
    unfold base
    split <;> rfl
  rw [walkOn, walk_plain plain]
  rcases entryIn (fs.folder? p) name with e | _ | (inner | content | target)
  · rfl
  · simp only
    cases rest <;> rfl
  · rw [walkOn]
  · simp only
    cases rest <;> rfl
  · simp only
    cases hk : rest.isEmpty && last == .kept
    · cases n with
      | zero => rfl
      | succ n => simp only [Bool.false_eq_true, if_false, from_base]
    · rfl

lemma layout_of_entryIn {entry : Option Entry} (h : entryIn (fs.folder? p) name = .ok entry) :
    fs.layout p = some .directory ∧ name.length ≤ nameLimit ∧
      fs.layout (p ++ [name]) = entry.map Entry.shape := by
  unfold entryIn at h
  rw [layout_append]
  rcases hf : fs.folder? p with _ | folder
  · rw [hf] at h
    cases h
  · rw [hf] at h
    simp only at h
    split at h
    · cases h
    · rename_i short
      cases h
      refine ⟨?_, Nat.le_of_not_lt short, rfl⟩
      unfold folder? at hf
      split at hf
      · rename_i found
        exact layout_of_lookup found
      · cases hf

lemma entryIn_of_layout (hp : fs.layout p = some .directory) (short : name.length ≤ nameLimit) :
    ∃ entry, entryIn (fs.folder? p) name = .ok entry ∧
      fs.layout (p ++ [name]) = entry.map Entry.shape := by
  obtain ⟨folder, found⟩ := layout_eq_directory.1 hp
  have hf : fs.folder? p = some folder := by
    unfold folder?
    rw [found]
  refine ⟨folder.lookup name, ?_, by rw [layout_append, hf, Option.bind_some]⟩
  rw [hf, entryIn, if_neg (Nat.not_lt.2 short)]

lemma entryIn_directory (short : name.length ≤ nameLimit)
    (found : fs.layout (p ++ [name]) = some .directory) :
    ∃ inner, entryIn (fs.folder? p) name = .ok (some (.directory inner)) := by
  obtain ⟨entry, he, shape⟩ := entryIn_of_layout
    (directory_of_layout_append (by rw [found]; simp) (List.cons_ne_nil _ _)) short
  rw [found] at shape
  rcases entry with _ | (inner | _ | _) <;> simp [Entry.shape] at shape
  exact ⟨inner, he⟩

lemma entryIn_link {target : Path} (short : name.length ≤ nameLimit)
    (found : fs.layout (p ++ [name]) = some (.link target)) :
    entryIn (fs.folder? p) name = .ok (some (.link target)) := by
  obtain ⟨entry, he, shape⟩ := entryIn_of_layout
    (directory_of_layout_append (by rw [found]; simp) (List.cons_ne_nil _ _)) short
  rw [found] at shape
  rcases entry with _ | (_ | _ | _) <;> simp [Entry.shape] at shape
  rw [he, shape]

lemma walkOn_enter (plain : IsPlain name) (short : name.length ≤ nameLimit)
    (found : fs.layout (p ++ [name]) = some .directory) :
    fs.walkOn last n (fs.trailTo p) (name :: rest) =
      fs.walkOn last n (fs.trailTo (p ++ [name])) rest := by
  obtain ⟨inner, he⟩ := entryIn_directory short found
  rw [walkOn_plain plain, he]

/-- whether a link at the last name is followed to what is there -/
def LastLink.Follows (last : LastLink) (target : Path) : Prop :=
  last ≠ .kept ∧ (last = .written → target.isOpen = false)

/-- A walk goes on along the target of a link, unless that is the last name and is not followed. -/
lemma walkOn_follow {target : Path} (plain : IsPlain name) (short : name.length ≤ nameLimit)
    (found : fs.layout (p ++ [name]) = some (.link target))
    (follows : rest = [] → last.Follows target) :
    fs.walkOn last (n + 1) (fs.trailTo p) (name :: rest) =
      fs.walkOn last n (fs.trailTo (base p target)) (target.steps ++ rest) := by
  have kept : (rest.isEmpty && last == .kept) = false := by
    cases rest with
    | nil => exact beq_false_of_ne (follows rfl).1
    | cons => rfl
  have written : (rest.isEmpty && last == .written && target.isOpen) = false := by
    cases rest with
    | nil =>
      by_cases writes : last = .written
      · rw [(follows rfl).2 writes, Bool.and_false]
      · rw [beq_false_of_ne writes, Bool.and_false, Bool.false_and]
    | cons => rfl
  rw [walkOn_plain plain, entryIn_link short found]
  simp only [kept, written, Bool.false_eq_true, if_false]

lemma exists_of_walkOn_link {target : Path} {r : Place × Option Entry} (plain : IsPlain name)
    (there : entryIn (fs.folder? p) name = .ok (some (.link target)))
    (h : fs.walkOn last n (fs.trailTo p) (name :: rest) = .ok r) :
    (rest = [] ∧ last = .kept ∧ r = (p ++ [name], some (.link target))) ∨
      ∃ k, n = k + 1 ∧ (rest = [] → last.Follows target) ∧
        fs.walkOn last k (fs.trailTo (base p target)) (target.steps ++ rest) = .ok r := by
  rw [walkOn_plain plain, there] at h
  simp only at h
  split at h
  · rename_i kept
    cases h
    simp only [Bool.and_eq_true, List.isEmpty_iff, beq_iff_eq] at kept
    exact .inl ⟨kept.1, kept.2, rfl⟩
  rename_i followed
  cases n with
  | zero => cases h
  | succ n =>
    simp only at h
    split at h
    · -- the file to write has a slash after its name
      rcases hd : fs.walkOn .followed n (fs.trailTo (base p target)) target.names.dropLast with
        e | ⟨place', _ | (_ | _ | _)⟩ <;> rw [hd] at h <;> cases h
    rename_i closed
    refine .inr ⟨n, rfl, ?_, h⟩
    rintro rfl
    constructor
    · rintro rfl
      exact followed rfl
    · rintro rfl
      simpa using closed

end Steps

end FileSystem

/-! ### Routes -/

/-- Whatever is there stays the same, or goes. -/
def Layout.Persists (m m' : Layout) : Prop := ∀ p s, m p = some s → m' p = some s ∨ m' p = none

open FileSystem (base nameLimit)
open ShardCluster.Path (IsPlain)

/-- **A route** through a layout, from a directory along all the names to a directory, with some
links left that may still be followed. -/
inductive Layout.Route (m : Layout) : Nat → Place → List Bytes → Nat → Place → Prop
  | stay (n : Nat) (p : Place) : Route m n p [] n p
  | here {n n' : Nat} {p q : Place} {rest : List Bytes} :
      Route m n p rest n' q → Route m n p ([Path.dot] :: rest) n' q
  | up {n n' : Nat} {p q : Place} {rest : List Bytes} :
      Route m n p.dropLast rest n' q → Route m n p (Path.up :: rest) n' q
  | enter {n n' : Nat} {p q : Place} {name : Bytes} {rest : List Bytes} : IsPlain name →
      name.length ≤ nameLimit → m (p ++ [name]) = some .directory →
      Route m n (p ++ [name]) rest n' q → Route m n p (name :: rest) n' q
  | follow {n n' : Nat} {p q : Place} {name : Bytes} {rest : List Bytes} {target : Path} :
      IsPlain name → name.length ≤ nameLimit → m (p ++ [name]) = some (.link target) →
      Route m n (base p target) (target.steps ++ rest) n' q → Route m (n + 1) p (name :: rest) n' q

namespace Layout.Route

variable {m m' : Layout} {n n' k k' : Nat} {p q r : Place} {ns rest : List Bytes} {name : Bytes}

lemma append (h : m.Route n p ns n' q) (h' : m.Route n' q rest k r) :
    m.Route n p (ns ++ rest) k r := by
  induction h with
  | stay => exact h'
  | here _ ih => exact .here (ih h')
  | up _ ih => exact .up (ih h')
  | enter plain short found _ ih => exact .enter plain short found (ih h')
  | follow plain short found _ ih =>
    exact .follow plain short found (by simpa [List.append_assoc] using ih h')

theorem split (h : m.Route n p (ns ++ rest) k r) :
    ∃ n' q, m.Route n p ns n' q ∧ m.Route n' q rest k r := by
  generalize hall : ns ++ rest = all at h
  induction h generalizing ns with
  | stay n p =>
    obtain ⟨rfl, rfl⟩ := List.append_eq_nil_iff.1 hall
    exact ⟨n, p, .stay n p, .stay n p⟩
  | here tail ih =>
    cases ns with
    | nil =>
      obtain rfl := hall
      exact ⟨_, _, .stay _ _, .here tail⟩
    | cons name ns =>
      obtain ⟨rfl, rfl⟩ := List.cons_eq_cons.1 hall
      obtain ⟨n', q, h₁, h₂⟩ := ih rfl
      exact ⟨n', q, .here h₁, h₂⟩
  | up tail ih =>
    cases ns with
    | nil =>
      obtain rfl := hall
      exact ⟨_, _, .stay _ _, .up tail⟩
    | cons name ns =>
      obtain ⟨rfl, rfl⟩ := List.cons_eq_cons.1 hall
      obtain ⟨n', q, h₁, h₂⟩ := ih rfl
      exact ⟨n', q, .up h₁, h₂⟩
  | enter plain short found tail ih =>
    cases ns with
    | nil =>
      obtain rfl := hall
      exact ⟨_, _, .stay _ _, .enter plain short found tail⟩
    | cons name ns =>
      obtain ⟨rfl, rfl⟩ := List.cons_eq_cons.1 hall
      obtain ⟨n', q, h₁, h₂⟩ := ih rfl
      exact ⟨n', q, .enter plain short found h₁, h₂⟩
  | follow plain short found tail ih =>
    cases ns with
    | nil =>
      obtain rfl := hall
      exact ⟨_, _, .stay _ _, .follow plain short found tail⟩
    | cons name ns =>
      obtain ⟨rfl, rfl⟩ := List.cons_eq_cons.1 hall
      obtain ⟨n', q, h₁, h₂⟩ := ih (List.append_assoc ..)
      exact ⟨n', q, .follow plain short found h₁, h₂⟩

lemma last_present (h : m.Route n p (ns ++ [name]) k r) (plain : IsPlain name) :
    ∃ n' q, m.Route n p ns n' q ∧
      ((m (q ++ [name]) = some .directory ∧ r = q ++ [name]) ∨
        ∃ target, m (q ++ [name]) = some (.link target)) := by
  obtain ⟨n', q, before, step⟩ := h.split
  refine ⟨n', q, before, ?_⟩
  cases step with
  | here => exact absurd rfl plain.1
  | up => exact absurd rfl plain.2
  | enter _ _ found tail =>
    cases tail
    exact .inl ⟨found, rfl⟩
  | follow _ _ found _ => exact .inr ⟨_, found⟩

theorem eq_of_persists (h : m.Route n p ns n' q) (persists : m.Persists m')
    (h' : m'.Route n p ns k r) : k = n' ∧ r = q := by
  induction h with
  | stay =>
    cases h'
    exact ⟨rfl, rfl⟩
  | here _ ih =>
    cases h' with
    | here tail => exact ih tail
    | enter plain => exact absurd rfl plain.1
    | follow plain => exact absurd rfl plain.1
  | up _ ih =>
    cases h' with
    | up tail => exact ih tail
    | enter plain => exact absurd rfl plain.2
    | follow plain => exact absurd rfl plain.2
  | enter plain _ found _ ih =>
    cases h' with
    | here => exact absurd rfl plain.1
    | up => exact absurd rfl plain.2
    | enter _ _ _ tail => exact ih tail
    | follow _ _ found' _ =>
      rcases persists _ _ found with h | h <;> rw [h] at found' <;> cases found'
  | follow plain _ found _ ih =>
    cases h' with
    | here => exact absurd rfl plain.1
    | up => exact absurd rfl plain.2
    | enter _ _ found' _ =>
      rcases persists _ _ found with h | h <;> rw [h] at found' <;> cases found'
    | follow _ _ found' tail =>
      rcases persists _ _ found with h | h <;> rw [h] at found' <;> cases found'
      exact ih tail

lemma unique (h : m.Route n p ns n' q) (h' : m.Route n p ns k r) : k = n' ∧ r = q :=
  h.eq_of_persists (fun _ _ found => .inl found) h'

lemma present {names : List Bytes} {n'' : Nat} (whole : m.Route n p names k r)
    (first : ns ++ [name] <+: names) (plain : IsPlain name) (h : m.Route n p ns n'' q) :
    m (q ++ [name]) ≠ none := by
  obtain ⟨rest, rfl⟩ := first
  obtain ⟨_, _, before, -⟩ := whole.split
  obtain ⟨_, q', before', there⟩ := before.last_present plain
  obtain ⟨rfl, rfl⟩ := h.unique before'
  rcases there with ⟨there, -⟩ | ⟨_, there⟩ <;> simp [there]

theorem of_fewer (h : m.Route n p ns n' q) (fewer : ∀ p, m p = m' p ∨ m p = none) :
    m'.Route n p ns n' q := by
  have same {p : Place} {s : Shape} (found : m p = some s) : m' p = some s := by
    rcases fewer p with h | h
    · rwa [← h]
    · rw [h] at found
      cases found
  induction h with
  | stay n p => exact .stay n p
  | here _ ih => exact .here ih
  | up _ ih => exact .up ih
  | enter plain short found _ ih => exact .enter plain short (same found) ih
  | follow plain short found _ ih => exact .follow plain short (same found) ih

end Layout.Route

/-! ### Walks along routes -/

namespace FileSystem

variable {fs : FileSystem} {last : LastLink} {n n' : Nat} {p q : Place} {ns rest : List Bytes}

theorem walkOn_append (h : fs.layout.Route n p ns n' q) (more : rest ≠ [] ∨ last = .followed) :
    fs.walkOn last n (fs.trailTo p) (ns ++ rest) = fs.walkOn last n' (fs.trailTo q) rest := by
  induction h with
  | stay => rfl
  | here _ ih => rw [List.cons_append, walkOn_dot, ih]
  | up _ ih => rw [List.cons_append, walkOn_up, ih]
  | enter plain short found _ ih => rw [List.cons_append, walkOn_enter plain short found, ih]
  | @follow _ _ _ _ _ ns target plain short found _ ih =>
    have follows (none_left : ns ++ rest = []) : last.Follows target := by
      rcases more with ne | rfl
      · exact absurd (List.append_eq_nil_iff.1 none_left).2 ne
      · exact ⟨by simp, by simp⟩
    rw [List.cons_append, walkOn_follow plain short found follows, ← List.append_assoc, ih]

end FileSystem

end ShardCluster
