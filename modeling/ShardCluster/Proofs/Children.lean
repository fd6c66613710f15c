import ShardCluster.Proofs.Removals

/-!
# Children of a directory

A path may go one name beyond a directory that its other names lead to (`FileSystem.Child`). What it
names is then what is at that name (`Child.resolve`), so that every operation on it is told by what
is there: where nothing is, it leads to nothing (`Child.pathExists_missing`), and a directory or a
file can be put there (`Child.createDirectories`, `Child.writeFile`), also with a directory in
between that is missing as well (`Child.createDirectories_within`); settings are added to a file
that is there (`Child.append`). `OnlyAt` says that all changes were made at one place and below it.
-/

namespace ShardCluster

lemma Utf8.encode_injective {s t : String} (h : Utf8.encode s = Utf8.encode t) : s = t := by
  rw [← String.toByteArray_inj, ← String.utf8Encode_toList, ← String.utf8Encode_toList]
  exact congrArg List.toByteArray h

lemma Utf8.encode_append (s t : String) :
    Utf8.encode (s ++ t) = Utf8.encode s ++ Utf8.encode t := by
  simp [Utf8.encode]

/-! ### The path above a child -/

namespace Path

variable {p : Path} {name : String} {separator : UInt8} {bs : Bytes} {part : Bytes}
  {parts : List Bytes}

lemma unsplit_split (bs : Bytes) : unsplit (split slash bs) = bs := by
  induction bs with
  | nil => rfl
  | cons b rest ih =>
    obtain ⟨part, parts, hs⟩ := List.exists_cons_of_ne_nil (split_ne_nil slash rest)
    rw [hs] at ih
    rw [split]
    split
    · rename_i same
      rw [hs, same, ← ih]
      rfl
    · rw [hs, ← ih]
      cases parts <;> rfl

lemma trimmed_append (solid : isVoid part = false) :
    trimmed (parts ++ [part]) = parts ++ [part] := by
  unfold trimmed
  rw [List.reverse_append, List.reverse_singleton, List.singleton_append,
    List.dropWhile_cons_of_neg (by simp [solid]), List.reverse_cons, List.reverse_reverse]

lemma IsName.solid (one : IsName name) : isVoid (Utf8.encode name) = false := by
  simp [isVoid, one.nonempty, one.plain.1]

/-- The bytes of a child, where a slash is put in between. -/
lemma bytes_child (one : IsName name) (given : p.bytes ≠ []) (closed : p.isOpen = false) :
    (p.child name).bytes = p.bytes ++ slash :: Utf8.encode name := by
  unfold child join
  rw [one.relative, if_neg Bool.false_ne_true, closed, Bool.or_false,
    List.isEmpty_eq_false_iff.2 given, if_neg Bool.false_ne_true]
  rfl

lemma child_ne_nil (one : IsName name) : (p.child name).bytes ≠ [] := by
  intro none_given
  have names := one.names_child (p := p)
  rw [show p.child name = ⟨[]⟩ from congrArg Path.mk none_given, names_nil] at names
  simp at names

lemma split_child (one : IsName name) :
    ∃ parts, split slash (p.child name).bytes = parts ++ [Utf8.encode name] := by
  have last (bs : Bytes) : split slash (bs ++ slash :: Utf8.encode name) =
      split slash bs ++ [Utf8.encode name] := by
    rw [split_append, split_of_notMem one.single]
  unfold child join
  rw [one.relative, if_neg Bool.false_ne_true]
  split
  · rename_i ended
    rw [Bool.or_eq_true, List.isEmpty_iff] at ended
    rcases ended with none_before | ended
    · exact ⟨[], by rw [none_before]; exact split_of_notMem one.single⟩
    · obtain ⟨bs, rfl⟩ := exists_of_isOpen ended
      refine ⟨split slash bs, ?_⟩
      rw [List.append_assoc, List.singleton_append]
      exact last bs
  · exact ⟨split slash p.bytes, last p.bytes⟩

/-- the bytes of a path that opens like that and goes on with some parts -/
def opened : Option Component → List Bytes → Bytes
  | some .root, parts => slash :: unsplit parts
  | some .here, parts => unsplit ([dot] :: parts)
  | _, parts => unsplit parts

lemma parent?_of_opening {front : Option Component} (opens : p.opening = (front, parts))
    (some_left : trimmed parts ≠ []) :
    p.parent? = some ⟨opened front (trimmed (trimmed parts).dropLast)⟩ := by
  obtain ⟨first, rest, body⟩ := List.exists_cons_of_ne_nil some_left
  unfold parent?
  rw [opens]
  simp only [body]
  rcases front with _ | (_ | _ | _ | _) <;> rfl

lemma parent?_of_split {first second : Bytes} (solid : isVoid first = false)
    (solid' : isVoid second = false) (whole : split slash p.bytes = parts ++ [first] ++ [second]) :
    p.parent? = some ⟨unsplit (parts ++ [first])⟩ := by
  have cut (before : List Bytes) :
      trimmed (trimmed (before ++ [first] ++ [second])).dropLast = before ++ [first] := by
    rw [trimmed_append solid', List.dropLast_concat, trimmed_append solid]
  have left (before : List Bytes) : trimmed (before ++ [first] ++ [second]) ≠ [] := by
    rw [trimmed_append solid']
    simp
  rcases parts with _ | ⟨start, rest⟩
  · -- nothing comes before the names, so that the path opens with the first of them
    have relative : p.isAbsolute = false := by
      by_contra absolute
      obtain ⟨bs, hb⟩ := List.head?_eq_some_iff.1
        (beq_iff_eq.1 (Bool.not_eq_false _ ▸ absolute))
      rw [hb, split, if_pos rfl] at whole
      obtain rfl : first = [] := (List.cons.inj whole).1.symm
      cases solid
    have named : first ≠ [dot] := by
      rintro rfl
      cases solid
    have opens : p.opening = (none, [] ++ [first] ++ [second]) := by
      unfold opening
      rw [whole]
      simp [relative, named]
    rw [parent?_of_opening opens (left []), cut]
    rfl
  have joined :
      unsplit (start :: rest ++ [first]) = start ++ slash :: unsplit (rest ++ [first]) := by
    cases rest <;> rfl
  by_cases absolute : p.isAbsolute = true
  · have opens : p.opening = (some .root, rest ++ [first] ++ [second]) := by
      unfold opening
      rw [whole]
      simp [absolute]
    obtain rfl : start = [] := by
      obtain ⟨bs, hb⟩ := List.head?_eq_some_iff.1 (beq_iff_eq.1 absolute)
      rw [hb, split, if_pos rfl] at whole
      exact (List.cons.inj whole).1.symm
    rw [parent?_of_opening opens (left rest), cut, joined]
    rfl
  by_cases here : start = [dot]
  · have opens : p.opening = (some .here, rest ++ [first] ++ [second]) := by
      unfold opening
      rw [whole]
      simp [absolute, here]
    rw [parent?_of_opening opens (left rest), cut, here]
    rfl
  · have opens : p.opening = (none, start :: rest ++ [first] ++ [second]) := by
      unfold opening
      rw [whole]
      simp [absolute, here]
    rw [parent?_of_opening opens (left (start :: rest)), cut]
    rfl

/-- **Above a child of a child** is the child. -/
theorem parent?_child {first second : String} (one : IsName first) (two : IsName second) :
    ((p.child first).child second).parent? = some (p.child first) := by
  obtain ⟨before, parts⟩ := split_child (p := p) one
  have whole : split slash ((p.child first).child second).bytes =
      before ++ [Utf8.encode first] ++ [Utf8.encode second] := by
    rw [bytes_child two (child_ne_nil one) one.isOpen_child, split_append, parts,
      split_of_notMem two.single]
  rw [parent?_of_split one.solid two.solid whole, ← parts, unsplit_split]

end Path

/-! ### What a child names -/

namespace FileSystem

open ShardCluster.Path (IsPlain IsName)
open FileAction (Leaves)

variable {fs fs' : FileSystem} {path above : Path} {last : LastLink} {q : Place} {name : String}
  {content : Bytes}

/-! ### Admissible paths -/

lemma admissible_iff : admissible path = .ok () ↔
    0 ∉ path.bytes ∧ path.bytes ≠ [] ∧ path.bytes.length < pathLimit := by
  unfold admissible
  simp only [List.contains_iff_mem, List.isEmpty_iff]
  split_ifs with nul none_given long <;> simp_all

lemma admissible_of_child (one : IsName name) (given : path.bytes ≠ [])
    (closed : path.isOpen = false) (ok : admissible (path.child name) = .ok ()) :
    admissible path = .ok () := by
  rw [admissible_iff, Path.bytes_child one given closed] at ok
  obtain ⟨no_nul, -, short⟩ := ok
  refine admissible_iff.2 ⟨fun nul => no_nul (List.mem_append_left _ nul), given, ?_⟩
  rw [List.length_append] at short
  omega

lemma admissible_sibling {other : String} (one : IsName name) (two : IsName other)
    (no_nul : 0 ∉ Utf8.encode other)
    (shorter : (Utf8.encode other).length ≤ (Utf8.encode name).length) (given : path.bytes ≠ [])
    (closed : path.isOpen = false) (ok : admissible (path.child name) = .ok ()) :
    admissible (path.child other) = .ok () := by
  have above := admissible_iff.1 (admissible_of_child one given closed ok)
  rw [admissible_iff, Path.bytes_child one given closed] at ok
  rw [admissible_iff, Path.bytes_child two given closed]
  refine ⟨?_, by simp, ?_⟩
  · simp [above.1, no_nul, Path.slash]
  · have short := ok.2.2
    simp only [List.length_append, List.length_cons] at short ⊢
    omega

/-- **A child** of the directory that all names of a path lead to. -/
structure Child (fs : FileSystem) (path : Path) (name : String) (q : Place) : Prop where
  reached : fs.Reaches path path.names q
  directory : fs.layout q = some .directory
  one : IsName name
  short : (Utf8.encode name).length ≤ nameLimit
  ok : admissible (path.child name) = .ok ()

lemma origin_child (one : IsName name) : fs.origin (path.child name) = fs.origin path := by
  unfold origin
  rw [one.isAbsolute_child]

lemma Child.of_fewer (h : fs.Child path name q) (same : fs'.workingDirectory = fs.workingDirectory)
    (fewer : ∀ p, fs.layout p = fs'.layout p ∨ fs.layout p = none) : fs'.Child path name q := by
  obtain ⟨n, route⟩ := h.reached
  refine ⟨⟨n, ?_⟩, ?_, h.one, h.short, h.ok⟩
  · rw [origin_congr same]
    exact route.of_fewer fewer
  · rcases fewer q with kept | gone
    · rw [← kept, h.directory]
    · have directory := h.directory
      rw [gone] at directory
      cases directory

lemma lookup_of_missing (missing : fs.layout q = none) : fs.lookup q = none := by
  rwa [layout_eq, Option.map_eq_none_iff] at missing

lemma lookup_of_file (there : fs.layout q = some (.file content)) :
    fs.lookup q = some (.file content) := by
  rw [layout_eq] at there
  rcases found : fs.lookup q with _ | (_ | _ | _) <;> rw [found] at there <;> cases there
  rfl

lemma entryIn_of_directory {name : Bytes} (directory : fs.layout q = some .directory)
    (short : name.length ≤ nameLimit) :
    entryIn (fs.folder? q) name = .ok (fs.lookup (q ++ [name])) := by
  obtain ⟨folder, there⟩ := layout_eq_directory.1 directory
  have hf : fs.folder? q = some folder := by
    unfold folder?
    rw [there]
  rw [lookup_append, hf, entryIn, if_neg (Nat.not_lt.2 short), Option.bind_some]

/-- **What a child names** is what is at its name, unless that is a link to follow. -/
theorem Child.resolve (h : fs.Child path name q)
    (no_link : ∀ target, fs.layout (q ++ [Utf8.encode name]) ≠ some (.link target)) :
    fs.resolve (path.child name) last =
      .ok (q ++ [Utf8.encode name], fs.lookup (q ++ [Utf8.encode name])) := by
  obtain ⟨n, route⟩ := h.reached
  unfold FileSystem.resolve
  rw [h.ok, start_eq, origin_child h.one, steps_of_closed h.one.isOpen_child, h.one.names_child]
  simp only [bind, Except.bind]
  rw [walkOn_append route (.inl (List.cons_ne_nil _ _)), walkOn_plain h.one.plain,
    entryIn_of_directory h.directory h.short]
  rcases there : fs.lookup (q ++ [Utf8.encode name]) with _ | (inner | content | target)
  · rfl
  · have hf : fs.folder? (q ++ [Utf8.encode name]) = some inner := by
      unfold folder?
      rw [there]
    simp only [walkOn_nil, hf, Option.getD_some]
  · rfl
  · exact absurd (layout_of_lookup there) (no_link target)

lemma Child.entryIn_missing (h : fs.Child path name q)
    (missing : fs.layout (q ++ [Utf8.encode name]) = none) :
    entryIn (fs.folder? q) (Utf8.encode name) = .ok none := by
  rw [entryIn_of_directory h.directory h.short, lookup_of_missing missing]

lemma Child.find_missing (h : fs.Child path name q)
    (missing : fs.layout (q ++ [Utf8.encode name]) = none) :
    fs.find (path.child name) last = .error .notFound := by
  unfold find
  rw [h.resolve (by simp [missing]), lookup_of_missing missing]
  rfl

lemma Child.find_of_lookup {entry : Entry} (h : fs.Child path name q)
    (there : fs.lookup (q ++ [Utf8.encode name]) = some entry)
    (no_link : ∀ target, entry ≠ .link target) :
    fs.find (path.child name) last = .ok (q ++ [Utf8.encode name], entry) := by
  have alike : ∀ target, fs.layout (q ++ [Utf8.encode name]) ≠ some (.link target) := by
    intro target link
    rw [layout_of_lookup there] at link
    rcases entry with _ | _ | other <;> simp [Entry.shape] at link
    exact no_link other rfl
  unfold find
  rw [h.resolve alike, there]
  rfl

lemma Child.pathExists_missing (h : fs.Child path name q)
    (missing : fs.layout (q ++ [Utf8.encode name]) = none) :
    fs.pathExists (path.child name) = .ok false := by
  unfold pathExists
  rw [h.find_missing missing]

lemma Child.find_within {inner : String} (h : fs.Child path name q)
    (missing : fs.layout (q ++ [Utf8.encode name]) = none) (one : IsName inner)
    (ok : admissible ((path.child name).child inner) = .ok ()) :
    fs.find ((path.child name).child inner) last = .error .notFound := by
  obtain ⟨n, route⟩ := h.reached
  have walk : fs.walkOn last linkLimit (fs.trailTo (fs.origin path))
      (path.names ++ [Utf8.encode name] ++ [Utf8.encode inner]) = .error .notFound := by
    rw [List.append_assoc, walkOn_append route (.inl (List.append_ne_nil_of_left_ne_nil
      (List.cons_ne_nil _ _) _)), List.singleton_append, walkOn_plain h.one.plain,
      h.entryIn_missing missing]
    rfl
  unfold find FileSystem.resolve
  rw [ok, start_eq, origin_child one, origin_child h.one, steps_of_closed one.isOpen_child,
    one.names_child, h.one.names_child]
  simp only [bind, Except.bind, walk]

lemma Child.pathExists_within {inner : String} (h : fs.Child path name q)
    (missing : fs.layout (q ++ [Utf8.encode name]) = none) (one : IsName inner)
    (ok : admissible ((path.child name).child inner) = .ok ()) :
    fs.pathExists ((path.child name).child inner) = .ok false := by
  unfold pathExists
  rw [h.find_within missing one ok]

lemma Child.pathExists_file (h : fs.Child path name q)
    (there : fs.layout (q ++ [Utf8.encode name]) = some (.file content)) :
    fs.pathExists (path.child name) = .ok true := by
  unfold pathExists
  rw [h.find_of_lookup (lookup_of_file there) (by simp)]

lemma Child.child {inner : String} (h : fs.Child path name q)
    (there : fs.layout (q ++ [Utf8.encode name]) = some .directory) (one : IsName inner)
    (short : (Utf8.encode inner).length ≤ nameLimit)
    (ok : admissible ((path.child name).child inner) = .ok ()) :
    fs.Child (path.child name) inner (q ++ [Utf8.encode name]) := by
  obtain ⟨n, route⟩ := h.reached
  refine ⟨⟨n, ?_⟩, there, one, short, ok⟩
  rw [origin_child h.one, h.one.names_child]
  exact route.append (.enter h.one.plain h.short there (.stay ..))

/-! ### Creating a child -/

lemma lastName_of_names {names : List Bytes} {last : Bytes} (parts : path.names = names ++ [last])
    (plain : IsPlain last) : lastName path = .plain last := by
  have two : last ≠ [Path.dot, Path.dot] := plain.2
  unfold lastName
  rw [parts, List.getLast?_concat]
  simp only [plain.1, two, if_false]

lemma Child.holder (h : fs.Child path name q) : fs.holder (path.child name) = .ok q := by
  refine holder_of_reaches h.ok ?_
  obtain ⟨n, route⟩ := h.reached
  refine ⟨n, ?_⟩
  rw [origin_child h.one, h.one.names_child, List.dropLast_concat]
  exact route

lemma Child.lastName (h : fs.Child path name q) :
    lastName (path.child name) = .plain (Utf8.encode name) :=
  lastName_of_names h.one.names_child h.one.plain

lemma layout_of_missing {place p : Place} (missing : fs.layout place = none) (below : place <+: p) :
    fs.layout p = none := by
  obtain ⟨more, rfl⟩ := below
  by_contra there
  by_cases ne : more = []
  · rw [ne, List.append_nil] at there
    exact there missing
  · rw [directory_of_layout_append there ne] at missing
    cases missing

lemma fewer_insert {entry : Entry} {name : Bytes} (directory : fs.layout q = some .directory)
    (missing : fs.layout (q ++ [name]) = none) (bare : entry.isBare) (p : Place) :
    fs.layout p = (fs.insert (q ++ [name]) entry).layout p ∨ fs.layout p = none := by
  rw [layout_insert directory bare]
  by_cases below : q ++ [name] <+: p
  · exact .inr (layout_of_missing missing below)
  · exact .inl (Layout.set_elsewhere below).symm

/-- All changes are at a place or below it. -/
structure OnlyAt (home : Place) (fs fs' : FileSystem) : Prop where
  workingDirectory : fs'.workingDirectory = fs.workingDirectory
  elsewhere : ∀ p, ¬ home <+: p → fs'.layout p = fs.layout p

section OnlyAt

variable {home p : Place}

lemma OnlyAt.refl : OnlyAt home fs fs := ⟨rfl, fun _ _ => rfl⟩

lemma OnlyAt.fewer (h : OnlyAt home fs fs') (missing : fs.layout home = none) (p : Place) :
    fs.layout p = fs'.layout p ∨ fs.layout p = none := by
  by_cases below : home <+: p
  · exact .inr (layout_of_missing missing below)
  · exact .inl (h.elsewhere p below).symm

lemma Child.onlyAt {child : String} (h : fs.Child path child q) (only : OnlyAt home fs fs')
    (missing : fs.layout home = none) : fs'.Child path child q :=
  h.of_fewer only.workingDirectory (only.fewer missing)

end OnlyAt

lemma Child.createDirectory (h : fs.Child path name q)
    (missing : fs.layout (q ++ [Utf8.encode name]) = none) :
    Leaves (fun _ fs' => fs' = fs.insert (q ++ [Utf8.encode name]) (.directory []))
      (fun _ _ => False) (createDirectory (path.child name)) fs := by
  unfold FileSystem.createDirectory putNew
  simp only [FileAction.leaves_bind, FileAction.leaves_get, FileAction.leaves_liftM, h.holder,
    h.lastName, h.entryIn_missing missing]
  simp only [Entry.isDirectory, Bool.not_true, Bool.and_false, Bool.false_eq_true, if_false,
    FileAction.leaves_set]

theorem Child.createDirectories (h : fs.Child path name q)
    (missing : fs.layout (q ++ [Utf8.encode name]) = none) :
    Leaves (fun _ fs' => fs' = fs.insert (q ++ [Utf8.encode name]) (.directory []))
      (fun _ _ => False) (createDirectories (path.child name)) fs := by
  unfold FileSystem.createDirectories createDirectoriesWithin ensureDirectory
  rw [FileAction.leaves_ite, if_neg (by simpa using Path.child_ne_nil h.one),
    FileAction.leaves_tryCatch, FileAction.leaves_tryCatch]
  exact (h.createDirectory missing).mono (fun _ _ h => h) fun _ _ => False.elim

/-- Inside a child that is missing there is nowhere to create a directory. -/
lemma Child.ensureDirectory_within {inner : String} (h : fs.Child path name q)
    (missing : fs.layout (q ++ [Utf8.encode name]) = none) (one : IsName inner)
    (ok : admissible ((path.child name).child inner) = .ok ()) :
    Leaves (fun _ _ => False) (fun e fs' => e = .notFound ∧ fs' = fs)
      (ensureDirectory ((path.child name).child inner)) fs := by
  obtain ⟨n, route⟩ := h.reached
  have unheld : fs.holder ((path.child name).child inner) = .error .notFound := by
    unfold FileSystem.holder
    rw [ok, start_eq, origin_child one, origin_child h.one, one.names_child, List.dropLast_concat,
      h.one.names_child]
    simp only [bind, Except.bind]
    rw [walkOn_append route (.inr rfl), walkOn_plain h.one.plain, h.entryIn_missing missing]
    rfl
  have lost : fs.leadsToDirectory ((path.child name).child inner) = false := by
    unfold leadsToDirectory
    rw [h.find_within missing one ok]
  unfold ensureDirectory FileSystem.createDirectory putNew
  simp only [FileAction.leaves_tryCatch, FileAction.leaves_bind, FileAction.leaves_get,
    FileAction.leaves_liftM, unheld, lost, Bool.false_eq_true, if_false, FileAction.leaves_throw,
    and_self]

/-- **A child of a child** that is missing is created with the directory in between. -/
theorem Child.createDirectories_within {inner : String} (h : fs.Child path name q)
    (missing : fs.layout (q ++ [Utf8.encode name]) = none) (one : IsName inner)
    (short : (Utf8.encode inner).length ≤ nameLimit)
    (ok : admissible ((path.child name).child inner) = .ok ()) :
    Leaves (fun _ fs' => fs' = (fs.insert (q ++ [Utf8.encode name]) (.directory [])).insert
        (q ++ [Utf8.encode name] ++ [Utf8.encode inner]) (.directory []))
      (fun _ _ => False) (FileSystem.createDirectories ((path.child name).child inner)) fs := by
  have given : ((path.child name).child inner).bytes ≠ [] := Path.child_ne_nil one
  unfold FileSystem.createDirectories
  obtain ⟨fuel, enough⟩ := Nat.exists_eq_succ_of_ne_zero (List.length_pos_iff.2 given).ne'
  rw [enough, createDirectoriesWithin, FileAction.leaves_ite, if_neg (by simpa using given),
    FileAction.leaves_tryCatch]
  refine (h.ensureDirectory_within missing one ok).mono (fun _ _ => False.elim) ?_
  rintro e fs₁ ⟨rfl, rfl⟩
  simp only [Path.parent?_child h.one one, FileAction.leaves_bind]
  -- the directory in between comes first
  rw [createDirectoriesWithin, FileAction.leaves_ite,
    if_neg (by simpa using Path.child_ne_nil h.one), FileAction.leaves_tryCatch]
  unfold ensureDirectory
  rw [FileAction.leaves_tryCatch]
  refine (h.createDirectory missing).mono ?_ fun _ _ => False.elim
  rintro - fs₂ rfl
  have placed : (fs₁.insert (q ++ [Utf8.encode name]) (.directory [])).layout =
      fs₁.layout.set (q ++ [Utf8.encode name]) (some .directory) :=
    layout_insert h.directory rfl
  have there : (fs₁.insert (q ++ [Utf8.encode name]) (.directory [])).layout
      (q ++ [Utf8.encode name]) = some .directory := by
    rw [placed, Layout.set_self]
  have bare : (Entry.directory []).isBare := rfl
  have more (p : Place) : fs₁.layout p =
      (fs₁.insert (q ++ [Utf8.encode name]) (.directory [])).layout p ∨ fs₁.layout p = none :=
    fewer_insert h.directory missing bare p
  have further := (h.of_fewer workingDirectory_insert more).child there one short ok
  rw [FileAction.leaves_tryCatch]
  refine (further.createDirectory ?_).mono (fun _ _ h => h) fun _ _ => False.elim
  rw [placed, Layout.set_below (List.prefix_append _ _) (by simp)]

/-! ### Writing a child -/

/-- **A file** is put where nothing is. -/
theorem Child.writeFile (h : fs.Child path name q)
    (missing : fs.layout (q ++ [Utf8.encode name]) = none) :
    Leaves (fun _ fs' => fs' = fs.insert (q ++ [Utf8.encode name]) (.file content))
      (fun _ _ => False) (writeFile (path.child name) content) fs := by
  have resolved : fs.resolve (path.child name) .written = .ok (q ++ [Utf8.encode name], none) := by
    rw [h.resolve (by simp [missing]), lookup_of_missing missing]
  unfold FileSystem.writeFile openForWriting
  simp only [FileAction.leaves_bind, FileAction.leaves_get, FileAction.leaves_liftM, h.holder,
    h.lastName, h.one.isOpen_child, Bool.false_eq_true, if_false,
    resolved, FileAction.leaves_pure, FileAction.leaves_modify]

/-- **A file that is there** can be added to. -/
theorem Child.append (h : fs.Child path name q)
    (there : fs.layout (q ++ [Utf8.encode name]) = some (.file content)) :
    Leaves (fun place fs' => place = q ++ [Utf8.encode name] ∧ fs' = fs) (fun _ _ => False)
      (openForAppending (path.child name)) fs := by
  unfold openForAppending
  simp only [FileAction.leaves_bind, FileAction.leaves_get, FileAction.leaves_liftM,
    h.find_of_lookup (lookup_of_file there) (by simp), FileAction.leaves_pure, and_self]

end FileSystem

end ShardCluster
