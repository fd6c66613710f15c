import Mathlib.Data.List.DropRight
import Mathlib.Data.List.Infix
import ShardCluster.Path

/-!
# The names of a path

Which names a path has, and what becomes of them where paths are joined, ended in a slash or
shortened by their last component.
-/

namespace ShardCluster.Path

variable {p q : Path} {separator : UInt8} {bs cs : Bytes} {parts : List Bytes} {name : String}

/-- the name of the directory above -/
def up : Bytes := [dot, dot]

/-- a name that stands for an entry of its own -/
def IsPlain (name : Bytes) : Prop := name ≠ [dot] ∧ name ≠ up

instance : DecidablePred IsPlain := fun _ => inferInstanceAs (Decidable (_ ∧ _))

/-- text that is one name, and stands for an entry of its own -/
structure IsName (name : String) : Prop where
  nonempty : Utf8.encode name ≠ []
  single : slash ∉ Utf8.encode name
  plain : IsPlain (Utf8.encode name)

instance : Decidable (IsName name) :=
  decidable_of_iff (Utf8.encode name ≠ [] ∧ slash ∉ Utf8.encode name ∧ IsPlain (Utf8.encode name))
    ⟨fun ⟨h₁, h₂, h₃⟩ => ⟨h₁, h₂, h₃⟩, fun ⟨h₁, h₂, h₃⟩ => ⟨h₁, h₂, h₃⟩⟩

/-! ### Splitting -/

lemma split_ne_nil (separator : UInt8) (bs : Bytes) : split separator bs ≠ [] := by
  cases bs with
  | nil => simp [split]
  | cons b rest =>
    unfold split
    split
    · simp
    · split <;> simp

lemma split_append : split separator (bs ++ separator :: cs) =
    split separator bs ++ split separator cs := by
  induction bs with
  | nil => simp [split]
  | cons b rest ih =>
    rw [List.cons_append, split, split, ih]
    split
    · rfl
    · obtain ⟨part, parts, h⟩ := List.exists_cons_of_ne_nil (split_ne_nil separator rest)
      rw [h]
      rfl

lemma split_append_separator (separator : UInt8) (bs : Bytes) :
    split separator (bs ++ [separator]) = split separator bs ++ [[]] :=
  split_append

lemma split_of_notMem (h : separator ∉ bs) : split separator bs = [bs] := by
  induction bs with
  | nil => rfl
  | cons b rest ih =>
    rw [List.mem_cons, not_or] at h
    rw [split, if_neg (Ne.symm h.1), ih h.2]

lemma notMem_of_mem_split {part : Bytes} (h : part ∈ split separator bs) : separator ∉ part := by
  induction bs generalizing part with
  | nil =>
    rw [split, List.mem_singleton] at h
    simp [h]
  | cons b rest ih =>
    rw [split] at h
    split at h
    · rcases List.mem_cons.1 h with rfl | h
      · exact List.not_mem_nil
      · exact ih h
    · rename_i ne
      obtain ⟨first, parts, hs⟩ := List.exists_cons_of_ne_nil (split_ne_nil separator rest)
      rw [hs] at h ih
      rcases List.mem_cons.1 h with rfl | h
      · rw [List.mem_cons, not_or]
        exact ⟨Ne.symm ne, ih (List.mem_cons_self ..)⟩
      · exact ih (List.mem_cons_of_mem _ h)

lemma split_unsplit (pure : ∀ part ∈ parts, slash ∉ part) (ne : parts ≠ []) :
    split slash (unsplit parts) = parts := by
  induction parts with
  | nil => exact absurd rfl ne
  | cons part parts ih =>
    rw [List.forall_mem_cons] at pure
    cases parts with
    | nil => exact split_of_notMem pure.1
    | cons next rest =>
      show split slash (part ++ slash :: unsplit (next :: rest)) = _
      rw [split_append, split_of_notMem pure.1, ih pure.2 (List.cons_ne_nil _ _)]
      rfl

/-! ### Names -/

lemma names_nil : (Path.mk []).names = [] := rfl

lemma names_append_slash : (Path.mk (bs ++ slash :: cs)).names =
    (Path.mk bs).names ++ (Path.mk cs).names := by
  unfold names
  rw [split_append, List.filter_append]

lemma names_of_notMem (ne : bs ≠ []) (single : slash ∉ bs) : (Path.mk bs).names = [bs] := by
  unfold names
  rw [split_of_notMem single]
  cases bs with
  | nil => exact absurd rfl ne
  | cons b rest => rfl

lemma names_unsplit (pure : ∀ part ∈ parts, slash ∉ part) :
    (Path.mk (unsplit parts)).names = parts.filter (!·.isEmpty) := by
  cases parts with
  | nil => rfl
  | cons part rest =>
    unfold names
    rw [split_unsplit pure (List.cons_ne_nil _ _)]

/-! ### Joined paths -/

lemma exists_of_isOpen (h : p.isOpen = true) : ∃ bs, p = ⟨bs ++ [slash]⟩ := by
  unfold isOpen at h
  rw [beq_iff_eq] at h
  exact ⟨p.bytes.dropLast, congrArg mk (List.dropLast_append_getLast? _ h).symm⟩

theorem names_join (relative : q.isAbsolute = false) : (p.join q).names = p.names ++ q.names := by
  unfold join
  rw [relative, if_neg Bool.false_ne_true]
  split
  · rename_i ended
    rw [Bool.or_eq_true, List.isEmpty_iff] at ended
    rcases ended with none_before | ended
    · rw [none_before, List.nil_append, show p.names = [] by rw [names, none_before]; rfl]
      rfl
    · obtain ⟨bs, rfl⟩ := exists_of_isOpen ended
      rw [List.append_assoc, List.singleton_append, names_append_slash, names_append_slash,
        names_nil, List.append_nil]
  · exact names_append_slash

lemma isAbsolute_join (relative : q.isAbsolute = false) :
    (p.join q).isAbsolute = p.isAbsolute := by
  unfold join
  rw [relative, if_neg Bool.false_ne_true]
  obtain ⟨bs⟩ := p
  cases bs with
  | nil => exact relative
  | cons b rest => split <;> rfl

lemma isOpen_join (relative : q.isAbsolute = false) (ne : q.bytes ≠ []) :
    (p.join q).isOpen = q.isOpen := by
  unfold join
  rw [relative, if_neg Bool.false_ne_true]
  split
  · unfold isOpen
    rw [List.getLast?_append_of_ne_nil _ ne]
  · unfold isOpen
    rw [List.getLast?_append_of_ne_nil _ (List.cons_ne_nil _ _),
      List.getLast?_cons_of_ne_nil ne]

section Child

variable (h : IsName name)
include h

lemma IsName.relative : (ofString name).isAbsolute = false := by
  obtain ⟨b, rest, hb⟩ := List.exists_cons_of_ne_nil h.nonempty
  have single := h.single
  rw [hb, List.mem_cons, not_or] at single
  simp [isAbsolute, ofString, hb, Ne.symm single.1]

lemma IsName.names_child : (p.child name).names = p.names ++ [Utf8.encode name] := by
  rw [child, names_join h.relative]
  exact congrArg _ (names_of_notMem h.nonempty h.single)

lemma IsName.isAbsolute_child : (p.child name).isAbsolute = p.isAbsolute :=
  isAbsolute_join h.relative

lemma IsName.isOpen_child : (p.child name).isOpen = false := by
  rw [child, isOpen_join h.relative h.nonempty]
  refine beq_false_of_ne fun last => h.single ?_
  exact List.mem_of_getLast? last

end Child

/-! ### Components -/

lemma components_append_slash {bs : Bytes} (h : bs ≠ []) :
    (Path.mk (bs ++ [slash])).components = (Path.mk bs).components := by
  have absolute : (Path.mk (bs ++ [slash])).isAbsolute = (Path.mk bs).isAbsolute := by
    simp [isAbsolute, List.head?_append_of_ne_nil _ h]
  obtain ⟨first, parts, hs⟩ := List.exists_cons_of_ne_nil (split_ne_nil slash bs)
  have void (l : List Bytes) : (l ++ [[]]).filter (!isVoid ·) = l.filter (!isVoid ·) := by
    simp [isVoid]
  unfold components opening
  simp only [split_append_separator, hs, absolute, List.cons_append]
  split_ifs
  · rw [void]
  · rw [void]
  · rw [← List.cons_append, void]

lemma components_eq_of_append {bs : Bytes} (closed : (q.bytes.isEmpty || q.isOpen) = false)
    (h : p.bytes ++ bs = q.bytes ++ slash :: bs) : p.components = q.components := by
  have more : p.bytes = q.bytes ++ [slash] := by
    have : p.bytes ++ bs = (q.bytes ++ [slash]) ++ bs := by
      rw [h, List.append_assoc, List.singleton_append]
    exact List.append_cancel_right this
  have ne : q.bytes ≠ [] := by
    intro he
    simp [he] at closed
  rw [show p = ⟨p.bytes⟩ from rfl, more, components_append_slash ne]

lemma same_of_child_eq {name : String} (relative : (ofString name).isAbsolute = false)
    (h : p.child name = q.child name) : p.same q = true := by
  unfold child join at h
  simp only [relative, Bool.false_eq_true, if_false] at h
  unfold same
  rw [beq_iff_eq]
  by_cases hp : (p.bytes.isEmpty || p.isOpen) = true <;>
    by_cases hq : (q.bytes.isEmpty || q.isOpen) = true
  · simp only [hp, hq, if_true, Path.mk.injEq, List.append_cancel_right_eq] at h
    rw [show p = ⟨p.bytes⟩ from rfl, h]
  · simp only [hp, hq, if_true, Bool.false_eq_true, if_false, Path.mk.injEq] at h
    exact components_eq_of_append (by simpa using hq) h
  · simp only [hp, hq, if_true, Bool.false_eq_true, if_false, Path.mk.injEq] at h
    exact (components_eq_of_append (by simpa using hp) h.symm).symm
  · simp only [hp, hq, Bool.false_eq_true, if_false, Path.mk.injEq,
      List.append_cancel_right_eq] at h
    rw [show p = ⟨p.bytes⟩ from rfl, h]

lemma components_append_name {bs : Bytes} {name : String} (ne : bs ≠ []) (one : IsName name) :
    (Path.mk (bs ++ slash :: Utf8.encode name)).components =
      (Path.mk bs).components ++ [.name (Utf8.encode name)] := by
  have absolute : (Path.mk (bs ++ slash :: Utf8.encode name)).isAbsolute =
      (Path.mk bs).isAbsolute := by
    simp [isAbsolute, List.head?_append_of_ne_nil _ ne]
  obtain ⟨first, parts, hs⟩ := List.exists_cons_of_ne_nil (split_ne_nil slash bs)
  have added (l : List Bytes) : ((l ++ [Utf8.encode name]).filter (!isVoid ·)).map .ofPart =
      (l.filter (!isVoid ·)).map .ofPart ++ [Component.name (Utf8.encode name)] := by
    simp [isVoid, one.nonempty, one.plain.1, Component.ofPart,
      show Utf8.encode name ≠ [dot, dot] from one.plain.2]
  unfold components opening
  simp only [split_append, split_of_notMem one.single, hs, absolute, List.cons_append]
  split_ifs
  · rw [added, List.append_assoc]
  · rw [added, List.append_assoc]
  · rw [← List.cons_append, added, List.append_assoc]

lemma IsName.components_child {p : Path} {name : String} (one : IsName name) :
    (p.child name).components = p.components ++ [.name (Utf8.encode name)] := by
  have alone : [Utf8.encode name].filter (!isVoid ·) = [Utf8.encode name] := by
    simp [isVoid, one.nonempty, one.plain.1]
  have own : Component.ofPart (Utf8.encode name) = .name (Utf8.encode name) := if_neg one.plain.2
  have nothing : isVoid [] = true := rfl
  unfold child join
  rw [one.relative, if_neg Bool.false_ne_true]
  split
  · rename_i ended
    rw [Bool.or_eq_true, List.isEmpty_iff] at ended
    by_cases none_before : p.bytes = []
    · have relative := one.relative
      unfold ofString at relative
      rw [show p = ⟨p.bytes⟩ from rfl, none_before, List.nil_append,
        show (Path.mk []).components = [] from rfl]
      unfold components opening ofString
      simp [split_of_notMem one.single, relative, one.plain.1, alone, own]
    obtain ⟨bs, rfl⟩ := exists_of_isOpen (ended.resolve_left none_before)
    by_cases top : bs = []
    · subst top
      unfold components opening ofString
      simp [split, split_of_notMem one.single, isAbsolute, alone, own, nothing]
    · rw [List.append_assoc, components_append_slash top]
      exact components_append_name top one
  · rename_i closed
    refine components_append_name ?_ one
    rintro h
    simp [h] at closed

/-! ### Shortened paths -/

lemma prefix_of_trimmed (parts : List Bytes) : trimmed parts <+: parts :=
  List.rdropWhile_prefix isVoid parts

lemma prefix_of_trimmed_dropLast (parts : List Bytes) :
    trimmed (trimmed parts).dropLast <+: parts :=
  (prefix_of_trimmed _).trans (( List.dropLast_prefix _).trans (prefix_of_trimmed _))

lemma isAbsolute_unsplit (pure : ∀ part ∈ parts, slash ∉ part) (solid : parts.head? ≠ some []) :
    (Path.mk (unsplit parts)).isAbsolute = false := by
  rcases parts with _ | ⟨_ | ⟨b, part⟩, rest⟩
  · rfl
  · exact absurd rfl solid
  · have ne : b ≠ slash := fun h => pure _ (List.mem_cons_self ..) (h ▸ List.mem_cons_self ..)
    cases rest with
    | nil => simpa [isAbsolute, unsplit] using ne
    | cons => simpa [isAbsolute, unsplit] using ne

lemma opening_spec (p : Path) : ∃ parts, (∀ part ∈ parts, slash ∉ part) ∧
    ((p.opening = (some .root, parts) ∧ p.isAbsolute = true ∧
        p.names = parts.filter (!·.isEmpty)) ∨
      (p.opening = (some .here, parts) ∧ p.isAbsolute = false ∧
        p.names = [dot] :: parts.filter (!·.isEmpty)) ∨
      (p.opening = (none, parts) ∧ p.isAbsolute = false ∧
        p.names = parts.filter (!·.isEmpty) ∧ (parts.head? = some [] → parts = [[]]))) := by
  obtain ⟨first, parts, hs⟩ := List.exists_cons_of_ne_nil (split_ne_nil slash p.bytes)
  have pure : ∀ part ∈ first :: parts, slash ∉ part := fun part hp =>
    notMem_of_mem_split (by rwa [← hs] at hp)
  have all : p.names = (first :: parts).filter (!·.isEmpty) := by rw [names, hs]
  have empty : first = [] → p.isAbsolute = true ∨ parts = [] := by
    rintro rfl
    obtain ⟨_ | ⟨b, rest⟩⟩ := p
    · exact .inr (List.cons.inj hs).2.symm
    · refine .inl ?_
      rw [split] at hs
      split at hs
      · rename_i h
        rw [h]
        rfl
      · obtain ⟨part, more, h⟩ := List.exists_cons_of_ne_nil (split_ne_nil slash rest)
        rw [h] at hs
        cases hs
  unfold opening
  rw [hs]
  by_cases absolute : p.isAbsolute = true
  · have : first = [] := by
      obtain ⟨rest, hb⟩ := List.head?_eq_some_iff.1 (beq_iff_eq.1 absolute)
      rw [hb, split, if_pos rfl, List.cons.injEq] at hs
      exact hs.1.symm
    refine ⟨parts, fun part hp => pure part (List.mem_cons_of_mem _ hp), .inl ?_⟩
    simp [absolute, all, this]
  · by_cases here : first = [dot]
    · refine ⟨parts, fun part hp => pure part (List.mem_cons_of_mem _ hp), .inr (.inl ?_)⟩
      simp [absolute, all, here]
    · refine ⟨first :: parts, pure, .inr (.inr ?_)⟩
      simp only [absolute, here, Bool.false_eq_true, if_false, all, true_and, List.head?_cons,
        Option.some.injEq]
      rintro rfl
      rw [(empty rfl).resolve_left absolute]

theorem parent_spec {above : Path} (h : p.parent? = some above) :
    above.names <+: p.names ∧ above.isAbsolute = p.isAbsolute := by
  obtain ⟨parts, pure, opening⟩ := opening_spec p
  have shorter := prefix_of_trimmed_dropLast parts
  have kept : ∀ part ∈ trimmed (trimmed parts).dropLast, slash ∉ part := fun part hp =>
    pure part (shorter.subset hp)
  have whole {above : List Bytes} (h : above <+: parts) :
      above.filter (!·.isEmpty) <+: parts.filter (!·.isEmpty) := h.filter _
  unfold parent? at h
  rcases opening with ⟨ho, absolute, all⟩ | ⟨ho, relative, all⟩ | ⟨ho, relative, all, solid⟩
  · rw [ho] at h
    simp only at h
    rcases ht : trimmed parts with _ | ⟨first, body⟩ <;> rw [ht] at h shorter kept
    · cases h
    · obtain rfl := Option.some.inj h
      refine ⟨?_, absolute.symm ▸ rfl⟩
      rw [show ∀ bs, slash :: bs = [] ++ slash :: bs from fun _ => rfl, names_append_slash,
        names_unsplit kept, all]
      exact whole shorter
  · rw [ho] at h
    simp only at h
    rcases ht : trimmed parts with _ | ⟨first, body⟩ <;> rw [ht] at h shorter kept
    · obtain rfl := Option.some.inj h
      exact ⟨List.nil_prefix, relative.symm ▸ rfl⟩
    · obtain rfl := Option.some.inj h
      have pure' : ∀ part ∈ [dot] :: trimmed (first :: body).dropLast, slash ∉ part := by
        intro part hp
        rcases List.mem_cons.1 hp with rfl | hp
        · decide
        · exact kept part hp
      refine ⟨?_, (isAbsolute_unsplit pure' (by simp)).trans relative.symm⟩
      simp only
      rw [names_unsplit pure', all]
      exact List.cons_prefix_cons.2 ⟨rfl, whole shorter⟩
  · rw [ho] at h
    simp only at h
    rcases ht : trimmed parts with _ | ⟨first, body⟩ <;> rw [ht] at h shorter kept
    · cases h
    · obtain rfl := Option.some.inj h
      refine ⟨by simp only; rw [names_unsplit kept, all]; exact whole shorter, ?_⟩
      refine (isAbsolute_unsplit kept fun empty => ?_).trans relative.symm
      obtain ⟨rest, hr⟩ := List.head?_eq_some_iff.1 empty
      have : parts = [[]] := solid (by
        rw [hr] at shorter
        obtain ⟨more, rfl⟩ := shorter
        rfl)
      rw [this] at ht
      cases ht

end ShardCluster.Path
