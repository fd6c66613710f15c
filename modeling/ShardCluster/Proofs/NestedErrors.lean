import ShardCluster.Error
import ShardCluster.Proofs.Literals
import ShardCluster.Proofs.RenderedSettings

/-!
# Nested errors

The error of an onboarding holds its source and the error of a teardown its failures, to any depth.
None of their texts is lost: `ClusterError.nothing_lost` says that the message of an error has a
place for the message of every error nested in it (`ClusterError.Placement`), and that its
successive sources are what is left of its onboardings as they are taken off one by one
(`ClusterError.SourcesAlong`).

An error stands in the message of the one that holds it, after a number of characters that can be
told (`lead`), and in front of the next one held there (`end_le_lead`). By induction on the way to a
nested error, these numbers add up to its place in the whole (`standsAt_place`).
-/

namespace ShardCluster

namespace Text

/-! ### Places in a text -/

/-- the part is in the whole, after that many characters -/
def StandsAt (part whole : String) (place : Nat) : Prop :=
  ∃ before after : String, before.length = place ∧ whole = before ++ part ++ after

section Places

variable {part middle whole text : String} {place inner i j : Nat} {texts : List String}

lemma StandsAt.self (whole : String) : StandsAt whole whole 0 :=
  ⟨"", "", rfl, by simp⟩

lemma StandsAt.last (before part : String) : StandsAt part (before ++ part) before.length :=
  ⟨before, "", rfl, by simp⟩

lemma StandsAt.trans (there : StandsAt part middle inner) (around : StandsAt middle whole place) :
    StandsAt part whole (place + inner) := by
  obtain ⟨before, after, rfl, rfl⟩ := there
  obtain ⟨before', after', rfl, rfl⟩ := around
  exact ⟨before' ++ before, after ++ after', by simp, by simp [String.append_assoc]⟩

lemma StandsAt.room (there : StandsAt part whole place) :
    place + part.length ≤ whole.length := by
  obtain ⟨before, after, rfl, rfl⟩ := there
  simp only [String.length_append]
  omega

lemma StandsAt.drop (there : StandsAt part whole place) :
    ∃ after : String, whole.toList.drop place = part.toList ++ after.toList := by
  obtain ⟨before, after, rfl, rfl⟩ := there
  refine ⟨after, ?_⟩
  rw [String.append_assoc, String.toList_append, ← String.length_toList, List.drop_left,
    String.toList_append]

/-- how many characters come before the text of that index when texts are joined -/
def joinedBefore (separator : String) : List String → Nat → Nat
  | first :: rest, i + 1 => first.length + separator.length + joinedBefore separator rest i
  | _, _ => 0

lemma standsAt_joined (separator : String) (there : texts[i]? = some text) :
    StandsAt text (separator.intercalate texts) (joinedBefore separator texts i) := by
  induction texts generalizing i with
  | nil => cases there
  | cons first rest ih =>
    cases i with
    | zero =>
      obtain rfl := Option.some.inj there
      refine ⟨"", if rest = [] then "" else separator ++ separator.intercalate rest, rfl, ?_⟩
      split_ifs with alone
      · simp [alone]
      · rw [String.intercalate_cons_of_ne_nil alone]
        simp [String.append_assoc]
    | succ i =>
      have more : rest ≠ [] := by
        rintro rfl
        cases there
      rw [String.intercalate_cons_of_ne_nil more, joinedBefore, ← String.length_append]
      exact (ih there).trans (.last _ _)

lemma end_le_joinedBefore (separator : String) (there : texts[i]? = some text) (later : i < j)
    (listed : j < texts.length) :
    joinedBefore separator texts i + text.length ≤ joinedBefore separator texts j := by
  induction texts generalizing i j with
  | nil => cases there
  | cons first rest ih =>
    obtain ⟨j, rfl⟩ : ∃ j', j = j' + 1 := Nat.exists_eq_add_one_of_ne_zero (by omega)
    cases i with
    | zero =>
      obtain rfl := Option.some.inj there
      simp only [joinedBefore]
      omega
    | succ i =>
      have := ih there (Nat.lt_of_succ_lt_succ later) (Nat.lt_of_succ_lt_succ listed)
      simp only [joinedBefore]
      omega

end Places

/-- the first number that a text states -/
def firstNumber? (text : List Char) : Option Nat :=
  let digits := (text.dropWhile fun c => !c.isDigit).takeWhile Char.isDigit
  if digits = [] then none else some (Nat.ofDigitChars 10 digits 0)

lemma firstNumber?_append {before after : List Char} (n : Nat)
    (none_ : before.all fun c => !c.isDigit) (ended : ∀ c ∈ after.head?, c.isDigit = false) :
    firstNumber? (before ++ ((toString n).toList ++ after)) = some n := by
  have digits := Template.digit_of_number n
  have skipped : (before ++ ((toString n).toList ++ after)).dropWhile (fun c => !c.isDigit)
      = (toString n).toList ++ after := by
    rw [List.dropWhile_append_of_pos (List.all_eq_true.1 none_)]
    rcases written : (toString n).toList with _ | ⟨d, ds⟩
    · rw [Template.toList_number] at written
      exact absurd written Nat.toDigits_ne_nil
    · rw [List.cons_append, List.dropWhile_cons_of_neg]
      simp [digits d (written ▸ List.mem_cons_self)]
  rw [firstNumber?, skipped, (Sql.word_ends digits ended).1, Template.toList_number,
    if_neg Nat.toDigits_ne_nil, Nat.ofDigitChars_ten_toDigits]

end Text

open Text (StandsAt firstNumber? joinedBefore)

namespace ClusterError

/-! ### Errors in errors -/

/-- the errors that an error holds, in their order -/
def parts : ClusterError → List ClusterError
  | addWorker _ source => [source]
  | teardown failures => failures
  | _ => []

/-- the error at the end of a way, which goes from each error to one that it holds, by its index -/
def nested? (e : ClusterError) : List Nat → Option ClusterError
  | [] => some e
  | i :: way => e.parts[i]?.bind fun part => part.nested? way

variable {e part whole first second : ClusterError} {way : List Nat} {i j : Nat}

lemma nested?_cons_eq_some_iff : e.nested? (i :: way) = some part ↔
    ∃ between, e.parts[i]? = some between ∧ between.nested? way = some part :=
  Option.bind_eq_some_iff

/-! ### Messages in messages -/

lemma messages_eq_map (failures : List ClusterError) :
    messages failures = failures.map message := by
  induction failures with
  | nil => rfl
  | cons failure failures ih => exact congrArg (failure.message :: ·) ih

lemma message_addWorker (worker : String) (source : ClusterError) :
    (addWorker worker source).message
      = "Failed to add worker " ++ worker ++ ": " ++ source.message := rfl

lemma message_teardown (failures : List ClusterError) :
    (teardown failures).message
      = "Teardown left " ++ toString failures.length ++ " node(s) behind: "
        ++ "; ".intercalate (failures.map message) := by
  rw [← messages_eq_map]
  rfl

lemma getElem?_messages {failures : List ClusterError}
    (held : (teardown failures).parts[i]? = some part) :
    (failures.map message)[i]? = some part.message := by
  rw [List.getElem?_map, show failures[i]? = some part from held, Option.map_some]

/-- how many characters the message of an error has before that of the part with that index -/
def lead : ClusterError → Nat → Nat
  | addWorker worker _, _ => ("Failed to add worker " ++ worker ++ ": ").length
  | teardown failures, i =>
    ("Teardown left " ++ toString failures.length ++ " node(s) behind: ").length
      + joinedBefore "; " (failures.map message) i
  | _, _ => 0

lemma standsAt_lead (held : e.parts[i]? = some part) :
    StandsAt part.message e.message (e.lead i) := by
  cases e with
  | addWorker worker source =>
    obtain ⟨rfl, rfl⟩ : i = 0 ∧ source = part := by
      simpa [parts, List.getElem?_singleton] using held
    rw [message_addWorker]
    exact .last _ _
  | teardown failures =>
    rw [message_teardown]
    exact (Text.standsAt_joined "; " (getElem?_messages held)).trans (.last _ _)
  | _ => cases held

/-- Of two errors that an error holds, the message of the first ends before that of the second. -/
lemma end_le_lead (held : e.parts[i]? = some first) (later : i < j)
    (held' : e.parts[j]? = some second) : e.lead i + first.message.length ≤ e.lead j := by
  cases e with
  | teardown failures =>
    have listed : j < (failures.map message).length :=
      (List.getElem?_eq_some_iff.1 (getElem?_messages held')).1
    have := Text.end_le_joinedBefore "; " (getElem?_messages held) later listed
    simp only [lead]
    omega
  | addWorker worker source =>
    have alone : j = 0 := by simpa [parts] using (List.getElem?_eq_some_iff.1 held').1
    omega
  | _ => cases held

/-! ### The place of a nested error -/

/-- how many characters a message has before that of the error at the end of a way -/
def place (e : ClusterError) : List Nat → Nat
  | [] => 0
  | i :: way => match e.parts[i]? with
    | some part => e.lead i + part.place way
    | none => 0

lemma place_cons (held : e.parts[i]? = some part) :
    e.place (i :: way) = e.lead i + part.place way := by
  rw [place, held]

lemma place_concat (there : e.nested? way = some whole) (held : whole.parts[i]? = some part) :
    e.place (way ++ [i]) = e.place way + whole.lead i := by
  induction way generalizing e with
  | nil =>
    obtain rfl := Option.some.inj there
    rw [List.nil_append, place_cons held, place, place, Nat.zero_add, Nat.add_zero]
  | cons k way ih =>
    obtain ⟨between, first, there⟩ := nested?_cons_eq_some_iff.1 there
    rw [List.cons_append, place_cons first, place_cons first, ih there, Nat.add_assoc]

lemma standsAt_place (there : e.nested? way = some part) :
    StandsAt part.message e.message (e.place way) := by
  induction way generalizing e with
  | nil =>
    obtain rfl := Option.some.inj there
    exact .self _
  | cons i way ih =>
    obtain ⟨between, held, there⟩ := nested?_cons_eq_some_iff.1 there
    rw [place_cons held]
    exact (ih there).trans (standsAt_lead held)

/-- The first number in the message of a teardown is that of its failures, whatever follows. -/
lemma firstNumber?_teardown (failures : List ClusterError) (after : List Char) :
    firstNumber? ((teardown failures).message.toList ++ after) = some failures.length := by
  rw [message_teardown]
  simp only [String.toList_append, List.append_assoc]
  refine Text.firstNumber?_append _ (by decide) fun c first => ?_
  obtain rfl : ' ' = c := by simpa using first
  rfl

/-- **The places of the errors nested in an error**: one in its message for each of them, by the way
that leads there. -/
structure Placement (e : ClusterError) (place : List Nat → Nat) : Prop where
  /-- the message of a nested error is at its place -/
  shown : ∀ way part, e.nested? way = some part → StandsAt part.message e.message (place way)
  /-- within that of the error that holds it -/
  inside : ∀ way whole i part, e.nested? way = some whole → whole.parts[i]? = some part →
    place way ≤ place (way ++ [i]) ∧
      place (way ++ [i]) + part.message.length ≤ place way + whole.message.length
  /-- of two errors that one holds, the message of the first ends before that of the second -/
  ordered : ∀ way whole i first j second, e.nested? way = some whole →
    whole.parts[i]? = some first → whole.parts[j]? = some second → i < j →
    place (way ++ [i]) + first.message.length ≤ place (way ++ [j])
  /-- the first number from the place of a teardown on is the number of its failures -/
  counted : ∀ way failures, e.nested? way = some (teardown failures) →
    firstNumber? (e.message.toList.drop (place way)) = some failures.length

lemma placement_place (e : ClusterError) : e.Placement e.place where
  shown _ _ := standsAt_place
  inside way whole i part there held := by
    have room := (standsAt_lead held).room
    rw [place_concat there held]
    omega
  ordered way whole i first j second there held held' later := by
    rw [place_concat there held, place_concat there held', Nat.add_assoc]
    exact Nat.add_le_add_left (end_le_lead held later held') _
  counted way failures there := by
    obtain ⟨after, dropped⟩ := (standsAt_place there).drop
    rw [dropped, firstNumber?_teardown]

/-! ### The sources of an error -/

/-- what an error is caused by: another one, or a failure of the system, behind which there is
nothing -/
inductive Cause where
  | error (e : ClusterError)
  | io (failure : IoError)

namespace Cause

def message : Cause → String
  | error e => e.message
  | io failure => failure.message

def source? : Cause → Option Cause
  | error (.addWorker _ source) => some (error source)
  | error (.io failure) => some (io failure)
  | _ => none

/-- the source of the source and so on, so many times -/
def sourceAfter : Nat → Cause → Option Cause
  | 0, cause => some cause
  | n + 1, cause => cause.source?.bind (sourceAfter n)

variable {cause source : Cause}

/-- What the source says is in the message of what it is the source of. -/
lemma standsAt_of_source? (h : cause.source? = some source) :
    ∃ place, StandsAt source.message cause.message place := by
  match cause, h with
  | error (.addWorker worker source), rfl => exact ⟨_, .last _ _⟩
  | error (.io failure), rfl => exact ⟨_, .last _ _⟩

lemma standsAt_of_sourceAfter {n : Nat} (h : cause.sourceAfter n = some source) :
    ∃ place, StandsAt source.message cause.message place := by
  induction n generalizing cause with
  | zero =>
    obtain rfl := Option.some.inj h
    exact ⟨0, .self _⟩
  | succ n ih =>
    obtain ⟨between, first, others⟩ := Option.bind_eq_some_iff.1 h
    obtain ⟨inner, there⟩ := ih others
    obtain ⟨place, around⟩ := standsAt_of_source? first
    exact ⟨_, there.trans around⟩

end Cause

/-- the failure of the system that an error passes on -/
def systemFailure? : ClusterError → Option Cause
  | io failure => some (.io failure)
  | _ => none

/-- **The sources of an error**, which is the failed onboardings of some workers, one in the other,
around an error that is none -/
structure SourcesAlong (e : ClusterError) (workers : List String) (root : ClusterError) : Prop where
  spine : e = workers.foldr addWorker root
  bare : ∀ worker source, root ≠ addWorker worker source
  /-- a source is what is left as the onboardings are taken off from the outside -/
  inward : ∀ n ≤ workers.length,
    (Cause.error e).sourceAfter n = some (.error ((workers.drop n).foldr addWorker root))
  /-- the last one is the failure of the system, if that is what the innermost error passes on -/
  failure : (Cause.error e).sourceAfter (workers.length + 1) = root.systemFailure?
  ends : ∀ n, workers.length + 1 < n → (Cause.error e).sourceAfter n = none

/-- Past an error that is no onboarding there is a failure of the system at most. -/
lemma sourcesAlong_nil {root : ClusterError}
    (bare : ∀ worker source, root ≠ addWorker worker source) : root.SourcesAlong [] root where
  spine := rfl
  bare := bare
  inward n first := by
    obtain rfl := Nat.le_zero.1 first
    rfl
  failure := by
    cases root with
    | addWorker worker source => exact absurd rfl (bare worker source)
    | _ => rfl
  ends n later := by
    obtain ⟨n, rfl⟩ := Nat.exists_eq_add_of_le' later
    cases root with
    | addWorker worker source => exact absurd rfl (bare worker source)
    | _ => rfl

lemma SourcesAlong.cons {source root : ClusterError} {workers : List String}
    (h : source.SourcesAlong workers root) (worker : String) :
    (addWorker worker source).SourcesAlong (worker :: workers) root where
  spine := congrArg (addWorker worker) h.spine
  bare := h.bare
  inward n within := by
    cases n with
    | zero =>
      rw [h.spine]
      rfl
    | succ n => exact h.inward n (Nat.le_of_succ_le_succ within)
  failure := h.failure
  ends n later := by
    obtain ⟨n, rfl⟩ : ∃ n', n = n' + 1 := Nat.exists_eq_add_one_of_ne_zero (by omega)
    exact h.ends n (Nat.lt_of_succ_lt_succ later)

lemma exists_sourcesAlong (e : ClusterError) :
    ∃ workers root, e.SourcesAlong workers root := by
  fun_induction chain e with
  | case1 worker source ih =>
    obtain ⟨workers, root, along⟩ := ih
    exact ⟨worker :: workers, root, along.cons worker⟩
  | case2 failure => exact ⟨[], _, sourcesAlong_nil (by simp)⟩
  | case3 e bare => exact ⟨[], e, sourcesAlong_nil bare⟩

lemma getElem?_chain (e : ClusterError) (n : Nat) :
    e.chain[n]? = ((Cause.error e).sourceAfter (n + 1)).map Cause.message := by
  induction n generalizing e with
  | zero => cases e <;> rfl
  | succ n ih =>
    -- what is left of either goes on in the source, and only that of an onboarding goes on at all
    cases e with
    | addWorker worker source => exact ih source
    | _ => rfl

lemma standsAt_of_mem_chain {text : String} (among : text ∈ e.chain) :
    ∃ place, StandsAt text e.message place := by
  obtain ⟨n, there⟩ := List.mem_iff_getElem?.1 among
  rw [getElem?_chain, Option.map_eq_some_iff] at there
  obtain ⟨cause, reached, rfl⟩ := there
  exact Cause.standsAt_of_sourceAfter reached

/-- **No text of an error is lost by nesting.** The message of an error has a place for that of each
error nested in it, in their order and without overlapping, and tells the number of failures of each
teardown. Its sources are what is left of its onboardings as they are taken off, then a failure of
the system if there is one. The chain has the messages of the sources one by one, and whatever the
chain of a nested error has, a failure of the system included, is in the message as well. -/
theorem nothing_lost (e : ClusterError) :
    e.Placement e.place ∧
    (∃ workers root, e.SourcesAlong workers root) ∧
    (∀ n, e.chain[n]? = ((Cause.error e).sourceAfter (n + 1)).map Cause.message) ∧
    ∀ way part, e.nested? way = some part →
      ∀ text ∈ part.chain, ∃ place, StandsAt text e.message place := by
  refine ⟨placement_place e, exists_sourcesAlong e, getElem?_chain e,
    fun way part there text among => ?_⟩
  obtain ⟨place, last⟩ := standsAt_of_mem_chain among
  exact ⟨_, last.trans (standsAt_place there)⟩

/-- two teardowns, one in the other, that failed on the same node for the same reason -/
def repeatedFailure : ClusterError :=
  addWorker "W3" (teardown [cleanup "W1" "busy",
    addWorker "W2" (teardown [cleanup "W1" "busy", io .notFound]), cleanup "Lord" "locked"])

/-- The failure that is nested twice is shown twice, in two places; each teardown tells its own
number of failures, and the failure of the system in the inner one is no source of the whole. -/
theorem repeatedFailure_shown_twice :
    StandsAt (cleanup "W1" "busy").message repeatedFailure.message
      (repeatedFailure.place [0, 0]) ∧
    StandsAt (cleanup "W1" "busy").message repeatedFailure.message
      (repeatedFailure.place [0, 1, 0, 0]) ∧
    repeatedFailure.place [0, 0] + (cleanup "W1" "busy").message.length
      ≤ repeatedFailure.place [0, 1, 0, 0] ∧
    firstNumber? (repeatedFailure.message.toList.drop (repeatedFailure.place [0])) = some 3 ∧
    firstNumber? (repeatedFailure.message.toList.drop (repeatedFailure.place [0, 1, 0])) = some 2 ∧
    repeatedFailure.chain[1]? = none := by
  obtain ⟨placed, -, chain, -⟩ := nothing_lost repeatedFailure
  have next := placed.ordered [0] _ 0 _ 1 _ rfl rfl rfl Nat.zero_lt_one
  have inward := (placed.inside [0, 1] _ 0 _ rfl rfl).1
  have inmost := (placed.inside [0, 1, 0] _ 0 _ rfl rfl).1
  exact ⟨placed.shown [0, 0] _ rfl, placed.shown [0, 1, 0, 0] _ rfl,
    next.trans (inward.trans inmost), placed.counted [0] _ rfl, placed.counted [0, 1, 0] _ rfl,
    chain 1⟩

end ClusterError

end ShardCluster
