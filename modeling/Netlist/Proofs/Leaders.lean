import Mathlib.Order.Bounds.Basic
import Netlist.NameTable

/-!
# The closest words are the best ones

`closest` goes through the candidates once.  It keeps the highest score so far
and the candidates that have it, and begins their list anew when a candidate
scores higher.  In the end the list is what two passes would find: one for the
highest score, and one for the candidates that have it (`closest_keeps_the_best`).

What the loop keeps is said by `Leaders.Lead`.  No candidate so far has a higher
score than the leaders, some candidate has theirs unless it is zero, and the
leaders are all candidates that have it.  One more candidate leaves the leaders
as they are, replaces them or joins them, and each of the three keeps this
(`Leaders.Lead.consider`).  The target itself and words that share nothing with
it are candidates that never lead.

The score is likeness, the length of the longest beginning that two words share
(`isGreatest_likeness`).
-/

namespace Netlist

/-! ## Likeness -/

/-- Both words begin with these letters, if the case of ASCII letters is ignored. -/
def BothBegin (a b : String) (letters : List Char) : Prop :=
  letters <+: a.toList.map Char.toLower ∧ letters <+: b.toList.map Char.toLower

theorem exists_length_eq_sharedLength (as bs : List Char) :
    ∃ letters : List Char, letters <+: as.map Char.toLower ∧ letters <+: bs.map Char.toLower ∧
      letters.length = sharedLength as bs := by
  fun_induction sharedLength as bs with
  | case1 a as b bs same ih =>
    obtain ⟨letters, first, second, length⟩ := ih
    have alike : a.toLower = b.toLower := beq_iff_eq.1 same
    refine ⟨a.toLower :: letters, ?_, ?_, congrArg (· + 1) length⟩
    · exact List.cons_prefix_cons.2 ⟨rfl, first⟩
    · exact List.cons_prefix_cons.2 ⟨alike, second⟩
  | case2 a as b bs other => exact ⟨[], List.nil_prefix, List.nil_prefix, rfl⟩
  | case3 as bs ended => exact ⟨[], List.nil_prefix, List.nil_prefix, rfl⟩

theorem length_le_sharedLength {letters as bs : List Char} (first : letters <+: as.map Char.toLower)
    (second : letters <+: bs.map Char.toLower) : letters.length ≤ sharedLength as bs := by
  induction letters generalizing as bs with
  | nil => exact Nat.zero_le _
  | cons letter letters ih =>
    cases as with
    | nil => exact nomatch List.prefix_nil.1 first
    | cons a as =>
      cases bs with
      | nil => exact nomatch List.prefix_nil.1 second
      | cons b bs =>
        obtain ⟨here, first⟩ := List.cons_prefix_cons.1 first
        obtain ⟨there, second⟩ := List.cons_prefix_cons.1 second
        have same : sameLetter a b = true := beq_iff_eq.2 (here.symm.trans there)
        rw [sharedLength, if_pos same]
        exact Nat.succ_le_succ (ih first second)

/-- How alike two words are is the length of the longest beginning that they share. -/
theorem isGreatest_likeness (a b : String) :
    IsGreatest {n | ∃ letters, BothBegin a b letters ∧ letters.length = n} (likeness a b) := by
  constructor
  · obtain ⟨letters, first, second, length⟩ := exists_length_eq_sharedLength a.toList b.toList
    exact ⟨letters, ⟨first, second⟩, length⟩
  · rintro n ⟨letters, ⟨first, second⟩, rfl⟩
    exact length_le_sharedLength first second

/-! ## Leading -/

/-- A word is as good a suggestion as any of the candidates: it is not the target itself, it shares
something with the target, and no other candidate but the target shares more. -/
def IsBest (target : String) (candidates : List String) (word : String) : Prop :=
  word ≠ target ∧ 0 < likeness target word ∧
    ∀ other ∈ candidates, other ≠ target → likeness target other ≤ likeness target word

instance (target : String) (candidates : List String) :
    DecidablePred (IsBest target candidates) :=
  fun _ => inferInstanceAs (Decidable (_ ∧ _ ∧ _))

/-- A word that could be suggested has this score. -/
def HasScore (target : String) (score : Nat) (word : String) : Prop :=
  word ≠ target ∧ 0 < likeness target word ∧ likeness target word = score

instance (target : String) (score : Nat) : DecidablePred (HasScore target score) :=
  fun _ => inferInstanceAs (Decidable (_ ∧ _ ∧ _))

namespace Leaders

/-- These are the leaders among some candidates. -/
structure Lead (target : String) (seen : List String) (leaders : Leaders) : Prop where
  /-- No candidate but the target scores higher. -/
  bound : ∀ word ∈ seen, word ≠ target → likeness target word ≤ leaders.score
  /-- A candidate has the score, unless it is zero. -/
  attained : 0 < leaders.score →
    ∃ word ∈ seen, word ≠ target ∧ likeness target word = leaders.score
  /-- The leaders are the candidates with the score, unless it is zero. -/
  words : leaders.words = seen.filter (HasScore target leaders.score)

variable {target : String} {seen : List String} {leaders : Leaders}

theorem lead_none (target : String) : Lead target [] none where
  bound := nofun
  attained := nofun
  words := rfl

/-- A candidate that cannot lead changes nothing. -/
theorem Lead.pass (lead : Lead target seen leaders) {candidate : String}
    (behind : candidate = target ∨ likeness target candidate = 0 ∨
      likeness target candidate < leaders.score) : Lead target (seen ++ [candidate]) leaders where
  bound := by
    intro word among other
    rcases List.mem_append.1 among with earlier | last
    · exact lead.bound word earlier other
    · obtain rfl := List.mem_singleton.1 last
      rcases behind with same | nothing | less
      · exact absurd same other
      · exact nothing ▸ Nat.zero_le _
      · exact Nat.le_of_lt less
  attained := by
    intro positive
    obtain ⟨word, among, has⟩ := lead.attained positive
    exact ⟨word, List.mem_append_left _ among, has⟩
  words := by
    have out : ¬HasScore target leaders.score candidate := by
      rintro ⟨other, positive, level⟩
      rcases behind with same | nothing | less
      · exact other same
      · exact Nat.ne_of_gt positive nothing
      · exact Nat.ne_of_lt less level
    simp [lead.words, List.filter_append, out]

/-- A candidate that scores higher leads alone. -/
theorem Lead.overtake (lead : Lead target seen leaders) {candidate : String}
    (other : candidate ≠ target) (higher : leaders.score < likeness target candidate) :
    Lead target (seen ++ [candidate]) ⟨likeness target candidate, [candidate]⟩ where
  bound := by
    intro word among rival
    rcases List.mem_append.1 among with earlier | last
    · exact Nat.le_of_lt (Nat.lt_of_le_of_lt (lead.bound word earlier rival) higher)
    · rw [List.mem_singleton.1 last]
  attained := fun _ => ⟨candidate, List.mem_append_right _ (.head _), other, rfl⟩
  words := by
    have none : seen.filter (HasScore target (likeness target candidate)) = [] := by
      refine List.filter_eq_nil_iff.2 fun word among holds => ?_
      obtain ⟨rival, -, level⟩ := of_decide_eq_true holds
      have below := lead.bound word among rival
      omega
    have leads : HasScore target (likeness target candidate) candidate := ⟨other, by omega, rfl⟩
    simp [List.filter_append, none, leads]

/-- A candidate with the same score leads as well. -/
theorem Lead.join (lead : Lead target seen leaders) {candidate : String}
    (other : candidate ≠ target) (positive : 0 < likeness target candidate)
    (level : likeness target candidate = leaders.score) :
    Lead target (seen ++ [candidate]) ⟨leaders.score, leaders.words ++ [candidate]⟩ where
  bound := by
    intro word among rival
    rcases List.mem_append.1 among with earlier | last
    · exact lead.bound word earlier rival
    · rw [List.mem_singleton.1 last, level]
  attained := fun _ => ⟨candidate, List.mem_append_right _ (.head _), other, level⟩
  words := by
    have leads : HasScore target leaders.score candidate := ⟨other, positive, level⟩
    simp [lead.words, List.filter_append, leads]

/-- One more candidate. -/
theorem Lead.consider (lead : Lead target seen leaders) (candidate : String) :
    Lead target (seen ++ [candidate]) (leaders.consider target candidate) := by
  simp only [Leaders.consider]
  split
  · rename_i behind
    exact lead.pass behind
  · rename_i ahead
    obtain ⟨other, shares, reaches⟩ := not_or.1 ahead |>.imp_right not_or.1
    split
    · rename_i higher
      exact lead.overtake other higher
    · rename_i highest
      exact lead.join other (Nat.pos_of_ne_zero shares) (by omega)

/-- All candidates. -/
theorem Lead.foldl (lead : Lead target seen leaders) (candidates : List String) :
    Lead target (seen ++ candidates) (candidates.foldl (Leaders.consider target) leaders) := by
  induction candidates generalizing seen leaders with
  | nil => rwa [List.append_nil]
  | cons candidate rest ih =>
    rw [List.append_cons]
    exact ih (lead.consider candidate)

/-- Leaders are the best of the candidates. -/
theorem Lead.words_eq (lead : Lead target seen leaders) :
    leaders.words = seen.filter (IsBest target seen) := by
  rw [lead.words]
  refine List.filter_congr fun word among => decide_eq_decide.2 ?_
  constructor
  · rintro ⟨other, positive, level⟩
    exact ⟨other, positive, fun rival found apart => level ▸ lead.bound rival found apart⟩
  · rintro ⟨other, positive, best⟩
    have below := lead.bound word among other
    obtain ⟨leader, found, apart, has⟩ := lead.attained (Nat.lt_of_lt_of_le positive below)
    have above := best leader found apart
    exact ⟨other, positive, by omega⟩

end Leaders

theorem closest_eq_filter (target : String) (candidates : List String) :
    closest target candidates = candidates.filter (IsBest target candidates) :=
  ((Leaders.lead_none target).foldl candidates).words_eq

/-- The words closest to a target are exactly the best of the candidates, in their order and as
often as they occur, where the score is the length of the longest beginning that a candidate shares
with the target.  A name table answers with the best of its names in the order of their ids. -/
theorem closest_keeps_the_best (target : String) :
    (∀ word, IsGreatest {n | ∃ letters, BothBegin target word letters ∧ letters.length = n}
      (likeness target word)) ∧
    (∀ candidates, closest target candidates = candidates.filter (IsBest target candidates)) ∧
    ∀ names : NameTable,
      names.closest target = (names.rows.map Prod.snd).filter
        (IsBest target (names.rows.map Prod.snd)) := by
  refine ⟨isGreatest_likeness target, closest_eq_filter target, fun names => ?_⟩
  have order : names.rows.map Prod.snd = names.toList := by
    rw [NameTable.rows, List.map_map]
    exact List.zipIdx_map_fst 0 names.toList
  rw [order]
  exact closest_eq_filter target names.toList

end Netlist
