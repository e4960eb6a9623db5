/-!
# Suggestions for a misspelled word

A word that is not what it should be is compared with the words that could have
been meant.  Two words are *alike* by the number of letters that they share
from the beginning, where upper and lower case count as the same.  `closest`
goes through the candidates once and keeps the *leaders*: those that are most
like the target so far.  A candidate that shares nothing is never a leader, and
neither is the target itself, since it cannot be what was meant instead.
-/

namespace Netlist

/-- Whether two characters are equal when the case of ASCII letters is ignored. -/
def sameLetter (a b : Char) : Bool := a.toLower == b.toLower

/-- The number of characters that two texts share from the beginning. -/
def sharedLength : List Char → List Char → Nat
  | a :: as, b :: bs => if sameLetter a b then sharedLength as bs + 1 else 0
  | _, _ => 0

/-- How alike two words are: the number of letters that they share from the beginning. -/
def likeness (a b : String) : Nat := sharedLength a.toList b.toList

/-- The candidates most like a target so far. -/
structure Leaders where
  /-- How alike each of them is to the target. -/
  score : Nat
  /-- The candidates, in the order in which they came. -/
  words : List String

namespace Leaders

/-- Before any candidate there is no leader. -/
def none : Leaders := ⟨0, []⟩

/-- The leaders after one more candidate. -/
def consider (target : String) (leaders : Leaders) (candidate : String) : Leaders :=
  let score := likeness target candidate
  if candidate = target ∨ score = 0 ∨ score < leaders.score then
    leaders
  else if leaders.score < score then
    ⟨score, [candidate]⟩
  else
    ⟨leaders.score, leaders.words ++ [candidate]⟩

end Leaders

/-- The candidates most like the target, in their order and as often as they occur. -/
def closest (target : String) (candidates : List String) : List String :=
  (candidates.foldl (Leaders.consider target) Leaders.none).words

theorem Leaders.mem_consider {target candidate word : String} {leaders : Leaders}
    (leads : word ∈ (leaders.consider target candidate).words) :
    word ∈ leaders.words ∨ word = candidate := by
  simp only [consider] at leads
  split at leads
  · exact .inl leads
  split at leads
  · exact .inr (List.mem_singleton.1 leads)
  · rcases List.mem_append.1 leads with earlier | last
    · exact .inl earlier
    · exact .inr (List.mem_singleton.1 last)

theorem Leaders.mem_foldl_consider {target word : String} {candidates : List String}
    {leaders : Leaders} (leads : word ∈ (candidates.foldl (consider target) leaders).words) :
    word ∈ leaders.words ∨ word ∈ candidates := by
  induction candidates generalizing leaders with
  | nil => exact .inl leads
  | cons candidate rest ih =>
    rcases ih leads with earlier | later
    · exact (mem_consider earlier).imp_right fun same => by simp [same]
    · exact .inr (List.mem_cons_of_mem _ later)

/-- Only candidates are suggested. -/
theorem mem_of_mem_closest {target word : String} {candidates : List String}
    (suggested : word ∈ closest target candidates) : word ∈ candidates :=
  (Leaders.mem_foldl_consider suggested).resolve_left List.not_mem_nil

@[simp] theorem closest_nil (target : String) : closest target [] = [] := rfl

example : closest "DX" ["DEVICE", "DTYPE", "CONNECT"] = ["DEVICE", "DTYPE"] := by decide

example : closest "device" ["DTYPE", "DEVICE"] = ["DEVICE"] := by decide

example : closest "DEVICE" ["DEVICE"] = [] := by decide

end Netlist
