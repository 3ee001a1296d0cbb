/-
# Theory.Lag -- answers that come in the order of the questions

A peer answers every question once and in order; what it answers may depend on all it was
asked so far.  Somebody who gives up waiting for an answer does not take it back: it comes
before the next one.  `Behind` says how far: so many answers were read, and the ones that are
owed are those to the questions after these.

The next answer that is read is the one to the question `read` (`Behind.read`), so whoever
gave up so often reads answers to questions that long ago.
-/
import Mathlib.Data.List.Basic

namespace Authenticator.Theory

set_option autoImplicit false

universe u v

/-- After the questions `asked`, `read` answers were read, and these are owed. -/
structure Behind {α : Type u} {β : Type v} (answer : List α → β) (asked : List α) (read : Nat)
    (owed : List β) : Prop where
  total : read + owed.length = asked.length
  nth : ∀ (j : Nat) (inside : j < owed.length), owed[j] = answer (asked.take (read + j + 1))

namespace Behind

variable {α : Type u} {β : Type v} {answer : List α → β} {asked : List α} {read : Nat}
variable {owed : List β} {b : β}

theorem nil (answer : List α → β) : Behind answer [] 0 [] where
  total := rfl
  nth _ inside := absurd inside (Nat.not_lt_zero _)

/-- A question that is asked is answered last. -/
theorem ask (behind : Behind answer asked read owed) (question : α) :
    Behind answer (asked ++ [question]) read (owed ++ [answer (asked ++ [question])]) := by
  obtain ⟨total, nth⟩ := behind
  refine ⟨by simp only [List.length_append, List.length_singleton]; omega, ?_⟩
  intro j inside
  rw [List.length_append, List.length_singleton] at inside
  by_cases before : j < owed.length
  · rw [List.getElem_append_left before, nth j before, List.take_append_of_le_length (by omega)]
  · have last : j = owed.length := by omega
    subst last
    have whole : (asked ++ [question]).length ≤ read + owed.length + 1 := by
      rw [List.length_append, List.length_singleton]
      omega
    rw [List.getElem_concat_length rfl, List.take_of_length_le whole]

/-- **The answer that is read next** is the one to the question number `read`. -/
theorem read_next (behind : Behind answer asked read (b :: owed)) :
    b = answer (asked.take (read + 1)) ∧ Behind answer asked (read + 1) owed := by
  obtain ⟨total, nth⟩ := behind
  refine ⟨nth 0 (Nat.zero_lt_succ _), ?_, ?_⟩
  · rw [List.length_cons] at total
    omega
  · intro j inside
    have later := nth (j + 1) (Nat.succ_lt_succ inside)
    rw [List.getElem_cons_succ] at later
    rw [later]
    congr 2
    omega

end Behind

end Authenticator.Theory
