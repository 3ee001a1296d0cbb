/-
# Theory.Alternation -- words that alternate between opening and closing

A word over an alphabet in which some letters open and the others close.  `meter` reads
it with one bit of memory, whether something is open, and is stuck where two letters of
one kind follow each other.  `Alternates` is what a reader asks of the whole word:
openings stand at even places and closings at odd ones.

A word that `meter` reads from closed alternates (`alternates_of_meter`), is open at its
end exactly when its last letter opens (`meter_getLast?`), and holds one opening more than
closings then and as many otherwise (`meter_count`).
-/
import Mathlib.Data.List.Basic

namespace Authenticator.Theory

set_option autoImplicit false

universe u

variable {α : Type u} (opens : α → Bool)

/-- What is open after a word, if no letter of it comes out of turn. -/
def meter : Bool → List α → Option Bool
  | isOpen, [] => some isOpen
  | isOpen, letter :: rest => if opens letter = isOpen then none else meter (opens letter) rest

/-- Openings at the even places, closings at the odd ones. -/
def Alternates (word : List α) : Prop :=
  ∀ (i : Nat) (letter : α), word[i]? = some letter → (opens letter = true ↔ i % 2 = 0)

@[simp] theorem meter_nil (isOpen : Bool) : meter opens isOpen [] = some isOpen := rfl

theorem meter_append (isOpen : Bool) (first second : List α) :
    meter opens isOpen (first ++ second) =
      (meter opens isOpen first).bind fun between => meter opens between second := by
  induction first generalizing isOpen with
  | nil => rfl
  | cons letter rest ih =>
      simp only [List.cons_append, meter]
      split
      · rfl
      · exact ih _

variable {opens}

theorem meter_cons_eq_some {isOpen last : Bool} {letter : α} {rest : List α}
    (read : meter opens isOpen (letter :: rest) = some last) :
    opens letter = !isOpen ∧ meter opens (!isOpen) rest = some last := by
  unfold meter at read
  split at read
  · cases read
  · rename_i turn
    have flipped : opens letter = !isOpen := by
      cases here : opens letter <;> cases isOpen <;> simp_all
    rw [flipped] at read
    exact ⟨flipped, read⟩

/-- The letter at place `i` is the one whose turn it is. -/
theorem meter_getElem? {isOpen last : Bool} {word : List α}
    (read : meter opens isOpen word = some last) {i : Nat} {letter : α}
    (here : word[i]? = some letter) : opens letter = (isOpen ^^ decide (i % 2 = 0)) := by
  induction word generalizing isOpen i with
  | nil => cases here
  | cons first rest ih =>
      obtain ⟨turn, later⟩ := meter_cons_eq_some read
      cases i with
      | zero =>
          cases here
          simpa using turn
      | succ i =>
          rw [ih later here]
          have parity : (decide ((i + 1) % 2 = 0)) = !(decide (i % 2 = 0)) := by
            rcases Nat.mod_two_eq_zero_or_one i with even | odd
            · simp [Nat.add_mod, even]
            · simp [Nat.add_mod, odd]
          rw [parity]
          cases isOpen <;> simp

theorem alternates_of_meter {last : Bool} {word : List α}
    (read : meter opens false word = some last) : Alternates opens word := by
  intro i letter here
  simp [meter_getElem? read here]

/-- Something is open at the end exactly when the last letter opens. -/
theorem meter_getLast? {last : Bool} {word : List α} (read : meter opens false word = some last) :
    (∃ letter, word.getLast? = some letter ∧ opens letter = true) ↔ last = true := by
  rcases List.eq_nil_or_concat' word with rfl | ⟨before, letter, rfl⟩
  · simp only [meter_nil, Option.some.injEq] at read
    simp [← read]
  · rw [meter_append, Option.bind_eq_some_iff] at read
    obtain ⟨between, -, final⟩ := read
    obtain ⟨turn, same⟩ := meter_cons_eq_some final
    simp only [meter_nil, Option.some.injEq] at same
    simp [turn, same]

theorem meter_count {isOpen last : Bool} {word : List α}
    (read : meter opens isOpen word = some last) :
    word.countP opens + isOpen.toNat = word.countP (fun letter => !opens letter) + last.toNat := by
  induction word generalizing isOpen with
  | nil =>
      simp only [meter_nil, Option.some.injEq] at read
      simp [read]
  | cons letter rest ih =>
      obtain ⟨turn, later⟩ := meter_cons_eq_some read
      have counted := ih later
      rw [List.countP_cons, List.countP_cons, turn]
      cases isOpen with
      | true =>
          simp only [Bool.not_true, Bool.toNat_true, Bool.toNat_false] at counted ⊢
          simp only [Bool.false_eq_true, if_false, Bool.not_false, if_true]
          omega
      | false =>
          simp only [Bool.not_false, Bool.toNat_true, Bool.toNat_false] at counted ⊢
          simp only [Bool.not_true, Bool.false_eq_true, if_false, if_true]
          omega

end Authenticator.Theory
