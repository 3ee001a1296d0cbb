/-
# Theory.Since -- what happened last, over histories

A history is a list of moments, oldest first.  A property of a moment may depend on all
that came before it, so it is a relation between a history and the moment that follows.
`Since P Q` says that `P` happened at some moment and `Q` at none after it; `Never P` that
`P` happened at no moment.

`since_concat` and `never_concat` unfold both at the last moment, so that an invariant
stated with them is proved by induction on the history.

Where moments have keys and some of them open a new period of their key, `periods` numbers
the periods, and `periods_agree_iff` says when every key has stayed in one.
-/
import Mathlib.Data.List.Infix

namespace Authenticator.Theory

set_option autoImplicit false

universe u

variable {ι : Type u} {P Q : List ι → ι → Prop} {history : List ι} {x : ι}

/-- `P` happened, and `Q` has not happened since. -/
def Since (P Q : List ι → ι → Prop) (history : List ι) : Prop :=
  ∃ before x later, history = before ++ x :: later ∧ P before x ∧
    ∀ between y, between ++ [y] <+: later → ¬ Q (before ++ x :: between) y

/-- `P` happened at no moment. -/
def Never (P : List ι → ι → Prop) (history : List ι) : Prop :=
  ∀ before x, before ++ [x] <+: history → ¬ P before x

theorem concat_prefix_concat {before : List ι} {y : ι} :
    before ++ [y] <+: history ++ [x] ↔ (before = history ∧ y = x) ∨ before ++ [y] <+: history := by
  rw [List.prefix_concat_iff]
  refine or_congr_left ?_
  constructor
  · intro whole
    obtain ⟨front, last⟩ := List.append_inj' whole rfl
    exact ⟨front, List.singleton_inj.mp last⟩
  · rintro ⟨rfl, rfl⟩
    rfl

/-- A moment of a history is its last, or one of the rest. -/
theorem concat_eq_append_cons {before later : List ι} {y : ι} :
    history ++ [x] = before ++ y :: later ↔
      (before = history ∧ y = x ∧ later = []) ∨
        ∃ earlier, later = earlier ++ [x] ∧ history = before ++ y :: earlier := by
  constructor
  · intro split
    rcases List.eq_nil_or_concat' later with rfl | ⟨earlier, z, rfl⟩
    · obtain ⟨rfl, last⟩ := List.append_inj' split rfl
      exact Or.inl ⟨rfl, (List.singleton_inj.mp last).symm, rfl⟩
    · rw [← List.cons_append, ← List.append_assoc] at split
      obtain ⟨rfl, last⟩ := List.append_inj' split rfl
      rw [List.singleton_inj.mp last]
      exact Or.inr ⟨earlier, rfl, rfl⟩
  · rintro (⟨rfl, rfl, rfl⟩ | ⟨earlier, rfl, rfl⟩)
    · rfl
    · simp

/-- The last moment is a `P`, or no `Q` and the rest stands. -/
theorem since_concat :
    Since P Q (history ++ [x]) ↔ P history x ∨ (Since P Q history ∧ ¬ Q history x) := by
  constructor
  · rintro ⟨before, y, later, split, holds, calm⟩
    rcases concat_eq_append_cons.mp split with ⟨rfl, rfl, rfl⟩ | ⟨earlier, rfl, rfl⟩
    · exact Or.inl holds
    · refine Or.inr ⟨⟨before, y, earlier, rfl, holds, ?_⟩, calm earlier x (List.prefix_refl _)⟩
      intro between next within
      exact calm between next (within.trans (List.prefix_append _ _))
  · rintro (holds | ⟨⟨before, y, later, rfl, holds, calm⟩, quiet⟩)
    · refine ⟨history, x, [], rfl, holds, ?_⟩
      intro between y within
      exact absurd (List.prefix_nil.mp within) (by simp)
    · refine ⟨before, y, later ++ [x], by simp, holds, ?_⟩
      intro between next within
      rcases concat_prefix_concat.mp within with ⟨rfl, rfl⟩ | earlier
      · exact quiet
      · exact calm between next earlier

theorem never_nil : Never P [] := by
  intro before x within
  exact absurd (List.prefix_nil.mp within) (by simp)

theorem never_concat : Never P (history ++ [x]) ↔ Never P history ∧ ¬ P history x := by
  constructor
  · intro never
    refine ⟨?_, never history x (List.prefix_refl _)⟩
    intro before y within
    exact never before y (within.trans (List.prefix_append _ _))
  · rintro ⟨never, quiet⟩ before y within
    rcases concat_prefix_concat.mp within with ⟨rfl, rfl⟩ | earlier
    · exact quiet
    · exact never before y earlier

/-! ## Periods -/

section Periods

universe v

variable {κ : Type v} [DecidableEq κ] (key : ι → κ) (opens : ι → Bool)

/-- How many periods of `k` a history has opened. -/
def periods (k : κ) (history : List ι) : Nat := history.countP fun x => key x = k && opens x

theorem periods_append (k : κ) (first second : List ι) :
    periods key opens k (first ++ second) = periods key opens k first + periods key opens k second :=
  List.countP_append

/-- What follows a moment of a key opens no period of it, if none is opened again. -/
theorem periods_later (once : Never (fun before x => opens x = true ∧ ∃ y ∈ before, key y = key x)
    history) {before later : List ι} {y : ι} (within : before ++ [y] ++ later <+: history) :
    periods key opens (key y) later = 0 := by
  refine List.countP_eq_zero.mpr fun z member => ?_
  simp only [Bool.and_eq_true, decide_eq_true_eq, not_and]
  intro same opening
  obtain ⟨first, second, rfl⟩ := List.append_of_mem member
  refine once (before ++ [y] ++ first) z ?_ ⟨opening, y, by simp, same.symm⟩
  refine List.IsPrefix.trans ⟨second, ?_⟩ within
  simp

/-- **Every key stays in one period exactly when no period is opened for a key that was there
before.** -/
theorem periods_agree_iff :
    (∀ before x before' y, before ++ [x] <+: history → before' ++ [y] <+: history → key x = key y →
      periods key opens (key x) (before ++ [x]) = periods key opens (key y) (before' ++ [y])) ↔
      Never (fun before x => opens x = true ∧ ∃ y ∈ before, key y = key x) history := by
  constructor
  · rintro agree before x within ⟨opening, y, member, same⟩
    obtain ⟨first, second, rfl⟩ := List.append_of_mem member
    have earlier : first ++ [y] <+: history := by
      refine List.IsPrefix.trans ⟨second ++ [x], ?_⟩ within
      simp
    have equal := agree (first ++ y :: second) x first y within earlier same.symm
    have split : first ++ y :: second ++ [x] = first ++ [y] ++ second ++ [x] := by simp
    have counted : periods key opens (key x) [x] = 1 := by simp [periods, opening]
    rw [split, periods_append, periods_append, counted, same] at equal
    omega
  · intro once before x before' y first second same
    have later : ∀ {b c : List ι} {u v : ι}, c ++ [v] <+: history → b ++ [u] <+: c ++ [v] →
        key u = key v →
        periods key opens (key u) (b ++ [u]) = periods key opens (key v) (c ++ [v]) := by
      rintro b c u v whole ⟨rest, split⟩ same
      rw [← split] at whole
      rw [← split, ← same, periods_append key opens _ (b ++ [u]) rest,
        periods_later key opens once whole, Nat.add_zero]
    rcases List.prefix_or_prefix_of_prefix first second with shorter | longer
    · exact later second shorter same
    · exact (later first longer same.symm).symm

end Periods

end Authenticator.Theory
