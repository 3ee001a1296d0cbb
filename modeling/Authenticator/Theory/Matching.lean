/-
# Theory.Matching -- every spending entry of a log has an offer of its own

A log is a list of entries, some of which spend a key and some of which offer one.
`Matched` says that the spending entries can be assigned, injectively, to earlier
entries that offer their keys; with a key pending, one more offer of that key is still
unassigned.  The log grows at the end by quiet entries, by offers and by spending what
is pending.
-/
import Mathlib.Data.Set.Function

namespace Authenticator.Theory

set_option autoImplicit false

universe u v

variable {α : Type u} {κ : Type v} (spends : α → Option κ) (offers : α → κ → Prop)

/-- The positions that spend. -/
def Spending (log : List α) : Set Nat := { i | ∃ x ∈ log[i]?, (spends x).isSome = true }

/-- An assignment of the spending entries to earlier offers of their keys. -/
structure Assigned (log : List α) (f : Nat → Nat) : Prop where
  backed : ∀ i x k, log[i]? = some x → spends x = some k →
    f i < i ∧ ∃ y, log[f i]? = some y ∧ offers y k
  injective : Set.InjOn f (Spending spends log)

/-- The log is assigned, and an offer of the pending key is left. -/
def Matched (log : List α) (pending : Option κ) : Prop :=
  ∃ f, Assigned spends offers log f ∧
    ∀ k, pending = some k → ∃ j y, log[j]? = some y ∧ offers y k ∧
      ∀ i ∈ Spending spends log, f i ≠ j

theorem getElem?_snoc {log : List α} {x y : α} {i : Nat} :
    (log ++ [x])[i]? = some y ↔ log[i]? = some y ∨ i = log.length ∧ x = y := by
  rcases Nat.lt_trichotomy i log.length with inside | here | past
  · rw [List.getElem?_append_left inside]
    constructor
    · exact Or.inl
    · rintro (found | ⟨rfl, -⟩)
      · exact found
      · omega
  · subst here
    simp
  · have outside : log[i]? = none := List.getElem?_eq_none (by omega)
    rw [List.getElem?_append_right (by omega), outside]
    obtain ⟨k, gap⟩ : ∃ k, i - log.length = k + 1 := ⟨i - log.length - 1, by omega⟩
    simp only [gap, List.getElem?_cons_succ, List.getElem?_nil, reduceCtorEq, false_or, false_iff]
    omega

variable {spends offers}

theorem spending_snoc {log : List α} {x : α} {i : Nat} (member : i ∈ Spending spends (log ++ [x])) :
    i ∈ Spending spends log ∨ i = log.length ∧ (spends x).isSome = true := by
  obtain ⟨y, found, spent⟩ := member
  rcases getElem?_snoc.mp found with old | ⟨here, rfl⟩
  · exact Or.inl ⟨y, old, spent⟩
  · exact Or.inr ⟨here, spent⟩

theorem lt_of_spending {log : List α} {i : Nat} (member : i ∈ Spending spends log) :
    i < log.length := by
  obtain ⟨x, found, -⟩ := member
  exact (List.getElem?_eq_some_iff.mp found).1

namespace Matched

variable {log : List α} {pending : Option κ}

theorem nil : Matched spends offers [] none := by
  refine ⟨id, ⟨?_, ?_⟩, ?_⟩
  · intro i x k found
    cases found
  · rintro i ⟨x, found, -⟩
    cases found
  · intro k waiting
    cases waiting

theorem drop (matched : Matched spends offers log pending) : Matched spends offers log none := by
  obtain ⟨f, assigned, -⟩ := matched
  refine ⟨f, assigned, ?_⟩
  intro k waiting
  cases waiting

/-- An assignment outlives an entry that spends nothing. -/
theorem assigned_quiet {f : Nat → Nat} {x : α} (assigned : Assigned spends offers log f)
    (quiet : spends x = none) : Assigned spends offers (log ++ [x]) f := by
  constructor
  · intro i y k found spent
    rcases getElem?_snoc.mp found with old | ⟨-, rfl⟩
    · obtain ⟨earlier, z, held, offered⟩ := assigned.backed i y k old spent
      exact ⟨earlier, z, getElem?_snoc.mpr (Or.inl held), offered⟩
    · rw [quiet] at spent
      cases spent
  · apply assigned.injective.mono
    intro i member
    rcases spending_snoc member with old | ⟨-, spent⟩
    · exact old
    · rw [quiet] at spent
      cases spent

theorem quiet (matched : Matched spends offers log pending) {x : α} (quiet : spends x = none) :
    Matched spends offers (log ++ [x]) pending := by
  obtain ⟨f, assigned, spare⟩ := matched
  refine ⟨f, assigned_quiet assigned quiet, ?_⟩
  intro k waiting
  obtain ⟨j, y, found, offered, free⟩ := spare k waiting
  refine ⟨j, y, getElem?_snoc.mpr (Or.inl found), offered, ?_⟩
  intro i member
  rcases spending_snoc member with old | ⟨-, spent⟩
  · exact free i old
  · rw [quiet] at spent
    cases spent

theorem quiets {xs : List α} (matched : Matched spends offers log pending)
    (silent : ∀ x ∈ xs, spends x = none) : Matched spends offers (log ++ xs) pending := by
  induction xs generalizing log with
  | nil => simpa using matched
  | cons x rest ih =>
      have one := matched.quiet (silent x List.mem_cons_self)
      have all := ih one fun y member => silent y (List.mem_cons_of_mem _ member)
      simpa using all

/-- A new offer is unassigned: every assigned position is older. -/
theorem offer (matched : Matched spends offers log pending) {x : α} {k : κ}
    (quiet : spends x = none) (offered : offers x k) :
    Matched spends offers (log ++ [x]) (some k) := by
  obtain ⟨f, assigned, -⟩ := matched
  refine ⟨f, assigned_quiet assigned quiet, ?_⟩
  rintro k' ⟨⟩
  refine ⟨log.length, x, getElem?_snoc.mpr (Or.inr ⟨rfl, rfl⟩), offered, ?_⟩
  intro i member same
  rcases spending_snoc member with old | ⟨-, spent⟩
  · have inside := lt_of_spending old
    obtain ⟨y, found, spent⟩ := old
    obtain ⟨k', known⟩ := Option.isSome_iff_exists.mp spent
    have earlier := (assigned.backed i y k' found known).1
    omega
  · rw [quiet] at spent
    cases spent

/-- Spending the pending key takes the offer that was left. -/
theorem spend {k : κ} (matched : Matched spends offers log (some k)) {x : α}
    (spent : spends x = some k) : Matched spends offers (log ++ [x]) none := by
  obtain ⟨f, assigned, spare⟩ := matched
  obtain ⟨j, y, found, offered, free⟩ := spare k rfl
  have inside : j < log.length := (List.getElem?_eq_some_iff.mp found).1
  have kept : ∀ i ∈ Spending spends log, Function.update f log.length j i = f i := by
    intro i member
    have old := lt_of_spending member
    exact Function.update_of_ne (by omega) _ _
  refine ⟨Function.update f log.length j, ⟨?_, ?_⟩, ?_⟩
  · intro i z k' held spent'
    rcases getElem?_snoc.mp held with old | ⟨rfl, rfl⟩
    · rw [kept i ⟨z, old, by rw [spent']; rfl⟩]
      obtain ⟨earlier, u, at_, gives⟩ := assigned.backed i z k' old spent'
      exact ⟨earlier, u, getElem?_snoc.mpr (Or.inl at_), gives⟩
    · rw [Function.update_self]
      rw [spent] at spent'
      cases spent'
      exact ⟨inside, y, getElem?_snoc.mpr (Or.inl found), offered⟩
  · intro i first i' second same
    rcases spending_snoc first with old | ⟨rfl, -⟩ <;>
      rcases spending_snoc second with old' | ⟨rfl, -⟩
    · rw [kept i old, kept i' old'] at same
      exact assigned.injective old old' same
    · rw [kept i old, Function.update_self] at same
      exact absurd same (free i old)
    · rw [kept i' old', Function.update_self] at same
      exact absurd same.symm (free i' old')
    · rfl
  · intro k' waiting
    cases waiting

end Matched

end Authenticator.Theory
