/-
# Theory.SeparatedList -- a set of words kept in one separated text

A text is read as the non-empty pieces between separators and written by joining
words with the separator.  Reading back what was written is exact for clean words
(non-empty, free of the separator), and the pieces of any text are clean, so a
reader that drops pieces or adds clean ones writes back exactly what it holds.
-/
import Mathlib.Data.List.Basic

namespace Authenticator.Theory.SeparatedList

set_option autoImplicit false

universe u

variable {α : Type u} [DecidableEq α] (sep : α)

/-- A word that can be kept in a separated text. -/
def Clean (word : List α) : Prop := word ≠ [] ∧ sep ∉ word

instance (word : List α) : Decidable (Clean sep word) := inferInstanceAs (Decidable (_ ∧ _))

/-- The non-empty pieces of a text. -/
def items (text : List α) : List (List α) := (text.splitOn sep).filter (· ≠ [])

def join (words : List (List α)) : List α := [sep].intercalate words

theorem not_mem_of_mem_splitOn (text : List α) : ∀ word ∈ text.splitOn sep, sep ∉ word := by
  induction text with
  | nil => simp
  | cons x rest ih =>
      rw [List.splitOn_cons_eq_if_modifyHead]
      split
      · intro word member
        rcases List.mem_cons.mp member with rfl | later
        · simp
        · exact ih word later
      · rename_i other
        have apart : sep ≠ x := fun same => other (by simp [same])
        cases pieces : rest.splitOn sep with
        | nil => simp
        | cons first later =>
            rw [pieces] at ih
            intro word member
            rcases List.mem_cons.mp member with rfl | tail
            · simp only [List.mem_cons, not_or]
              exact ⟨apart, ih first List.mem_cons_self⟩
            · exact ih word (List.mem_cons_of_mem _ tail)

theorem clean_of_mem_items {text word : List α} (member : word ∈ items sep text) :
    Clean sep word := by
  obtain ⟨inside, nonempty⟩ := List.mem_filter.mp member
  exact ⟨by simpa using nonempty, not_mem_of_mem_splitOn sep text word inside⟩

/-- **Reading back what was written.** -/
theorem items_join {words : List (List α)} (clean : ∀ word ∈ words, Clean sep word) :
    items sep (join sep words) = words := by
  by_cases empty : words = []
  · subst empty
    simp [items, join]
  · unfold items join
    rw [List.splitOn_intercalate sep (fun word member => (clean word member).2) empty,
      List.filter_eq_self]
    intro word member
    simpa using (clean word member).1

/-! ## Edits of the set -/

/-- One change of a set. -/
inductive Edit (β : Type u) where
  | add (value : β)
  | remove (value : β)
  deriving DecidableEq, Repr

namespace Edit

variable {β : Type u}

def value : Edit β → β
  | .add v => v
  | .remove v => v

variable [DecidableEq β]

/-- The words after an edit: a new one comes last, and the others keep their order. -/
def act (held : List β) : Edit β → List β
  | .add v => if v ∈ held then held else held ++ [v]
  | .remove v => held.filter (· ≠ v)

theorem mem_act_add (held : List β) (v : β) : v ∈ (add v).act held := by
  simp only [act]
  split
  · assumption
  · simp

theorem act_act (held : List β) (e : Edit β) : e.act (e.act held) = e.act held := by
  cases e with
  | add v => exact if_pos (mem_act_add held v)
  | remove v => simp [act]

theorem remove_add {held : List β} {v : β} (absent : v ∉ held) :
    (remove v).act ((add v).act held) = held := by
  have others : ∀ word ∈ held, word ≠ v := by
    rintro word member rfl
    exact absent member
  simp only [act, if_neg absent, List.filter_append]
  simpa using others

/-- Adding a word and removing another, in either order. -/
theorem remove_add_of_ne {v w : β} (apart : v ≠ w) (held : List β) :
    (remove w).act ((add v).act held) = (add v).act ((remove w).act held) := by
  by_cases member : v ∈ held <;> simp [act, member, apart]

/-- **Edits of different words commute**, up to the order of the words. -/
theorem act_comm {e f : Edit β} (apart : e.value ≠ f.value) (held : List β) :
    (f.act (e.act held)).Perm (e.act (f.act held)) := by
  cases e with
  | add v =>
      cases f with
      | add w =>
          have other : v ≠ w := apart
          by_cases first : v ∈ held
          · by_cases second : w ∈ held <;> simp [act, first, second]
          · by_cases second : w ∈ held
            · simp [act, first, second]
            · have last : ((held ++ [v]) ++ [w]).Perm ((held ++ [w]) ++ [v]) := by
                rw [List.append_assoc, List.append_assoc]
                exact (List.Perm.swap w v []).append_left held
              simpa only [act, if_neg first, if_neg second, List.mem_append, List.mem_singleton,
                other, Ne.symm other, first, second, or_self, if_false] using last
      | remove w => exact .of_eq (remove_add_of_ne apart held)
  | remove v =>
      cases f with
      | add w => exact .of_eq (remove_add_of_ne (Ne.symm apart) held).symm
      | remove w =>
          simp only [act, List.filter_filter, Bool.and_comm]
          exact List.Perm.refl _

end Edit

end Authenticator.Theory.SeparatedList
