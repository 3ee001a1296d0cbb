/-
# Theory.Purge -- noninterference of a transducer by unwinding

One party sees a part of the state (`view`) and some of the outputs (`visible`).  Some
inputs are its own concern (`relevant`); the others must not be noticed.  `Unwinds` asks
that of one step: a relevant input acts on what is seen and on nothing else, and any other
input leaves it alone and is not seen.

`Unwinds.purge` is the two-run theorem: what the party sees of a run is what it sees of
the run with all other inputs purged.
-/
import Authenticator.Theory.Transducer

namespace Authenticator.Theory

set_option autoImplicit false

universe u v w x

variable {σ : Type u} {ι : Type v} {ο : Type w} {α : Type x}

/-- The conditions on one step, on the states that satisfy `good`. -/
structure Unwinds (M : Transducer σ ι ο) (good : σ → Prop) (view : σ → α) (visible : ο → Bool)
    (relevant : ι → Bool) : Prop where
  keeps : ∀ s input, good s → good (M.step s input).1
  consistent : ∀ s t input, good s → good t → relevant input = true → view s = view t →
    view (M.step s input).1 = view (M.step t input).1 ∧
      (M.step s input).2.filter visible = (M.step t input).2.filter visible
  respects : ∀ s input, good s → relevant input = false →
    view (M.step s input).1 = view s ∧ (M.step s input).2.filter visible = []

namespace Unwinds

variable {M : Transducer σ ι ο} {good : σ → Prop} {view : σ → α} {visible : ο → Bool}
variable {relevant : ι → Bool}

/-- **Noninterference.** -/
theorem purge (unwinds : Unwinds M good view visible relevant) (inputs : List ι) {s t : σ}
    (left : good s) (right : good t) (same : view s = view t) :
    view (M.run s inputs).1 = view (M.run t (inputs.filter relevant)).1 ∧
      (M.run s inputs).2.filter visible =
        (M.run t (inputs.filter relevant)).2.filter visible := by
  induction inputs generalizing s t with
  | nil => exact ⟨same, rfl⟩
  | cons input rest ih =>
      cases concerns : relevant input with
      | true =>
          obtain ⟨agree, shown⟩ := unwinds.consistent s t input left right concerns same
          obtain ⟨views, outputs⟩ :=
            ih (unwinds.keeps s input left) (unwinds.keeps t input right) agree
          rw [List.filter_cons_of_pos concerns]
          refine ⟨views, ?_⟩
          show ((M.step s input).2 ++ _).filter visible = ((M.step t input).2 ++ _).filter visible
          rw [List.filter_append, List.filter_append, shown, outputs]
      | false =>
          obtain ⟨kept, hidden⟩ := unwinds.respects s input left concerns
          obtain ⟨views, outputs⟩ := ih (unwinds.keeps s input left) right (kept.trans same)
          rw [List.filter_cons_of_neg (by rw [concerns]; exact Bool.false_ne_true)]
          refine ⟨views, ?_⟩
          show ((M.step s input).2 ++ _).filter visible = _
          rw [List.filter_append, hidden, List.nil_append, outputs]

end Unwinds

end Authenticator.Theory
