/-
# Theory.Stream -- reading and writing a stream in exact blocks

A `Source` hands out what is unread in blocks of an exact size, a `Sink` appends what it is
given.  Both are programs that can fail, and both carry their laws: a block that was read was
at the front of what was unread, and a read fails only where too little is left.

`Source.many` is the rule for a reader that is called once for each item written: if one call
takes one item off the front, so many calls take so many items and leave what follows them.
`Source.pieces` is a stream that arrives in pieces of any size, `Sink.buffer` one that is kept.
-/
import Mathlib.Data.Nat.Basic
import Authenticator.Theory.Prog

namespace Authenticator.Theory

set_option autoImplicit false

/-- Something to read from, with what is still unread in a state. -/
structure Source (ε σ α : Type) where
  unread : σ → List α
  readExact : (n : Nat) → Prog ε σ (Vector α n)
  taken : ∀ {n : Nat} {s s' : σ} {block : Vector α n}, readExact n s = (.ok block, s') →
    unread s = block.toList ++ unread s'
  enough : ∀ {n : Nat} {s : σ}, n ≤ (unread s).length →
    ∃ block s', readExact n s = (.ok block, s')

/-- Something to write to, with what a state has taken. -/
structure Sink (ε σ α : Type) where
  written : σ → List α
  writeAll : List α → Prog ε σ Unit
  flush : Prog ε σ Unit
  appended : ∀ {block : List α} {s s' : σ}, writeAll block s = (.ok (), s') →
    written s' = written s ++ block
  flushed : ∀ {s s' : σ}, flush s = (.ok (), s') → written s' = written s

/-! ## Sources -/

namespace Source

variable {ε ε' σ α β : Type} (source : Source ε σ α) {s s' : σ}

/-- A read fails where too little is left. -/
theorem read_short {n : Nat} (short : (source.unread s).length < n) :
    ∃ e s', source.readExact n s = (.error e, s') := by
  rcases read : source.readExact n s with ⟨outcome, s'⟩
  cases outcome with
  | error e => exact ⟨e, s', rfl⟩
  | ok block =>
      have front := congrArg List.length (source.taken read)
      simp only [List.length_append, Vector.length_toList] at front
      omega

/-- **One call an item.**  If a call takes one item off the front, as many calls as there are
items take all of them, in order, and leave what follows. -/
theorem many {m : Prog ε' σ β} {code : β → List α} {items : List β}
    (one : ∀ item ∈ items, ∀ (s : σ) (suffix : List α),
      source.unread s = code item ++ suffix →
        ∃ s', m s = (.ok item, s') ∧ source.unread s' = suffix)
    (suffix : List α) (front : source.unread s = items.flatMap code ++ suffix) :
    ∃ s', m.times items.length s = (.ok items, s') ∧ source.unread s' = suffix := by
  induction items generalizing s with
  | nil => exact ⟨s, rfl, by simpa using front⟩
  | cons item items ih =>
      rw [List.flatMap_cons, List.append_assoc] at front
      obtain ⟨t, first, left⟩ := one item List.mem_cons_self s _ front
      obtain ⟨s', later, rest⟩ := ih (fun i member => one i (List.mem_cons_of_mem _ member)) left
      refine ⟨s', ?_, rest⟩
      rw [List.length_cons, Prog.times, Prog.bind_ok first, Prog.bind_ok later]
      rfl

end Source

/-! ## Sinks -/

namespace Sink

variable {ε ε' σ α β : Type} (sink : Sink ε σ α) {s s' : σ}

/-- If a step appends its item, a run of steps appends all of them. -/
theorem run {step : β → Prog ε' σ Unit} {code : β → List α} {items : List β}
    (one : ∀ item ∈ items, ∀ s s' : σ, step item s = (.ok (), s') →
      sink.written s' = sink.written s ++ code item)
    (ran : items.forM step s = (.ok (), s')) :
    sink.written s' = sink.written s ++ items.flatMap code := by
  induction items generalizing s with
  | nil =>
      obtain ⟨-, rfl⟩ := Prod.mk.inj ran
      simp
  | cons item items ih =>
      obtain ⟨_, t, first, later⟩ := Prog.bind_eq_ok_iff.mp ran
      rw [ih (fun i member => one i (List.mem_cons_of_mem _ member)) later,
        one item List.mem_cons_self s t first, List.flatMap_cons, List.append_assoc]

/-- A buffer in memory takes whatever it is given. -/
def buffer : Sink ε (List α) α where
  written s := s
  writeAll block := Prog.modify (· ++ block)
  flush := pure ()
  appended wrote := (Prod.mk.inj wrote).2.symm
  flushed wrote := (Prod.mk.inj wrote).2.symm

end Sink

/-! ## Pieces -/

section Pieces

variable {ε α : Type}

/-- Collect `n` from pieces as they arrive; a piece that is too long is cut. -/
def gather : Nat → List (List α) → Option (List α × List (List α))
  | 0, pieces => some ([], pieces)
  | _ + 1, [] => none
  | n + 1, piece :: later =>
      if n + 1 < piece.length then some (piece.take (n + 1), piece.drop (n + 1) :: later)
      else (gather (n + 1 - piece.length) later).map fun got => (piece ++ got.1, got.2)

theorem gather_eq_some {pieces later : List (List α)} {n : Nat} {got : List α}
    (found : gather n pieces = some (got, later)) :
    got.length = n ∧ pieces.flatten = got ++ later.flatten := by
  induction pieces generalizing n got later with
  | nil =>
      cases n with
      | zero => cases found; simp
      | succ n => cases found
  | cons piece pieces ih =>
      cases n with
      | zero => cases found; simp
      | succ n =>
          simp only [gather] at found
          split at found
          · rename_i long
            cases found
            refine ⟨by simp; omega, ?_⟩
            rw [List.flatten_cons, List.flatten_cons, ← List.append_assoc, List.take_append_drop]
          · rename_i short
            obtain ⟨⟨rest, left⟩, inner, pair⟩ := Option.map_eq_some_iff.mp found
            obtain ⟨rfl, rfl⟩ := Prod.mk.inj pair
            obtain ⟨size, joined⟩ := ih inner
            refine ⟨by simp only [List.length_append]; omega, ?_⟩
            rw [List.flatten_cons, joined, List.append_assoc]

theorem gather_of_enough {pieces : List (List α)} {n : Nat} (fits : n ≤ pieces.flatten.length) :
    ∃ got later, gather n pieces = some (got, later) := by
  induction pieces generalizing n with
  | nil =>
      obtain rfl : n = 0 := by simpa using fits
      exact ⟨_, _, rfl⟩
  | cons piece pieces ih =>
      cases n with
      | zero => exact ⟨_, _, rfl⟩
      | succ n =>
          simp only [gather]
          split
          · exact ⟨_, _, rfl⟩
          · rw [List.flatten_cons, List.length_append] at fits
            obtain ⟨got, later, inner⟩ := ih (n := n + 1 - piece.length) (by omega)
            exact ⟨_, _, by rw [inner]; rfl⟩

/-- A stream that arrives in pieces and then ends; reading past its end fails with `eof`. -/
def Source.pieces (eof : ε) : Source ε (List (List α)) α where
  unread := List.flatten
  readExact n s :=
    match found : gather n s with
    | some (got, later) => (.ok ⟨got.toArray, (gather_eq_some found).1⟩, later)
    | none => (.error eof, [])
  taken {n s s' block} read := by
    split at read
    · rename_i got later found
      cases read
      exact (gather_eq_some found).2
    · cases read
  enough {n s} fits := by
    obtain ⟨got, later, known⟩ := gather_of_enough fits
    split
    · exact ⟨_, _, rfl⟩
    · rename_i none_
      rw [known] at none_
      cases none_

end Pieces

end Authenticator.Theory
