/-
# Enforce.VlanNames -- which VLAN an accepted text names

`isValidVlan` reads the text with `parse::<u16>`, which skips a plus sign and leading
zeros; the `VLAN_MEMBER` key and the VLAN delta use the text as it came.  So `+7` and `007`
are accepted, name no VLAN of the switch, and count as VLANs other than `7`.

`accepted_vlan_canonical_iff` says for which accepted texts the two readings agree.
-/
import Authenticator.Theory.Decimal
import Authenticator.Enforce.Schema

namespace Authenticator.Enforce

set_option autoImplicit false

open Authenticator.Theory

/-- Reading digits is the value of the digit string. -/
theorem ofDigitChars_of_foldlM {digits : List Char} {start n : Nat}
    (parsed : digits.foldlM pushDigit start = some n) :
    Nat.ofDigitChars 10 digits start = n := by
  induction digits generalizing start with
  | nil => simpa using parsed
  | cons c rest ih =>
      simp only [List.foldlM_cons, Option.bind_eq_bind, Option.bind_eq_some_iff] at parsed
      obtain ⟨next, here, later⟩ := parsed
      unfold pushDigit at here
      split at here
      · rw [Nat.ofDigitChars_cons, Nat.mul_comm, Option.some.inj here]
        exact ih later
      · cases here

section Accepted

variable {vlan other : String}

/-- What an accepted text is: digits after an optional plus sign, with a value in range. -/
theorem isValidVlan_digits (valid : isValidVlan vlan = true) :
    ∃ n, parseU16 vlan = some n ∧ 1 ≤ n ∧ n ≤ 4094 ∧
      (∀ c ∈ stripPlus vlan.toList, c.isDigit = true) ∧
      Nat.ofDigitChars 10 (stripPlus vlan.toList) 0 = n := by
  unfold isValidVlan at valid
  cases parsed : parseU16 vlan with
  | none => simp [parsed] at valid
  | some n =>
      have range : 1 ≤ n ∧ n ≤ 4094 := by simpa [parsed] using valid
      unfold parseU16 at parsed
      split at parsed
      · cases parsed
      · exact ⟨n, rfl, range.1, range.2, isDigit_of_foldlM parsed, ofDigitChars_of_foldlM parsed⟩

example : isValidVlan "+07" = true ∧ parseU16 "+07" = some 7 ∧ stripPlus "+07".toList = ['0', '7'] := by
  decide

theorem stripPlus_of_leads {text : List Char} (leads : LeadsNonzero text) :
    stripPlus text = text := by
  obtain ⟨c, rest, rfl, digit, -⟩ := leads
  have unsigned : c ≠ '+' := by
    rintro rfl
    exact absurd digit (by decide)
  simp [stripPlus, unsigned]

/-- The text is the numeral of its VLAN id, and its membership key is the key of that VLAN. -/
def NamesVlan (vlan : String) : Prop :=
  ∃ n, 1 ≤ n ∧ n ≤ 4094 ∧ parseU16 vlan = some n ∧ vlan = toString n ∧
    ∀ port, vlanMemberKey vlan port = "VLAN_MEMBER|Vlan" ++ toString n ++ "|" ++ port

theorem namesVlan_iff (valid : isValidVlan vlan = true) :
    NamesVlan vlan ↔ LeadsNonzero vlan.toList := by
  constructor
  · rintro ⟨n, positive, -, -, rfl, -⟩
    rw [Nat.toString_eq_repr, Nat.toList_repr]
    exact leadsNonzero_toDigits positive
  · intro leads
    obtain ⟨n, parsed, positive, small, digits, value⟩ := isValidVlan_digits valid
    rw [stripPlus_of_leads leads] at digits value
    obtain ⟨numeral, -⟩ := toDigits_ofDigitChars digits leads
    have named : vlan = toString n := by
      apply String.toList_injective
      rw [Nat.toString_eq_repr, Nat.toList_repr, ← numeral, value]
    refine ⟨n, positive, small, parsed, named, fun port => ?_⟩
    rw [named]
    rfl

/-- Two numerals of one VLAN id are the same text. -/
theorem NamesVlan.eq_of_parse (named : NamesVlan vlan) (named' : NamesVlan other)
    (same : parseU16 vlan = parseU16 other) : vlan = other := by
  obtain ⟨n, -, -, parsed, text, -⟩ := named
  obtain ⟨m, -, -, parsed', text', -⟩ := named'
  rw [parsed, parsed', Option.some.injEq] at same
  rw [text, text', same]

/-- The VLAN delta compares the texts. -/
theorem vlanDelta_eq_nil_iff {port : String} {old new : Desired} (prev : old.vlan = some vlan)
    (next : new.vlan = some other) : vlanDelta port old new = [] ↔ vlan = other := by
  unfold vlanDelta
  rw [prev, next]
  by_cases same : vlan = other
  · simp [same]
  · simp [same]

/-- **Which accepted texts name exactly one VLAN.**  Two accepted texts are the numerals of
their ids, are keyed by them, are equal exactly when the ids are, and are told apart by the
VLAN delta exactly when the ids are, if and only if each starts with a digit other than
`0`. -/
theorem accepted_vlan_canonical_iff (vlan other : String) (valid : isValidVlan vlan = true)
    (valid' : isValidVlan other = true) :
    (NamesVlan vlan ∧ NamesVlan other ∧
        (parseU16 vlan = parseU16 other ↔ vlan = other) ∧
        ∀ port old new, old.vlan = some vlan → new.vlan = some other →
          (vlanDelta port old new = [] ↔ parseU16 vlan = parseU16 other)) ↔
      LeadsNonzero vlan.toList ∧ LeadsNonzero other.toList := by
  constructor
  · rintro ⟨named, named', -, -⟩
    exact ⟨(namesVlan_iff valid).mp named, (namesVlan_iff valid').mp named'⟩
  · rintro ⟨leads, leads'⟩
    have named := (namesVlan_iff valid).mpr leads
    have named' := (namesVlan_iff valid').mpr leads'
    have ids : parseU16 vlan = parseU16 other ↔ vlan = other :=
      ⟨named.eq_of_parse named', fun same => by rw [same]⟩
    refine ⟨named, named', ids, fun port old new prev next => ?_⟩
    rw [vlanDelta_eq_nil_iff prev next, ids]

end Accepted

/-- `100` and `4094` are numerals of different VLANs. -/
theorem accepted_vlan_canonical_numerals :
    NamesVlan "100" ∧ NamesVlan "4094" ∧ (parseU16 "100" = parseU16 "4094" ↔ "100" = "4094") := by
  have leads : LeadsNonzero "100".toList := ⟨'1', ['0', '0'], by decide, by decide, by decide⟩
  have leads' : LeadsNonzero "4094".toList := ⟨'4', ['0', '9', '4'], by decide, by decide, by decide⟩
  obtain ⟨first, second, ids, -⟩ :=
    (accepted_vlan_canonical_iff "100" "4094" (by decide) (by decide)).mpr ⟨leads, leads'⟩
  exact ⟨first, second, ids⟩

/-- `+7` and `7` are accepted and have one id; `+7` is not its numeral, its key names no
VLAN, and the delta between the two deletes one key and sets another. -/
theorem accepted_vlan_not_canonical :
    isValidVlan "+7" = true ∧ isValidVlan "7" = true ∧ parseU16 "+7" = parseU16 "7" ∧
      ¬ NamesVlan "+7" ∧ vlanMemberKey "+7" "Ethernet0" = "VLAN_MEMBER|Vlan+7|Ethernet0" ∧
      vlanDelta "Ethernet0" { authorized := true, vlan := some "7" }
          { authorized := true, vlan := some "+7" } =
        [del .config "VLAN_MEMBER|Vlan7|Ethernet0",
          ⟨.config, .hSet "VLAN_MEMBER|Vlan+7|Ethernet0" [("tagging_mode", "untagged")]⟩] := by
  refine ⟨by decide, by decide, by decide, ?_, by decide, by decide⟩
  intro named
  obtain ⟨c, rest, text, digit, -⟩ := (namesVlan_iff (by decide)).mp named
  have plus : '+' :: ['7'] = c :: rest := text
  rw [← (List.cons.inj plus).1] at digit
  revert digit
  decide

end Authenticator.Enforce
