/-
# Radius.Utf8 -- octets read as text

`fromUtf8` is the strict reading and `fromUtf8Lossy` the one that puts U+FFFD in
place of each ill-formed run.  A run is the longest prefix of a well-formed
sequence, and at least one octet.  `utf8_of_fromUtf8` says that a text read strictly is
written in the octets it was read from, and `fromUtf8Lossy_utf8` that a written text is
read back, so the lossy reading alters exactly the octets that are no text.
-/
import Authenticator.Pacp.Ethernet

namespace Authenticator.Radius

set_option autoImplicit false

open Authenticator.Pacp

def isContinuation (b : UInt8) : Bool := 0x80 ≤ b ∧ b ≤ 0xBF

/-- The second octets a lead octet allows: no overlong form, no surrogate, nothing
above U+10FFFF. -/
def allowsSecond (lead b : UInt8) : Bool :=
  if lead = 0xE0 then 0xA0 ≤ b ∧ b ≤ 0xBF
  else if lead = 0xED then 0x80 ≤ b ∧ b ≤ 0x9F
  else if lead = 0xF0 then 0x90 ≤ b ∧ b ≤ 0xBF
  else if lead = 0xF4 then 0x80 ≤ b ∧ b ≤ 0x8F
  else isContinuation b

/-- Six payload bits on the right. -/
def pushBits (high : Nat) (b : UInt8) : Nat := high * 64 + (b.toNat - 0x80)

/-- The scalar that starts with `lead`, or `none` for an ill-formed run, and what
follows it. -/
def nextScalar (lead : UInt8) (rest : Bytes) : Option Char × Bytes :=
  if lead < 0x80 then (some (Char.ofNat lead.toNat), rest)
  else if 0xC2 ≤ lead ∧ lead ≤ 0xDF then
    match rest with
    | second :: later =>
        if isContinuation second then
          (some (Char.ofNat (pushBits (lead.toNat - 0xC0) second)), later)
        else (none, rest)
    | [] => (none, rest)
  else if 0xE0 ≤ lead ∧ lead ≤ 0xEF then
    match rest with
    | second :: later =>
        if allowsSecond lead second then
          match later with
          | third :: last =>
              if isContinuation third then
                (some (Char.ofNat (pushBits (pushBits (lead.toNat - 0xE0) second) third)), last)
              else (none, later)
          | [] => (none, later)
        else (none, rest)
    | [] => (none, rest)
  else if 0xF0 ≤ lead ∧ lead ≤ 0xF4 then
    match rest with
    | second :: later =>
        if allowsSecond lead second then
          match later with
          | third :: after =>
              if isContinuation third then
                match after with
                | fourth :: last =>
                    if isContinuation fourth then
                      (some (Char.ofNat
                        (pushBits (pushBits (pushBits (lead.toNat - 0xF0) second) third) fourth)),
                        last)
                    else (none, after)
                | [] => (none, after)
              else (none, later)
          | [] => (none, later)
        else (none, rest)
    | [] => (none, rest)
  else (none, rest)

/-- The scalars and ill-formed runs of an octet string; the fuel is its length, and
each of them takes at least one octet. -/
def scalars : Nat → Bytes → List (Option Char)
  | 0, _ => []
  | _, [] => []
  | fuel + 1, lead :: rest => (nextScalar lead rest).1 :: scalars fuel (nextScalar lead rest).2

/-- `core::str::from_utf8`. -/
def fromUtf8 (octets : Bytes) : Option String :=
  ((scalars octets.length octets).mapM id).map String.ofList

/-- `String::from_utf8_lossy`. -/
def fromUtf8Lossy (octets : Bytes) : String :=
  String.ofList ((scalars octets.length octets).map fun scalar => scalar.getD '\uFFFD')

/-! ## A text is written as it was read -/

theorem toNat_ofNat {n : Nat} (valid : n.isValidChar) : (Char.ofNat n).val.toNat = n := by
  rw [Char.ofNat, dif_pos valid]
  rfl

/-- An octet is known by its number. -/
theorem ofNat_eq {n : Nat} {b : UInt8} (same : n = b.toNat) : UInt8.ofNat n = b := by
  rw [same, UInt8.ofNat_toNat]

theorem isContinuation_iff {b : UInt8} :
    isContinuation b = true ↔ 0x80 ≤ b.toNat ∧ b.toNat ≤ 0xBF := by
  simp [isContinuation, UInt8.le_iff_toNat_le]

/-- What a lead octet says about the second. -/
theorem allowsSecond_iff {lead second : UInt8} : allowsSecond lead second = true ↔
    (0x80 ≤ second.toNat ∧ second.toNat ≤ 0xBF) ∧ (lead.toNat = 0xE0 → 0xA0 ≤ second.toNat) ∧
      (lead.toNat = 0xED → second.toNat ≤ 0x9F) ∧ (lead.toNat = 0xF0 → 0x90 ≤ second.toNat) ∧
      (lead.toNat = 0xF4 → second.toNat ≤ 0x8F) := by
  simp only [allowsSecond, isContinuation, UInt8.le_iff_toNat_le, ← UInt8.toNat_inj]
  split_ifs <;> simp only [UInt8.reduceToNat, decide_eq_true_eq] at * <;> omega

/-- The octets of a scalar, by its number. -/
theorem utf8EncodeChar_ofNat {n : Nat} (valid : n.isValidChar) :
    String.utf8EncodeChar (Char.ofNat n) =
      if n ≤ 0x7F then [UInt8.ofNat n]
      else if n ≤ 0x7FF then [UInt8.ofNat (n / 64 % 0x20 + 0xC0), UInt8.ofNat (n % 0x40 + 0x80)]
      else if n ≤ 0xFFFF then [UInt8.ofNat (n / 4096 % 0x10 + 0xE0),
        UInt8.ofNat (n / 64 % 0x40 + 0x80), UInt8.ofNat (n % 0x40 + 0x80)]
      else [UInt8.ofNat (n / 262144 % 0x08 + 0xF0), UInt8.ofNat (n / 4096 % 0x40 + 0x80),
        UInt8.ofNat (n / 64 % 0x40 + 0x80), UInt8.ofNat (n % 0x40 + 0x80)] := by
  rw [String.utf8EncodeChar, toNat_ofNat valid]

/-- A scalar is written in the octets it was read from. -/
theorem nextScalar_encode {lead : UInt8} {rest : Bytes} {c : Char}
    (read : (nextScalar lead rest).1 = some c) :
    String.utf8EncodeChar c ++ (nextScalar lead rest).2 = lead :: rest := by
  revert read
  fun_cases nextScalar lead rest with
  | case1 =>
      rename_i one
      intro read
      rw [← Option.some.inj read]
      have small : lead.toNat < 0x80 := UInt8.lt_iff_toNat_lt.mp one
      rw [utf8EncodeChar_ofNat (Or.inl (by omega)), if_pos (by omega)]
      simp
  | case2 _ two second later continues =>
      intro read
      rw [← Option.some.inj read]
      have low : 0xC2 ≤ lead.toNat := UInt8.le_iff_toNat_le.mp two.1
      have high : lead.toNat ≤ 0xDF := UInt8.le_iff_toNat_le.mp two.2
      have bits := isContinuation_iff.mp continues
      unfold pushBits
      rw [utf8EncodeChar_ofNat (Or.inl (by omega)), if_neg (by omega), if_pos (by omega),
        ofNat_eq (b := lead) (by omega), ofNat_eq (b := second) (by omega)]
      rfl
  | case5 _ _ three second allowed third last continues =>
      intro read
      rw [← Option.some.inj read]
      have low : 0xE0 ≤ lead.toNat := UInt8.le_iff_toNat_le.mp three.1
      have high : lead.toNat ≤ 0xEF := UInt8.le_iff_toNat_le.mp three.2
      obtain ⟨range, least, most, -, -⟩ := allowsSecond_iff.mp allowed
      have bits := isContinuation_iff.mp continues
      unfold pushBits
      rw [utf8EncodeChar_ofNat (by unfold Nat.isValidChar; omega), if_neg (by omega),
        if_neg (by omega), if_pos (by omega), ofNat_eq (b := lead) (by omega),
        ofNat_eq (b := second) (by omega), ofNat_eq (b := third) (by omega)]
      rfl
  | case10 _ _ _ four second allowed third continues fourth last ends =>
      intro read
      rw [← Option.some.inj read]
      have low : 0xF0 ≤ lead.toNat := UInt8.le_iff_toNat_le.mp four.1
      have high : lead.toNat ≤ 0xF4 := UInt8.le_iff_toNat_le.mp four.2
      obtain ⟨range, -, -, least, most⟩ := allowsSecond_iff.mp allowed
      have bits := isContinuation_iff.mp continues
      have bits' := isContinuation_iff.mp ends
      unfold pushBits
      rw [utf8EncodeChar_ofNat (by unfold Nat.isValidChar; omega), if_neg (by omega),
        if_neg (by omega), if_neg (by omega), ofNat_eq (b := lead) (by omega),
        ofNat_eq (b := second) (by omega), ofNat_eq (b := third) (by omega),
        ofNat_eq (b := fourth) (by omega)]
      rfl
  | _ => nofun

theorem utf8_of_scalars {fuel : Nat} {octets : Bytes} {text : List Char}
    (enough : octets.length ≤ fuel) (read : (scalars fuel octets).mapM id = some text) :
    utf8 (String.ofList text) = octets := by
  induction fuel generalizing octets text with
  | zero =>
      cases read
      exact (List.eq_nil_of_length_eq_zero (Nat.le_zero.mp enough)).symm
  | succ fuel ih =>
      cases octets with
      | nil =>
          cases read
          rfl
      | cons lead rest =>
          simp only [scalars, List.mapM_cons, id_eq, Option.bind_eq_bind, Option.bind_eq_some_iff,
            Option.pure_def, Option.some_inj] at read
          obtain ⟨c, first, later, others, rfl⟩ := read
          have here := nextScalar_encode first
          have size := congrArg List.length here
          have positive : 0 < (String.utf8EncodeChar c).length := by simp [Char.utf8Size_pos]
          simp only [List.length_append, List.length_cons] at size enough
          have there := ih (by omega) others
          rw [← here, ← there]
          simp [utf8]

/-- **A text that is read strictly is written in the same octets.** -/
theorem utf8_of_fromUtf8 {octets : Bytes} {text : String} (read : fromUtf8 octets = some text) :
    utf8 text = octets := by
  obtain ⟨scalars, known, rfl⟩ := Option.map_eq_some_iff.mp read
  exact utf8_of_scalars (Nat.le_refl _) known

example : fromUtf8 [0x61, 0xC3, 0xA9] = some "aé" ∧ utf8 "aé" = [0x61, 0xC3, 0xA9] := by decide

/-! ## A text is read as it was written -/

section Sequences

variable {lead second third fourth : UInt8} {rest : Bytes}

theorem nextScalar_one (one : lead.toNat < 0x80) :
    nextScalar lead rest = (some (Char.ofNat lead.toNat), rest) := by
  simp [nextScalar, UInt8.lt_iff_toNat_lt, one]

theorem nextScalar_two (low : 0xC2 ≤ lead.toNat) (high : lead.toNat ≤ 0xDF)
    (continues : isContinuation second = true) :
    nextScalar lead (second :: rest) =
      (some (Char.ofNat (pushBits (lead.toNat - 0xC0) second)), rest) := by
  have notOne : ¬ lead.toNat < 0x80 := by omega
  simp [nextScalar, UInt8.lt_iff_toNat_lt, UInt8.le_iff_toNat_le, notOne, low, high, continues]

theorem nextScalar_three (low : 0xE0 ≤ lead.toNat) (high : lead.toNat ≤ 0xEF)
    (allowed : allowsSecond lead second = true) (continues : isContinuation third = true) :
    nextScalar lead (second :: third :: rest) =
      (some (Char.ofNat (pushBits (pushBits (lead.toNat - 0xE0) second) third)), rest) := by
  have notOne : ¬ lead.toNat < 0x80 := by omega
  have notTwo : ¬ lead.toNat ≤ 0xDF := by omega
  simp [nextScalar, UInt8.lt_iff_toNat_lt, UInt8.le_iff_toNat_le, notOne, notTwo, low, high,
    allowed, continues]

theorem nextScalar_four (low : 0xF0 ≤ lead.toNat) (high : lead.toNat ≤ 0xF4)
    (allowed : allowsSecond lead second = true) (continues : isContinuation third = true)
    (ends : isContinuation fourth = true) :
    nextScalar lead (second :: third :: fourth :: rest) =
      (some (Char.ofNat
        (pushBits (pushBits (pushBits (lead.toNat - 0xF0) second) third) fourth)), rest) := by
  have notOne : ¬ lead.toNat < 0x80 := by omega
  have notTwo : ¬ lead.toNat ≤ 0xDF := by omega
  have notThree : ¬ lead.toNat ≤ 0xEF := by omega
  simp [nextScalar, UInt8.lt_iff_toNat_lt, UInt8.le_iff_toNat_le, notOne, notTwo, notThree, low,
    high, allowed, continues, ends]

end Sequences

theorem toNat_ofNat_octet {n : Nat} (octet : n < 256) : (UInt8.ofNat n).toNat = n := by
  rw [UInt8.toNat_ofNat']
  exact Nat.mod_eq_of_lt octet

/-- A continuation octet of an encoded scalar. -/
theorem isContinuation_ofNat (n : Nat) : isContinuation (UInt8.ofNat (n % 0x40 + 0x80)) = true := by
  rw [isContinuation_iff, toNat_ofNat_octet (by omega)]
  omega

theorem pushBits_ofNat (high n : Nat) :
    pushBits high (UInt8.ofNat (n % 0x40 + 0x80)) = high * 64 + n % 0x40 := by
  have octet := toNat_ofNat_octet (n := n % 0x40 + 0x80) (by omega)
  unfold pushBits
  rw [octet, Nat.add_sub_cancel]

/-- **The octets of a scalar are read back.** -/
theorem nextScalar_utf8EncodeChar (c : Char) (rest : Bytes) :
    ∃ lead tail, String.utf8EncodeChar c = lead :: tail ∧
      nextScalar lead (tail ++ rest) = (some c, rest) := by
  obtain ⟨n, valid, rfl⟩ : ∃ n, n.isValidChar ∧ c = Char.ofNat n :=
    ⟨c.toNat, c.valid, (Char.ofNat_toNat c).symm⟩
  have range : n < 0xD800 ∨ 0xDFFF < n ∧ n < 0x110000 := valid
  have encoded := utf8EncodeChar_ofNat valid
  by_cases one : n ≤ 0x7F
  · rw [if_pos one] at encoded
    refine ⟨_, _, encoded, ?_⟩
    have lead : (UInt8.ofNat n).toNat = n := toNat_ofNat_octet (by omega)
    rw [List.nil_append, nextScalar_one (by omega), lead]
  by_cases two : n ≤ 0x7FF
  · rw [if_neg one, if_pos two] at encoded
    refine ⟨_, _, encoded, ?_⟩
    have lead := toNat_ofNat_octet (n := n / 64 % 0x20 + 0xC0) (by omega)
    have number : (n / 64 % 0x20 + 0xC0 - 0xC0) * 64 + n % 0x40 = n := by omega
    rw [List.cons_append, List.nil_append,
      nextScalar_two (by omega) (by omega) (isContinuation_ofNat n), pushBits_ofNat, lead, number]
  by_cases three : n ≤ 0xFFFF
  · rw [if_neg one, if_neg two, if_pos three] at encoded
    refine ⟨_, _, encoded, ?_⟩
    have lead := toNat_ofNat_octet (n := n / 4096 % 0x10 + 0xE0) (by omega)
    have second := toNat_ofNat_octet (n := n / 64 % 0x40 + 0x80) (by omega)
    have allowed : allowsSecond (UInt8.ofNat (n / 4096 % 0x10 + 0xE0))
        (UInt8.ofNat (n / 64 % 0x40 + 0x80)) = true := by
      rw [allowsSecond_iff, lead, second]
      omega
    have number : ((n / 4096 % 0x10 + 0xE0 - 0xE0) * 64 + n / 64 % 0x40) * 64 + n % 0x40 = n := by
      omega
    rw [List.cons_append, List.cons_append, List.nil_append,
      nextScalar_three (by omega) (by omega) allowed (isContinuation_ofNat n),
      pushBits_ofNat, pushBits_ofNat, lead, number]
  · rw [if_neg one, if_neg two, if_neg three] at encoded
    refine ⟨_, _, encoded, ?_⟩
    have lead := toNat_ofNat_octet (n := n / 262144 % 0x08 + 0xF0) (by omega)
    have second := toNat_ofNat_octet (n := n / 4096 % 0x40 + 0x80) (by omega)
    have allowed : allowsSecond (UInt8.ofNat (n / 262144 % 0x08 + 0xF0))
        (UInt8.ofNat (n / 4096 % 0x40 + 0x80)) = true := by
      rw [allowsSecond_iff, lead, second]
      omega
    have number : (((n / 262144 % 0x08 + 0xF0 - 0xF0) * 64 + n / 4096 % 0x40) * 64 +
        n / 64 % 0x40) * 64 + n % 0x40 = n := by omega
    rw [List.cons_append, List.cons_append, List.cons_append, List.nil_append,
      nextScalar_four (by omega) (by omega) allowed (isContinuation_ofNat (n / 64))
        (isContinuation_ofNat n), pushBits_ofNat, pushBits_ofNat, pushBits_ofNat, lead, number]

theorem scalars_utf8 (text : List Char) {fuel : Nat}
    (enough : (text.flatMap String.utf8EncodeChar).length ≤ fuel) :
    scalars fuel (text.flatMap String.utf8EncodeChar) = text.map some := by
  induction text generalizing fuel with
  | nil => cases fuel <;> rfl
  | cons c rest ih =>
      obtain ⟨lead, tail, encoded, read⟩ :=
        nextScalar_utf8EncodeChar c (rest.flatMap String.utf8EncodeChar)
      rw [List.flatMap_cons, encoded, List.cons_append, List.length_cons, List.length_append]
        at enough
      obtain ⟨left, rfl⟩ : ∃ left, fuel = left + 1 := ⟨fuel - 1, by omega⟩
      rw [List.flatMap_cons, encoded, List.cons_append, scalars, read, List.map_cons,
        ih (by omega)]

/-- **A written text is read back**, also by the lossy reading. -/
theorem fromUtf8Lossy_utf8 (text : String) : fromUtf8Lossy (utf8 text) = text := by
  rw [fromUtf8Lossy, utf8, scalars_utf8 _ (Nat.le_refl _), List.map_map]
  simp [Function.comp_def]

end Authenticator.Radius
