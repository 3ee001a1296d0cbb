/-
# Enforce.Schema -- the CONFIG_DB mapping and the delta planner

`Desired` is the posture of a port, distilled from a `PortAuthorization`.
`transition` plans the operations between two postures: a VLAN delta, a named-ACL
delta and an open/close delta, in that order, each empty when nothing changes.

The second half says which keys each delta touches and that keys of different
kinds never coincide, so the three deltas can be read one at a time.
-/
import Authenticator.Pae.Effect
import Authenticator.Enforce.Db

namespace Authenticator.Enforce

set_option autoImplicit false

open Authenticator.Pae

/-- CoPP trap key for EAPOL. -/
def eapolTrapKey : String := "COPP_TRAP|eapol"

/-- EAPOL EtherType for the permit rule. -/
def eapolEthertype : String := "0x888E"

/-- The desired dataplane posture of a port; the default is closed. -/
structure Desired where
  authorized : Bool := false
  vlan : Option String := none
  filterId : Option String := none
  deriving DecidableEq, Repr

/-- Distill a `PortAuthorization` into the desired posture. -/
def Desired.fromAuthorization : PortAuthorization → Desired
  | .authorized a => { authorized := true, vlan := a.vlan, filterId := a.filterId }
  | .fallback _ vlan => { authorized := true, vlan := vlan, filterId := none }
  | .unauthorized => {}

/-- A closed posture assigns nothing. -/
theorem Desired.fromAuthorization_closed {auth : PortAuthorization}
    (shut : (fromAuthorization auth).authorized = false) : fromAuthorization auth = {} := by
  cases auth with
  | unauthorized => rfl
  | authorized a => cases shut
  | fallback reason vlan => cases shut

def vlanMemberKey (vlan port : String) : String := "VLAN_MEMBER|Vlan" ++ vlan ++ "|" ++ port

/-- The per-port default-deny ACL table name. -/
def denyTable (port : String) : String := "DOT1X_" ++ port

def denyRuleKey (port : String) : String := "ACL_RULE|DOT1X_" ++ port ++ "|DENY_ALL"

def eapolPermitKey (port : String) : String := "ACL_RULE|DOT1X_" ++ port ++ "|ALLOW_EAPOL"

/-- `format!("ACL_TABLE|{table}")`. -/
def aclTableKey (table : String) : String := "ACL_TABLE|" ++ table

/-- The global EAPOL trap-to-CPU. -/
def planEapolTrap : List DbOp :=
  [⟨.config, .hSet eapolTrapKey [("trap_ids", "eapol"), ("trap_group", "queue4_group1")]⟩]

def del (db : Db) (key : String) : DbOp := ⟨db, .del key⟩

/-- Remove the default-deny and EAPOL-permit rules so normal traffic forwards. -/
def openControlledPort (port : String) : List DbOp :=
  [del .config (denyRuleKey port), del .config (eapolPermitKey port)]

/-- A per-port ACL that permits EAPOL and drops everything else. -/
def closeControlledPort (port : String) : List DbOp :=
  [⟨.config, .hSet (aclTableKey (denyTable port))
      [("type", "L3"), ("stage", "ingress"), ("ports", port)]⟩,
    ⟨.config, .hSet (eapolPermitKey port)
      [("PRIORITY", "9999"), ("ETHER_TYPE", eapolEthertype), ("PACKET_ACTION", "FORWARD")]⟩,
    ⟨.config, .hSet (denyRuleKey port) [("PRIORITY", "1"), ("PACKET_ACTION", "DROP")]⟩]

/-- The operations that close a port at bring-up. -/
def planClose (port : String) : List DbOp := closeControlledPort port

def vlanDelta (port : String) (old new : Desired) : List DbOp :=
  if old.vlan ≠ new.vlan then
    (old.vlan.toList.map fun prev => del .config (vlanMemberKey prev port)) ++
      new.vlan.toList.map fun next =>
        ⟨.config, .hSet (vlanMemberKey next port) [("tagging_mode", "untagged")]⟩
  else []

def filterDelta (port : String) (old new : Desired) : List DbOp :=
  if old.filterId ≠ new.filterId then
    (old.filterId.toList.map fun prev =>
        ⟨.config, .listRemove (aclTableKey prev) "ports" port⟩) ++
      new.filterId.toList.map fun next => ⟨.config, .listAdd (aclTableKey next) "ports" port⟩
  else []

def controlledDelta (port : String) (old new : Desired) : List DbOp :=
  if old.authorized ≠ new.authorized then
    if new.authorized then openControlledPort port else closeControlledPort port
  else []

/-- Plan the operations that move `port` from posture `old` to `new`. -/
def transition (port : String) (old new : Desired) : List DbOp :=
  vlanDelta port old new ++ filterDelta port old new ++ controlledDelta port old new

/-- Drop an optional plus sign. -/
def stripPlus : List Char → List Char
  | '+' :: rest => rest
  | all => all

/-- One more decimal digit, unless it is none or the value leaves `u16`. -/
def pushDigit (n : Nat) (c : Char) : Option Nat :=
  if c.isDigit ∧ n * 10 + (c.toNat - '0'.toNat) < 65536 then some (n * 10 + (c.toNat - '0'.toNat))
  else none

/-- `str::parse::<u16>`: an optional plus sign, then at least one decimal digit. -/
def parseU16 (text : String) : Option Nat :=
  if stripPlus text.toList = [] then none else (stripPlus text.toList).foldlM pushDigit 0

/-- Whether a `Tunnel-Private-Group-ID` is a usable SONiC VLAN id. -/
def isValidVlan (vlan : String) : Bool :=
  match parseU16 vlan with
  | some id => 1 ≤ id ∧ id ≤ 4094
  | none => false

/-- The tables an operator provisions: all but the daemon's own `DOT1X_*`. -/
def OperatorTable (table : String) : Prop := ¬ "DOT1X_".toList <+: table.toList

instance (table : String) : Decidable (OperatorTable table) := inferInstanceAs (Decidable (¬ _))

/-! ## Keys of different kinds never coincide -/

/-- Two strings whose first characters differ within the first `n`. -/
theorem append_ne_of_take {a b : String} (n : Nat) (long : n ≤ a.toList.length ∧ n ≤ b.toList.length)
    (apart : a.toList.take n ≠ b.toList.take n) (x y : String) : a ++ x ≠ b ++ y := by
  intro same
  apply apart
  have heads := congrArg (fun s : String => s.toList.take n) same
  simpa [List.take_append_of_le_length long.1, List.take_append_of_le_length long.2] using heads

/-- Two strings whose last characters differ within the last `n`. -/
theorem append_ne_of_tail {a b : String} (n : Nat)
    (long : n ≤ a.toList.reverse.length ∧ n ≤ b.toList.reverse.length)
    (apart : a.toList.reverse.take n ≠ b.toList.reverse.take n) (x y : String) :
    x ++ a ≠ y ++ b := by
  intro same
  apply apart
  have tails := congrArg (fun s : String => s.toList.reverse.take n) same
  simpa only [String.toList_append, List.reverse_append, List.take_append_of_le_length long.1,
    List.take_append_of_le_length long.2] using tails

section Keys

variable (vlan port other table : String)

theorem vlanMemberKey_eq :
    vlanMemberKey vlan port = "VLAN_MEMBER|Vlan" ++ (vlan ++ ("|" ++ port)) := by
  unfold vlanMemberKey
  rw [String.append_assoc, String.append_assoc]

theorem denyRuleKey_eq : denyRuleKey port = "ACL_RULE|DOT1X_" ++ (port ++ "|DENY_ALL") := by
  unfold denyRuleKey
  rw [String.append_assoc]

theorem eapolPermitKey_eq :
    eapolPermitKey port = "ACL_RULE|DOT1X_" ++ (port ++ "|ALLOW_EAPOL") := by
  unfold eapolPermitKey
  rw [String.append_assoc]

@[simp] theorem vlanMemberKey_ne_denyRuleKey : vlanMemberKey vlan port ≠ denyRuleKey other := by
  rw [vlanMemberKey_eq, denyRuleKey_eq]
  exact append_ne_of_take 1 (by decide) (by decide) _ _

@[simp] theorem vlanMemberKey_ne_eapolPermitKey :
    vlanMemberKey vlan port ≠ eapolPermitKey other := by
  rw [vlanMemberKey_eq, eapolPermitKey_eq]
  exact append_ne_of_take 1 (by decide) (by decide) _ _

@[simp] theorem vlanMemberKey_ne_aclTableKey : vlanMemberKey vlan port ≠ aclTableKey table := by
  rw [vlanMemberKey_eq, aclTableKey]
  exact append_ne_of_take 1 (by decide) (by decide) _ _

@[simp] theorem denyRuleKey_ne_aclTableKey : denyRuleKey port ≠ aclTableKey table := by
  rw [denyRuleKey_eq, aclTableKey]
  exact append_ne_of_take 5 (by decide) (by decide) _ _

@[simp] theorem eapolPermitKey_ne_aclTableKey : eapolPermitKey port ≠ aclTableKey table := by
  rw [eapolPermitKey_eq, aclTableKey]
  exact append_ne_of_take 5 (by decide) (by decide) _ _

/-- The two rules of one table end differently. -/
@[simp] theorem denyRuleKey_ne_eapolPermitKey : denyRuleKey port ≠ eapolPermitKey other := by
  unfold denyRuleKey eapolPermitKey
  exact append_ne_of_tail 2 (by decide) (by decide) _ _

theorem eapolTrapKey_eq : eapolTrapKey = "COPP_TRAP|" ++ "eapol" := by decide

@[simp] theorem eapolTrapKey_ne_vlanMemberKey : eapolTrapKey ≠ vlanMemberKey vlan port := by
  rw [eapolTrapKey_eq, vlanMemberKey_eq]
  exact append_ne_of_take 1 (by decide) (by decide) _ _

@[simp] theorem eapolTrapKey_ne_aclTableKey : eapolTrapKey ≠ aclTableKey table := by
  rw [eapolTrapKey_eq, aclTableKey]
  exact append_ne_of_take 1 (by decide) (by decide) _ _

@[simp] theorem denyRuleKey_inj : denyRuleKey port = denyRuleKey other ↔ port = other := by
  unfold denyRuleKey
  rw [String.append_left_inj, String.append_right_inj]

@[simp] theorem eapolPermitKey_inj : eapolPermitKey port = eapolPermitKey other ↔ port = other := by
  unfold eapolPermitKey
  rw [String.append_left_inj, String.append_right_inj]

@[simp] theorem aclTableKey_inj : aclTableKey table = aclTableKey other ↔ table = other := by
  unfold aclTableKey
  rw [String.append_right_inj]

@[simp] theorem denyTable_inj : denyTable port = denyTable other ↔ port = other := by
  unfold denyTable
  rw [String.append_right_inj]

@[simp] theorem vlanMemberKey_inj_vlan :
    vlanMemberKey vlan port = vlanMemberKey other port ↔ vlan = other := by
  unfold vlanMemberKey
  rw [String.append_left_inj, String.append_left_inj, String.append_right_inj]

end Keys

/-- The daemon's own table of a port is not an operator's. -/
theorem OperatorTable.ne_denyTable {table : String} (operator : OperatorTable table)
    (port : String) : table ≠ denyTable port := by
  rintro rfl
  exact operator ⟨port.toList, by simp [denyTable]⟩

theorem isDigit_of_foldlM {digits : List Char} {start n : Nat}
    (parsed : digits.foldlM pushDigit start = some n) : ∀ c ∈ digits, c.isDigit = true := by
  induction digits generalizing start with
  | nil => simp
  | cons d rest ih =>
      simp only [List.foldlM_cons, Option.bind_eq_bind, Option.bind_eq_some_iff] at parsed
      obtain ⟨next, here, later⟩ := parsed
      intro c member
      rcases List.mem_cons.mp member with rfl | inside
      · by_contra other
        simp [pushDigit, other] at here
      · exact ih later c inside

theorem mem_stripPlus {c : Char} {text : List Char} (member : c ∈ text) :
    c = '+' ∨ c ∈ stripPlus text := by
  unfold stripPlus
  split
  · exact List.mem_cons.mp member
  · exact Or.inr member

/-- A valid VLAN id has no key separator in it. -/
theorem bar_not_mem_of_isValidVlan {vlan : String} (valid : isValidVlan vlan = true) :
    '|' ∉ vlan.toList := by
  intro bar
  have digit : ('|').isDigit = true := by
    unfold isValidVlan parseU16 at valid
    rcases mem_stripPlus bar with plus | inside
    · revert plus
      decide
    · rw [if_neg (List.ne_nil_of_mem inside)] at valid
      cases parsed : (stripPlus vlan.toList).foldlM pushDigit 0 with
      | none => simp [parsed] at valid
      | some id => exact isDigit_of_foldlM parsed _ inside
  revert digit
  decide

/-- A text before the first separator is read back. -/
theorem append_cons_inj {sep : Char} {a b x y : List Char} (cleanA : sep ∉ a) (cleanB : sep ∉ b)
    (same : a ++ sep :: x = b ++ sep :: y) : a = b ∧ x = y := by
  induction a generalizing b with
  | nil =>
      cases b with
      | nil => simpa using same
      | cons c rest =>
          simp only [List.nil_append, List.cons_append, List.cons.injEq] at same
          exact absurd (by simp [same.1]) cleanB
  | cons c rest ih =>
      cases b with
      | nil =>
          simp only [List.nil_append, List.cons_append, List.cons.injEq] at same
          exact absurd (by simp [same.1]) cleanA
      | cons d later =>
          simp only [List.cons_append, List.cons.injEq] at same
          simp only [List.mem_cons, not_or] at cleanA cleanB
          obtain ⟨rests, tails⟩ := ih cleanA.2 cleanB.2 same.2
          exact ⟨by rw [same.1, rests], tails⟩

/-- The VLAN memberships of two ports never share a key. -/
theorem vlanMemberKey_inj {vlan other port port' : String} (valid : isValidVlan vlan = true)
    (valid' : isValidVlan other = true) (same : vlanMemberKey vlan port = vlanMemberKey other port') :
    vlan = other ∧ port = port' := by
  rw [vlanMemberKey_eq, vlanMemberKey_eq, String.append_right_inj] at same
  have texts := congrArg String.toList same
  simp only [String.toList_append] at texts
  obtain ⟨vlans, ports⟩ := append_cons_inj (bar_not_mem_of_isValidVlan valid)
    (bar_not_mem_of_isValidVlan valid') texts
  exact ⟨String.toList_injective vlans, String.toList_injective ports⟩

end Authenticator.Enforce
