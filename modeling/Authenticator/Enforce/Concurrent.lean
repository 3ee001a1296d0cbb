/-
# Enforce.Concurrent -- two port workers and one ports list

`ListAdd` and `ListRemove` are an `HGET` followed by an `HSET`; the server processes one
command at a time and the two of an operation are not held together.  Two workers that
change the ports of one ACL table may therefore read the same list and overwrite one
another.

`concurrent_lists_merge_iff` says when the list still ends as if the operations had come
one after the other.
-/
import Authenticator.Enforce.Db
import Authenticator.Theory.Interleave

namespace Authenticator.Enforce

set_option autoImplicit false

open Authenticator.Theory

/-- A command the server processes in one piece. -/
inductive Command where
  | hGet (key field : String)
  | hSet (key field value : String)
  deriving DecidableEq, Repr

/-- The server's answer and the table after a command. -/
def Command.serve (t : Table) : Command → Option String × Table
  | .hGet key field => (hget t key field, t)
  | .hSet key field value => (none, hset t key field value)

/-- A change of one port in a list field. -/
inductive ListOp where
  | add (port : String)
  | remove (port : String)
  deriving DecidableEq, Repr

namespace ListOp

def port : ListOp → String
  | .add port => port
  | .remove port => port

def op (key field : String) : ListOp → Op
  | .add port => .listAdd key field port
  | .remove port => .listRemove key field port

/-- The command sent once the read is answered; `ListRemove` of a field that is not there
sends none. -/
def followUp (key field : String) : ListOp → Option String → Option Command
  | .add port, current => some (.hSet key field (addMember port current))
  | .remove port, some current => some (.hSet key field (removeMember port current))
  | .remove _, none => none

/-- `RedisDbConn::apply` of one list operation, as a client of the server. -/
def client (key field : String) (change : ListOp) (t : Table) : Option (Table → Table) :=
  (change.followUp key field ((Command.hGet key field).serve t).1).map
    fun command t => (command.serve t).2

/-- The members a change yields from the ones before it. -/
def Yields (change : ListOp) (was : String → Prop) (name : String) : Prop :=
  match change with
  | .add port => name = port ∨ was name
  | .remove port => name ≠ port ∧ was name

/-- An added port has a name that a list field can hold. -/
def Storable (change : ListOp) : Prop := ∀ port, change = .add port → ListName port

/-- The change is in effect in a list: its port is there, or is not. -/
def Holds (change : ListOp) (current : Option String) : Prop :=
  match change with
  | .add port => port ∈ members current
  | .remove port => port ∉ members current

end ListOp

section Merge

variable {key field : String} {changes : Bool → ListOp} {t : Table}

/-- The two operations as clients of one server. -/
def listClients (key field : String) (changes : Bool → ListOp) : Interleave.Clients Table :=
  fun one => (changes one).client key field

/-- Undisturbed, the two commands are the operation. -/
theorem perform_listClients (one : Bool) :
    Interleave.perform (listClients key field changes) one t =
      ((changes one).op key field).apply t := by
  unfold Interleave.perform listClients
  cases changes one with
  | add port => rfl
  | remove port =>
      cases found : hget t key field <;>
        simp [ListOp.client, ListOp.followUp, Command.serve, ListOp.op, Op.apply, found]

/-- The members after an operation performed in one piece. -/
theorem mem_members_op {change : ListOp} (storable : change.Storable) (t : Table) (name : String) :
    name ∈ members (hget ((change.op key field).apply t) key field) ↔
      change.Yields (· ∈ members (hget t key field)) name := by
  cases change with
  | add port => exact mem_members_listAdd (storable port rfl) t key field name
  | remove port => exact mem_members_listRemove port t key field name

/-- A write that was computed from `t` and lands on another table leaves the field as it
would have left that of `t`. -/
theorem hget_client {change : ListOp} {write : Table → Table}
    (intends : change.client key field t = some write) (later : Table) :
    hget (write later) key field = hget ((change.op key field).apply t) key field := by
  cases change with
  | add port =>
      cases intends
      simp [Command.serve, ListOp.op, Op.apply, hget_hset]
  | remove port =>
      cases found : hget t key field with
      | none => simp [ListOp.client, ListOp.followUp, Command.serve, found] at intends
      | some current =>
          simp only [ListOp.client, ListOp.followUp, Command.serve, found, Option.map_some,
            Option.some.injEq] at intends
          subst intends
          simp [ListOp.op, Op.apply, found, hget_hset]

/-- The list after two concurrent changes is as if they had come one after the other. -/
structure Merged (key field : String) (changes : Bool → ListOp) (before after : Table) : Prop where
  serial : ∃ first, ∀ name, name ∈ members (hget after key field) ↔
    name ∈ members (hget (((changes (!first)).op key field).apply
      (((changes first).op key field).apply before)) key field)
  each : ∀ one, (changes one).Holds (hget after key field)
  others : ∀ name, (∀ one, name ≠ (changes one).port) →
    (name ∈ members (hget after key field) ↔ name ∈ members (hget before key field))

theorem ListOp.Yields.congr {change : ListOp} {was was' : String → Prop}
    (same : ∀ name, was name ↔ was' name) (name : String) :
    change.Yields was name ↔ change.Yields was' name := by
  cases change <;> simp only [ListOp.Yields, same]

theorem ListOp.yields_of_ne {change : ListOp} {name : String} (foreign : name ≠ change.port)
    (was : String → Prop) : change.Yields was name ↔ was name := by
  cases change with
  | add port => exact or_iff_right foreign
  | remove port => exact and_iff_right foreign

/-- A change that is in effect already yields what was there. -/
theorem ListOp.Holds.yields {change : ListOp} {current : Option String}
    (holds : change.Holds current) (name : String) :
    change.Yields (· ∈ members current) name ↔ name ∈ members current := by
  cases change with
  | add port =>
      constructor
      · rintro (rfl | member)
        · exact holds
        · exact member
      · exact Or.inr
  | remove port =>
      refine and_iff_right_of_imp ?_
      rintro member rfl
      exact holds member

/-- A change is in effect exactly when its port is there as the change yields it. -/
theorem ListOp.holds_iff {change : ListOp} {current : Option String} (was : String → Prop) :
    change.Holds current ↔ (change.port ∈ members current ↔ change.Yields was change.port) := by
  cases change <;> simp [ListOp.Holds, ListOp.Yields, ListOp.port]

theorem port_ne (distinct : (changes true).port ≠ (changes false).port) (one : Bool) :
    (changes one).port ≠ (changes (!one)).port := by
  cases one
  · exact distinct.symm
  · exact distinct

/-- Whatever has the members of a serial order is merged. -/
theorem merged_of_serial (distinct : (changes true).port ≠ (changes false).port)
    (storable : ∀ one, (changes one).Storable) {after : Table} (first : Bool)
    (same : ∀ name, name ∈ members (hget after key field) ↔
      (changes (!first)).Yields ((changes first).Yields (· ∈ members (hget t key field))) name) :
    Merged key field changes t after := by
  refine ⟨⟨first, fun name => ?_⟩, Interleave.both_of first ?_ ?_, ?_⟩
  · rw [same, mem_members_op (storable _)]
    exact ListOp.Yields.congr (fun name => (mem_members_op (storable _) t name).symm) name
  · rw [ListOp.holds_iff (· ∈ members (hget t key field)), same]
    exact ListOp.yields_of_ne (port_ne distinct first) _
  · rw [ListOp.holds_iff ((changes first).Yields (· ∈ members (hget t key field)))]
    exact same _
  · intro name foreign
    rw [same, ListOp.yields_of_ne (foreign _), ListOp.yields_of_ne (foreign _)]

theorem Merged.storable {after : Table} (merged : Merged key field changes t after) (one : Bool) :
    (changes one).Storable := by
  intro port added
  have there := merged.each one
  rw [added] at there
  exact listName_of_mem there

/-- **When concurrent changes of a ports list are not lost.**  Two list operations on
different ports, their reads and writes interleaved in any way that lets both finish, leave
the list as some sequential order of them if and only if every added port can be held by a
list field, and an operation that writes between the other's read and write was in effect
before. -/
theorem concurrent_lists_merge_iff (key field : String) (changes : Bool → ListOp) (t : Table)
    (turns : List Bool) (distinct : (changes true).port ≠ (changes false).port)
    (done : (Interleave.run (listClients key field changes) turns (Interleave.begin t)).Done) :
    Merged key field changes t
        (Interleave.run (listClients key field changes) turns (Interleave.begin t)).store ↔
      (∀ one, (changes one).Storable) ∧
        ∀ one, Interleave.overwritten (listClients key field changes) turns (Interleave.begin t) =
          some one → (changes one).Holds (hget t key field) := by
  have outcome := Interleave.run_outcome done
  generalize (Interleave.run (listClients key field changes) turns (Interleave.begin t)).store =
    after at outcome ⊢
  generalize Interleave.overwritten (listClients key field changes) turns (Interleave.begin t) =
    lost at outcome ⊢
  cases outcome with
  | serial first stored =>
      rw [perform_listClients, perform_listClients] at stored
      subst stored
      refine ⟨fun merged => ⟨merged.storable, by simp⟩, fun ⟨storable, _⟩ => ?_⟩
      refine merged_of_serial distinct storable first fun name => ?_
      rw [mem_members_op (storable _)]
      exact ListOp.Yields.congr (fun name => mem_members_op (storable _) t name) name
  | lost first write second intends other stored =>
      -- What stays is the second write, computed from the list before both.
      have final : hget after key field =
          hget (((changes (!first)).op key field).apply t) key field := by
        rw [stored]
        exact hget_client other _
      constructor
      · intro merged
        refine ⟨merged.storable, ?_⟩
        rintro one ⟨⟩
        have there := merged.each first
        rw [ListOp.holds_iff (· ∈ members (hget t key field)), final,
          mem_members_op (merged.storable _), ListOp.yields_of_ne (port_ne distinct first)] at there
        rwa [ListOp.holds_iff (· ∈ members (hget t key field))]
      · rintro ⟨storable, idle⟩
        refine merged_of_serial distinct storable first fun name => ?_
        rw [final, mem_members_op (storable _)]
        exact ListOp.Yields.congr (fun name => ((idle first rfl).yields name).symm) name

/-- Both workers read before either writes; the removal that is overwritten had nothing to
remove. -/
theorem concurrent_lists_merge_idle :
    let changes : Bool → ListOp := fun one => if one then .remove "Ethernet0" else .add "Ethernet4"
    let t : Table := hset (fun _ => none) "ACL_TABLE|EMPLOYEE" "ports" "Ethernet8"
    let turns := [true, false, true, false]
    Interleave.overwritten (listClients "ACL_TABLE|EMPLOYEE" "ports" changes) turns
        (Interleave.begin t) = some true ∧
      Merged "ACL_TABLE|EMPLOYEE" "ports" changes t
        (Interleave.run (listClients "ACL_TABLE|EMPLOYEE" "ports" changes) turns
          (Interleave.begin t)).store := by
  intro changes t turns
  refine ⟨by decide, (concurrent_lists_merge_iff _ _ _ _ _ (by decide) ?_).mpr ⟨?_, ?_⟩⟩
  · exact Interleave.both_of true rfl rfl
  · refine Interleave.both_of true ?_ ?_
    · rintro port ⟨⟩
    · rintro port ⟨⟩
      decide
  · have clobbered : Interleave.overwritten (listClients "ACL_TABLE|EMPLOYEE" "ports" changes) turns
        (Interleave.begin t) = some true := by decide
    intro one overwrites
    rw [← Option.some.inj (clobbered.symm.trans overwrites)]
    show "Ethernet0" ∉ members (some "Ethernet8")
    decide

/-- Both workers read the empty list and bind their port; the first binding is lost. -/
theorem concurrent_lists_lose_binding :
    ¬ ∀ (key field : String) (changes : Bool → ListOp) (t : Table) (turns : List Bool),
      (changes true).port ≠ (changes false).port →
      (Interleave.run (listClients key field changes) turns (Interleave.begin t)).Done →
      Merged key field changes t
        (Interleave.run (listClients key field changes) turns (Interleave.begin t)).store := by
  intro claim
  have bound := (claim "ACL_TABLE|EMPLOYEE" "ports"
    (fun one => if one then .add "Ethernet0" else .add "Ethernet4") (fun _ => none)
    [true, false, true, false] (by decide) (Interleave.both_of true rfl rfl)).each true
  have lost : "Ethernet0" ∉ members (some "Ethernet4") := by decide
  exact lost bound

end Merge

end Authenticator.Enforce
