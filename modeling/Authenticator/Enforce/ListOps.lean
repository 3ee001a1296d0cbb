/-
# Enforce.ListOps -- a ports list is a set in order of arrival

A list field is a text, and whatever text stands in it, empty items and repetitions
included, an operation reads its members, edits them and writes them back joined.
Reading back what was written is exact, so on the members `ListAdd` and `ListRemove` are
the edits of a set that keeps its order (`listed_runOps`), and the laws of a set follow
from those of the edits: `comma_list_is_set`.
-/
import Authenticator.Enforce.Concurrent

namespace Authenticator.Enforce

set_option autoImplicit false

open Authenticator.Theory Authenticator.Theory.SeparatedList

/-- The members of a list field. -/
def listed (dbs : Databases) (db : Db) (key field : String) : List String :=
  members (hget (dbs db) key field)

namespace ListOp

/-- The change as an edit of the members. -/
def edit : ListOp → Edit String
  | .add port => .add port
  | .remove port => .remove port

theorem value_edit (change : ListOp) : change.edit.value = change.port := by
  cases change <;> rfl

/-- The operation of a change, on a database. -/
def dbOp (db : Db) (key field : String) (change : ListOp) : DbOp := ⟨db, change.op key field⟩

section Edits

variable {change : ListOp} (t : Table) (key field : String)

theorem members_op (clean : ListName change.port) :
    members (hget ((change.op key field).apply t) key field) =
      change.edit.act (members (hget t key field)) := by
  cases change with
  | add port => exact members_listAdd clean t key field
  | remove port => exact members_listRemove port t key field

/-! ## Idempotence -/

theorem addMember_addMember {port : String} (clean : ListName port) (current : Option String) :
    addMember port (some (addMember port current)) = addMember port current := by
  have read : members (some (addMember port current)) = (Edit.add port).act (members current) :=
    members_addMember clean current
  show joined ((Edit.add port).act (members (some (addMember port current)))) =
    joined ((Edit.add port).act (members current))
  rw [read, Edit.act_act]

theorem removeMember_removeMember (port current : String) :
    removeMember port (removeMember port current) = removeMember port current := by
  have read : members (some (removeMember port current)) =
      (Edit.remove port).act (members (some current)) := members_removeMember port current
  show joined ((Edit.remove port).act (members (some (removeMember port current)))) =
    joined ((Edit.remove port).act (members (some current)))
  rw [read, Edit.act_act]

theorem hset_hset (x y : String) : hset (hset t key field x) key field y = hset t key field y := by
  unfold hset
  rw [Function.update_self, Function.update_idem, Option.getD_some, Function.update_idem]

/-- An operation that is repeated does nothing more. -/
theorem op_op (clean : ListName change.port) :
    (change.op key field).apply ((change.op key field).apply t) =
      (change.op key field).apply t := by
  cases change with
  | add port =>
      have named : ListName port := clean
      simp only [op, Op.apply]
      rw [hset_hset, hget_hset, if_pos rfl, addMember_addMember named]
  | remove port =>
      cases found : hget t key field with
      | none => simp only [op, Op.apply, found]
      | some current =>
          have written := hget_hset t key field (removeMember port current) field
          rw [if_pos rfl] at written
          simp only [op, Op.apply, found, written]
          rw [hset_hset, removeMember_removeMember]

end Edits

end ListOp

section Laws

variable {db : Db} {key field : String} (dbs : Databases)

theorem listed_apply {change : ListOp} (clean : ListName change.port) :
    listed ((change.dbOp db key field).apply dbs) db key field =
      change.edit.act (listed dbs db key field) := by
  unfold listed
  rw [ListOp.dbOp, DbOp.apply_self]
  exact ListOp.members_op (dbs db) key field clean

/-- **A batch of list operations edits the members**, one after the other. -/
theorem listed_runOps (changes : List ListOp) (clean : ∀ change ∈ changes, ListName change.port) :
    listed (runOps (changes.map (ListOp.dbOp db key field)) dbs) db key field =
      changes.foldl (fun held change => change.edit.act held) (listed dbs db key field) := by
  induction changes generalizing dbs with
  | nil => rfl
  | cons change rest ih =>
      have later := fun next (member : next ∈ rest) => clean next (List.mem_cons_of_mem _ member)
      rw [List.map_cons, runOps_cons, ih _ later,
        listed_apply dbs (clean change List.mem_cons_self), List.foldl_cons]

theorem listed_pair {first second : ListOp} (clean : ListName first.port)
    (clean' : ListName second.port) :
    listed (runOps [first.dbOp db key field, second.dbOp db key field] dbs) db key field =
      second.edit.act (first.edit.act (listed dbs db key field)) :=
  listed_runOps dbs [first, second] (by simp [clean, clean'])

theorem runOps_twice {change : ListOp} (clean : ListName change.port) :
    runOps [change.dbOp db key field, change.dbOp db key field] dbs =
      runOps [change.dbOp db key field] dbs := by
  simp only [runOps_cons, runOps_nil, DbOp.apply, ListOp.dbOp, Function.update_self,
    Function.update_idem, ListOp.op_op (dbs db) key field clean]

/-- Operations on different values commute, up to the order of the members. -/
theorem listed_comm {first second : ListOp} (clean : ListName first.port)
    (clean' : ListName second.port) (apart : first.port ≠ second.port) :
    (listed (runOps [first.dbOp db key field, second.dbOp db key field] dbs) db key field).Perm
      (listed (runOps [second.dbOp db key field, first.dbOp db key field] dbs) db key field) := by
  have values : first.edit.value ≠ second.edit.value := by
    rwa [ListOp.value_edit, ListOp.value_edit]
  rw [listed_pair dbs clean clean', listed_pair dbs clean' clean]
  exact Edit.act_comm values _

/-- **A list field is a set in order of arrival.**  Whatever text the field holds, or none:
after `ListAdd` its members are those before and the value last, if it was not one of them;
after `ListRemove`, those before but the value; both are idempotent on the whole database;
a value that was not there is removed again without a trace; and operations on different
values commute up to the order of the members. -/
theorem comma_list_is_set (dbs : Databases) (db : Db) (key field value : String)
    (clean : ListName value) :
    let held := listed dbs db key field
    let add := (ListOp.add value).dbOp db key field
    let remove := (ListOp.remove value).dbOp db key field
    listed (runOps [add] dbs) db key field =
        (if value ∈ held then held else held ++ [value]) ∧
      listed (runOps [remove] dbs) db key field = held.filter (· ≠ value) ∧
      runOps [add, add] dbs = runOps [add] dbs ∧
      runOps [remove, remove] dbs = runOps [remove] dbs ∧
      (value ∉ held → listed (runOps [add, remove] dbs) db key field = held) ∧
      ∀ first second : ListOp, first.port = value → ListName second.port → second.port ≠ value →
        (listed (runOps [first.dbOp db key field, second.dbOp db key field] dbs) db key field).Perm
          (listed (runOps [second.dbOp db key field, first.dbOp db key field] dbs) db key
            field) := by
  intro held add remove
  have adds : ListName (ListOp.add value).port := clean
  have removes : ListName (ListOp.remove value).port := clean
  refine ⟨listed_apply dbs adds, listed_apply dbs removes, runOps_twice dbs adds,
    runOps_twice dbs removes, ?_, ?_⟩
  · intro absent
    exact (listed_pair dbs adds removes).trans (Edit.remove_add absent)
  · rintro first second rfl clean' apart
    exact listed_comm dbs clean clean' (Ne.symm apart)

/-- A field with empty items and a repetition. -/
theorem comma_list_is_set_ragged :
    let dbs : Databases := fun _ => hset (fun _ => none) "ACL_TABLE|EMPLOYEE" "ports"
      ",Ethernet8,,Ethernet4,Ethernet8"
    let add := (ListOp.add "Ethernet0").dbOp .config "ACL_TABLE|EMPLOYEE" "ports"
    let remove := (ListOp.remove "Ethernet0").dbOp .config "ACL_TABLE|EMPLOYEE" "ports"
    listed (runOps [add, remove] dbs) .config "ACL_TABLE|EMPLOYEE" "ports" =
        ["Ethernet8", "Ethernet4", "Ethernet8"] ∧
      runOps [add, add] dbs = runOps [add] dbs := by
  intro dbs add remove
  have held : listed dbs .config "ACL_TABLE|EMPLOYEE" "ports" =
      ["Ethernet8", "Ethernet4", "Ethernet8"] := by decide
  obtain ⟨-, -, twice, -, restored, -⟩ :=
    comma_list_is_set dbs .config "ACL_TABLE|EMPLOYEE" "ports" "Ethernet0" (by decide)
  exact ⟨(restored (by rw [held]; decide)).trans held, twice⟩

end Laws

end Authenticator.Enforce
