/-
# Authd.AcctIds -- which accounting session an Acct-Session-Id names

An id is the port, the MAC and a number, and it is read back from them in one way only
(`acctName_inj`).  It is allocated with the first accounting request of a MAC and kept with
the RADIUS state of that MAC, which outlives its sessions.  So an id names a MAC, on its
port, and not one of its sessions: ids tell sessions apart exactly while no MAC starts a
second one (`acct_ids_identify_iff`).
-/
import Authenticator.Radius.Carried
import Authenticator.Pae.Accounting
import Authenticator.Authd.Bounded
import Authenticator.Authd.Trace

namespace Authenticator.Authd

set_option autoImplicit false

open Authenticator.Pacp Authenticator.Pae Authenticator.Radius Authenticator.Theory
open Orchestrator (acctName)

/-! ## Names are read back in one way -/

theorem hexDigit_inj {m n : Nat} (small : m < 16) (small' : n < 16)
    (same : hexDigit m = hexDigit n) : m = n := by
  have all : ∀ i j : Fin 16, hexDigit i = hexDigit j → i = j := by decide
  exact Fin.val_eq_of_eq (all ⟨m, small⟩ ⟨n, small'⟩ same)

theorem hexOctet_inj {b b' : UInt8} (same : hexOctet b = hexOctet b') : b = b' := by
  have size := b.toNat_lt
  have size' := b'.toNat_lt
  obtain ⟨high, low⟩ := List.cons.inj same
  have upper := hexDigit_inj (by omega) (by omega) high
  have lower := hexDigit_inj (by omega) (by omega) (List.cons.inj low).1
  exact UInt8.toNat_inj.mp (by omega)

/-- **A MAC is known by its text.** -/
theorem formatMac_inj {mac mac' : MacAddr} (same : formatMac mac = formatMac mac') : mac = mac' := by
  obtain ⟨a, b, c, d, e, f, rfl, octets⟩ := mac_eq mac
  obtain ⟨a', b', c', d', e', f', rfl, octets'⟩ := mac_eq mac'
  have chars := congrArg String.toList same
  simp only [formatMac, octets, octets', String.toList_ofList, List.map_cons, List.map_nil,
    List.intercalate, List.intersperse, List.flatten_cons, List.flatten_nil, hexOctet,
    List.cons_append, List.nil_append, List.cons.injEq, true_and, and_true] at chars
  obtain ⟨a₁, a₂, b₁, b₂, c₁, c₂, d₁, d₂, e₁, e₂, f₁, f₂⟩ := chars
  have equal : ∀ {x y : UInt8}, hexDigit (x.toNat / 16) = hexDigit (y.toNat / 16) →
      hexDigit (x.toNat % 16) = hexDigit (y.toNat % 16) → x = y := by
    intro x y high low
    exact hexOctet_inj (by rw [hexOctet, hexOctet, high, low])
  rw [equal a₁ a₂, equal b₁ b₂, equal c₁ c₂, equal d₁ d₂, equal e₁ e₂, equal f₁ f₂]

/-- A text is known by its octets. -/
theorem utf8_inj {s t : String} (same : utf8 s = utf8 t) : s = t := by
  have octets : s.toList.utf8Encode = t.toList.utf8Encode := by
    unfold List.utf8Encode
    exact congrArg List.toByteArray same
  rw [← String.ofList_toList (s := s), ← String.ofList_toList (s := t), ← String.toByteArray_inj,
    String.toByteArray_ofList, String.toByteArray_ofList, octets]

/-- What stands behind the last separator. -/
theorem last_separator {α : Type} (a a' : List α) {b b' : List α} {c : α} (plain : c ∉ b) (plain' : c ∉ b')
    (same : a ++ c :: b = a' ++ c :: b') : a = a' ∧ b = b' := by
  rcases List.append_eq_append_iff.mp same with ⟨t, rfl, rest⟩ | ⟨t, rfl, rest⟩
  · cases t with
    | nil => simpa using rest
    | cons x t =>
        obtain ⟨rfl, rfl⟩ := List.cons.inj rest
        simp at plain
  · cases t with
    | nil => simpa using rest.symm
    | cons x t =>
        obtain ⟨rfl, rfl⟩ := List.cons.inj rest
        simp at plain'

/-- **A name is that of one port and one MAC.** -/
theorem acctName_inj {port port' : String} {mac mac' : MacAddr} {n n' : UInt64}
    (same : acctName port mac n = acctName port' mac' n') : port = port' ∧ mac = mac' := by
  have digits : ∀ n : UInt64, '-' ∉ (toString n.toNat).toList := by
    intro n member
    rw [Nat.toString_eq_repr, Nat.toList_repr] at member
    exact absurd (Nat.isDigit_of_mem_toDigits (by decide) (by decide) member) (by decide)
  have chars := congrArg String.toList same
  simp only [acctName, String.toList_append, List.append_assoc] at chars
  have dash : "-".toList = ['-'] := by decide
  rw [dash] at chars
  simp only [List.singleton_append] at chars
  have front := (last_separator (port.toList ++ '-' :: (formatMac mac).toList)
    (port'.toList ++ '-' :: (formatMac mac').toList) (digits n) (digits n')
    (by simpa using chars)).1
  have sizes : ('-' :: (formatMac mac).toList).length = ('-' :: (formatMac mac').toList).length := by
    simp only [List.length_cons, length_formatMac]
  obtain ⟨ports, macs⟩ := List.append_inj' front sizes
  exact ⟨String.toList_inj.mp ports, formatMac_inj (String.toList_inj.mp (List.cons.inj macs).2)⟩

/-! ## The id of a MAC -/

namespace Orchestrator

/-- Naming the accounting session of a MAC names no other, and renames none. -/
theorem acctId_acctIdFor (o : Orchestrator) (mac : MacAddr) :
    (∀ other, ((o.acctIdFor mac).2.session other).acctId =
      if other = mac then some (o.acctIdFor mac).1 else (o.session other).acctId) ∧
    ((o.session mac).acctId = some (o.acctIdFor mac).1 ∨
      ∃ n, (o.session mac).acctId = none ∧ (o.acctIdFor mac).1 = acctName o.port mac n) := by
  rw [o.acctId_session mac]
  unfold Orchestrator.acctIdFor
  split
  · rename_i existing known
    refine ⟨fun other => ?_, Or.inl known⟩
    split
    · rename_i same
      rw [same, o.acctId_session mac, known]
    · rfl
  · rename_i unknown
    refine ⟨fun other => ?_, Or.inr ⟨o.acctCounter + 1, unknown, rfl⟩⟩
    dsimp only
    rw [session_setSession]
    split <;> rfl

end Orchestrator

section Ids

variable {ω : Type}

/-- Numbering an Accounting-Request renames nothing. -/
theorem World.acctId_counted (w : World ω) (mac other : MacAddr) :
    ((w.counted mac).orch.session other).acctId =
      ((w.orch.acctIdFor mac).2.session other).acctId := by
  show ((Orchestrator.setSession _ _ _).session other).acctId = _
  rw [Orchestrator.session_setSession]
  split
  · rename_i same
    rw [same]
  · rfl

variable [RadiusProto] (deps : Deps ω)

/-- **Only accounting names a session**, and a name stays. -/
theorem acctId_dispatch (de : DirectedEffect) (w : World ω) (mac : MacAddr) :
    ((dispatch deps de w).2.orch.session mac).acctId = (w.orch.session mac).acctId ∨
      ((w.orch.session mac).acctId = none ∧
        ∃ n, ((dispatch deps de w).2.orch.session mac).acctId = some (acctName w.orch.port mac n)) := by
  cases asked : de.asks with
  | none =>
      rw [dispatch_quietly deps asked]
      unfold quietly
      split
      · rw [Orchestrator.session_setSession]
        split
        · rename_i same
          rw [same]
          exact Or.inl rfl
        · exact Or.inl rfl
      · rename_i station trigger
        obtain ⟨sessions, allocated⟩ := w.orch.acctId_acctIdFor station
        rw [w.acctId_counted, sessions]
        split
        · rename_i same
          subst same
          rcases allocated with known | ⟨n, unknown, named⟩
          · exact Or.inl known.symm
          · exact Or.inr ⟨unknown, n, by rw [named]⟩
        · exact Or.inl rfl
      · exact Or.inl rfl
  | some station =>
      obtain ⟨build, same, -⟩ := dispatch_asks deps asked
      obtain ⟨radius, -, -, sessions, -⟩ := roundTrip_sessions deps station build w
      rw [same, sessions]
      split
      · rename_i own
        rw [own]
        exact Or.inl rfl
      · exact Or.inl rfl

end Ids

/-! ## The accounting requests of a run -/

/-- An Accounting-Request that was sent. -/
structure AcctRecord where
  mac : MacAddr
  trigger : AcctTrigger
  request : Packet

section Runs

variable {ω : Type} [RadiusProto] (deps : Deps ω)

/-- The Accounting-Request that is sent at a moment. -/
def acctRecordAt : Moment ω → Option AcctRecord
  | .act _ ⟨some mac, .accounting trigger⟩ w =>
      (builtAccounting deps mac trigger w).toOption.map fun request => ⟨mac, trigger, request⟩
  | _ => none

/-- The Accounting-Requests of a history, in order. -/
def acctRecords (history : List (Moment ω)) : List AcctRecord := history.filterMap (acctRecordAt deps)

/-- The `Acct-Session-Id` of a request. -/
def acctSessionId (request : Packet) : Option Bytes :=
  (RadiusProto.findAttribute request AttributeType.acctSessionId).map Attribute.value

/-- How many accounting sessions of a MAC were started. -/
def startsOf (mac : MacAddr) (sent : List AcctRecord) : Nat :=
  periods AcctRecord.mac (fun a => a.trigger.isStart) mac sent

/-- The accounting session of the last request: its MAC, and how many it has started. -/
def sessionOf (before : List AcctRecord) (a : AcctRecord) : MacAddr × Nat :=
  (a.mac, startsOf a.mac (before ++ [a]))

/-- The requests of a history carry the ids of their MACs. -/
structure Carrying (port : String) (before : List (Moment ω)) (w : World ω) : Prop where
  own : w.orch.port = port
  named : ∀ mac, ∀ id ∈ (w.orch.session mac).acctId, ∃ n, id = acctName port mac n
  carried : ∀ a ∈ acctRecords deps before, ∃ id ∈ (w.orch.session a.mac).acctId,
    acctSessionId a.request = some (utf8 id)

variable {deps} {port : String} {before : List (Moment ω)} {w : World ω}

theorem Carrying.feed (carrying : Carrying deps port before w) (mac : MacAddr) (event : Event) :
    Carrying deps port (before ++ [.expand (mac, event) w]) (feedPae mac event w).2 := by
  refine ⟨carrying.own, carrying.named, ?_⟩
  have same : acctRecords deps (before ++ [.expand (mac, event) w]) = acctRecords deps before := by
    simp [acctRecords, acctRecordAt]
  rw [same]
  exact carrying.carried

/-- The request of a moment carries the id its MAC has afterwards. -/
theorem carried_acctRecordAt [LawfulRadiusProto] {task : MacAddr × Event} {de : DirectedEffect}
    {a : AcctRecord} (sent : acctRecordAt deps (.act task de w) = some a) :
    ∃ id ∈ ((dispatch deps de w).2.orch.session a.mac).acctId,
      acctSessionId a.request = some (utf8 id) := by
  unfold acctRecordAt at sent
  split at sent
  · rename_i mac trigger _ same
    cases same
    obtain ⟨request, made, rfl⟩ := Option.map_eq_some_iff.mp sent
    have built : builtAccounting deps mac trigger w = .ok request := by
      cases outcome : builtAccounting deps mac trigger w with
      | error e =>
          rw [outcome] at made
          cases made
      | ok packet =>
          rw [outcome] at made
          cases made
          rfl
    refine ⟨(w.orch.acctIdFor mac).1, ?_, ?_⟩
    · rw [dispatch_quietly deps rfl]
      show _ ∈ ((w.counted mac).orch.session mac).acctId
      rw [w.acctId_counted, (w.orch.acctId_acctIdFor mac).1, if_pos rfl]
      rfl
    · exact accountingRequest_sessionId (mapError_eq_ok.mp built)
  · cases sent

theorem Carrying.act [LawfulRadiusProto] (carrying : Carrying deps port before w)
    (task : MacAddr × Event) (de : DirectedEffect) :
    Carrying deps port (before ++ [.act task de w]) (dispatch deps de w).2 := by
  obtain ⟨calls, performed⟩ := dispatch_performed deps de w
  refine ⟨performed.port.trans carrying.own, ?_, ?_⟩
  · intro mac id known
    rcases acctId_dispatch deps de w mac with kept | ⟨-, n, named⟩
    · rw [kept] at known
      exact carrying.named mac id known
    · rw [named] at known
      cases known
      exact ⟨n, by rw [carrying.own]⟩
  · intro a member
    rw [acctRecords, List.filterMap_append] at member
    rcases List.mem_append.mp member with old | new
    · obtain ⟨id, known, carried⟩ := carrying.carried a old
      rcases acctId_dispatch deps de w a.mac with kept | ⟨unknown, -⟩
      · exact ⟨id, by rw [kept]; exact known, carried⟩
      · rw [unknown] at known
        cases known
    · obtain ⟨x, inside, sent⟩ := List.mem_filterMap.mp new
      rw [List.mem_singleton.mp inside] at sent
      exact carried_acctRecordAt sent

/-- **At the end of a run, its requests carry the ids of their MACs.** -/
theorem carrying_history [LawfulRadiusProto] (deps : Deps ω) (port : String)
    (ctxTemplate : RequestContext) (cfg : PaeConfig) (env : ω) (inputs : List (MacAddr × Event)) :
    Carrying deps port (history deps (.start port ctxTemplate cfg env) inputs)
      (serve deps (.start port ctxTemplate cfg env) inputs) := by
  refine history_invariant (fun mac event _ _ carrying => carrying.feed mac event)
    (fun task de _ _ carrying => carrying.act task de) ⟨rfl, ?_, ?_⟩ inputs
  · intro mac id known
    cases known
  · intro a member
    cases member

/-- The requests of one run carry one id exactly if they are of one MAC. -/
theorem Carrying.acctSessionId_eq_iff (carrying : Carrying deps port before w) {a b : AcctRecord}
    (member : a ∈ acctRecords deps before) (member' : b ∈ acctRecords deps before) :
    acctSessionId a.request = acctSessionId b.request ↔ a.mac = b.mac := by
  obtain ⟨id, known, carried⟩ := carrying.carried a member
  obtain ⟨id', known', carried'⟩ := carrying.carried b member'
  rw [carried, carried', Option.some.injEq]
  constructor
  · intro same
    obtain ⟨n, name⟩ := carrying.named a.mac id known
    obtain ⟨n', name'⟩ := carrying.named b.mac id' known'
    have one := utf8_inj same
    rw [name, name'] at one
    exact (acctName_inj one).2
  · intro same
    rw [same, Option.mem_def, Option.mem_def.mp known'] at known
    rw [Option.some.inj known]

/-- The requests of two ports carry different ids. -/
theorem Carrying.acctSessionId_ne {ω' : Type} {deps' : Deps ω'} {port' : String}
    {before' : List (Moment ω')} {w' : World ω'} (carrying : Carrying deps port before w)
    (carrying' : Carrying deps' port' before' w') (apart : port' ≠ port) {a b : AcctRecord}
    (member : a ∈ acctRecords deps before) (member' : b ∈ acctRecords deps' before') :
    acctSessionId a.request ≠ acctSessionId b.request := by
  obtain ⟨id, known, carried⟩ := carrying.carried a member
  obtain ⟨id', known', carried'⟩ := carrying'.carried b member'
  obtain ⟨n, name⟩ := carrying.named a.mac id known
  obtain ⟨n', name'⟩ := carrying'.named b.mac id' known'
  rw [carried, carried', name, name']
  intro same
  exact apart (acctName_inj (utf8_inj (Option.some.inj same))).1.symm

end Runs

/-! ## The main result -/

section Main

variable {ω : Type} [RadiusProto]

/-- The ids of the requests of a port identify its accounting sessions: two requests carry the
same id if and only if they belong to the same session, and no run of a port of another name
sends one of these ids. -/
structure Identifies (port : String) (sent : List AcctRecord) : Prop where
  sessions : ∀ before a before' b, before ++ [a] <+: sent → before' ++ [b] <+: sent →
    (acctSessionId a.request = acctSessionId b.request ↔ sessionOf before a = sessionOf before' b)
  ports : ∀ (ω' : Type) (deps' : Deps ω') (port' : String) (ctxTemplate : RequestContext)
    (cfg : PaeConfig) (env : ω') (inputs : List (MacAddr × Event)), port' ≠ port →
    ∀ a ∈ sent, ∀ b ∈ acctRecords deps' (history deps' (.start port' ctxTemplate cfg env) inputs),
      acctSessionId a.request ≠ acctSessionId b.request

/-- A Start of a MAC for which something was accounted before. -/
def StartsAgain (before : List AcctRecord) (a : AcctRecord) : Prop :=
  a.trigger.isStart = true ∧ ∃ b ∈ before, b.mac = a.mac

/-- **Ids identify sessions exactly while no MAC starts a second one.**  In every run, with any
boundaries: the ids of its Accounting-Requests identify accounting sessions, among themselves and
against every other port, if and only if every Start is the first request of its MAC. -/
theorem acct_ids_identify_iff [LawfulRadiusProto] (deps : Deps ω) (port : String)
    (ctxTemplate : RequestContext) (cfg : PaeConfig) (env : ω) (inputs : List (MacAddr × Event)) :
    Identifies port (acctRecords deps (history deps (.start port ctxTemplate cfg env) inputs)) ↔
      Never StartsAgain
        (acctRecords deps (history deps (.start port ctxTemplate cfg env) inputs)) := by
  have carrying := carrying_history deps port ctxTemplate cfg env inputs
  generalize serve deps (.start port ctxTemplate cfg env) inputs = w at carrying
  generalize history deps (.start port ctxTemplate cfg env) inputs = moments at carrying ⊢
  have inside : ∀ before a, before ++ [a] <+: acctRecords deps moments →
      a ∈ acctRecords deps moments :=
    fun before a within => within.subset (by simp)
  have agree : (∀ before a before' b, before ++ [a] <+: acctRecords deps moments →
      before' ++ [b] <+: acctRecords deps moments →
      (acctSessionId a.request = acctSessionId b.request ↔
        sessionOf before a = sessionOf before' b)) ↔
      Never StartsAgain (acctRecords deps moments) := by
    refine Iff.trans ?_ (periods_agree_iff AcctRecord.mac fun a => a.trigger.isStart)
    refine forall₄_congr fun before a before' b => ?_
    refine forall₂_congr fun within within' => ?_
    rw [carrying.acctSessionId_eq_iff (inside before a within) (inside before' b within'),
      sessionOf, sessionOf, Prod.mk.injEq]
    exact ⟨fun same mac => (same.mp mac).2, fun same => ⟨fun mac => ⟨mac, same mac⟩, And.left⟩⟩
  refine ⟨fun identifies => agree.mp identifies.sessions, fun once => ⟨agree.mpr once, ?_⟩⟩
  intro ω' deps' port' ctxTemplate' cfg' env' inputs' apart a member b member'
  exact carrying.acctSessionId_ne (carrying_history deps' port' ctxTemplate' cfg' env' inputs')
    apart member member'

end Main

section Witness

attribute [local instance] Site.proto

/-- An accept of the second request. -/
def secondAccept : Packet := { Site.accept with identifier := 1 }

/-- The station is bypassed, and logs off. -/
def visit : List (MacAddr × Event) := Site.bypass ++ [(Site.station, .eapolLogoff)]

def visitScript : Site.Script := ⟨[.ok Site.accept, .ok secondAccept], [.ok (), .ok (), .ok ()]⟩

def visitRecords : List AcctRecord :=
  acctRecords Site.deps (history Site.deps (Site.start visitScript) visit)

/-- One visit: the Start and the Stop are of one session, and carry one id. -/
theorem acct_ids_identify_visit :
    visitRecords.map AcctRecord.trigger = [.start, .stop .supplicantLogoff] ∧
      Identifies "Ethernet4" visitRecords := by
  have lawful : LawfulRadiusProto := Site.lawful
  have triggers : visitRecords.map AcctRecord.trigger = [.start, .stop .supplicantLogoff] := by
    decide +kernel
  refine ⟨triggers, ?_⟩
  refine (acct_ids_identify_iff Site.deps "Ethernet4" Site.context Site.config visitScript
    visit).mpr ?_
  rintro before a within ⟨opening, b, member, -⟩
  have read : (before ++ [a]).map AcctRecord.trigger <+: [.start, .stop .supplicantLogoff] := by
    rw [← triggers]
    exact within.map AcctRecord.trigger
  cases before with
  | nil => cases member
  | cons first rest =>
      rw [List.cons_append, List.map_cons, List.cons_prefix_cons] at read
      cases rest with
      | nil =>
          have stop : a.trigger = .stop .supplicantLogoff := by simpa using read.2
          rw [stop] at opening
          cases opening
      | cons second rest => simpa using read.2.length_le

/-- The station visits twice. -/
def revisitRecords : List AcctRecord :=
  acctRecords Site.deps (history Site.deps (Site.start visitScript) (visit ++ Site.bypass))

def firstStart : Fin revisitRecords.length := ⟨0, by decide +kernel⟩

def secondStart : Fin revisitRecords.length := ⟨2, by decide +kernel⟩

/-- The second session of the station carries the id of the first. -/
theorem second_session_reuses_id :
    ¬ ∀ (deps : Deps Site.Script) (port : String) (ctxTemplate : RequestContext) (cfg : PaeConfig)
      (env : Site.Script) (inputs : List (MacAddr × Event)),
      Identifies port (acctRecords deps (history deps (.start port ctxTemplate cfg env) inputs)) := by
  intro claim
  have identifies : Identifies "Ethernet4" revisitRecords :=
    claim Site.deps "Ethernet4" Site.context Site.config visitScript (visit ++ Site.bypass)
  have same := (identifies.sessions _ _ _ _ (prefix_at revisitRecords firstStart)
    (prefix_at revisitRecords secondStart)).mp (by decide +kernel)
  have different : sessionOf (revisitRecords.take firstStart) (revisitRecords.get firstStart) ≠
      sessionOf (revisitRecords.take secondStart) (revisitRecords.get secondStart) := by
    decide +kernel
  exact different same

end Witness

end Authenticator.Authd
