/-
# Authd.Config -- the daemon configuration and its validation

`AuthdConfig::validate` runs once, before any port is served; `validate_ok_iff` says what
it accepts.  The PAE policies of the ports go through it unread, their fallback VLANs
included, and the enforcer is the first to look at these: `validated_fallbacks_iff`.
-/
import Authenticator.Enforce.Enforcer
import Authenticator.Pae.Fallback

namespace Authenticator.Authd

set_option autoImplicit false

open Authenticator.Pacp Authenticator.Pae Authenticator.Enforce Authenticator.Theory

/-- How to reach the authentication server over RadSec. -/
structure RadiusConfig where
  serverAddr : String
  serverName : String
  caPem : Bytes
  clientCertPem : Bytes
  clientKeyPem : Bytes
  deriving DecidableEq

/-- The interface name of a port and its PAE policy. -/
structure PortConfig where
  name : String
  pae : PaeConfig
  deriving DecidableEq

structure AuthdConfig where
  radius : RadiusConfig
  ports : List PortConfig
  ioTimeoutSecs : UInt64
  deriving DecidableEq

inductive ConfigError where
  | noPorts
  | duplicatePort (port : String)
  | emptyField (field : String)
  | badTimeout
  | badServerAddr (addr : String)
  deriving DecidableEq, Repr

/-- A fat-fingered value must not let one round trip block a port for minutes. -/
def maxIoTimeoutSecs : UInt64 := 120

/-- `str::rsplit_once`: the text before and after the last `sep`. -/
def rsplitOnce (sep : Char) (text : String) : Option (String × String) :=
  match text.toList.reverse.dropWhile (· ≠ sep) with
  | [] => none
  | _ :: before =>
      some (String.ofList before.reverse,
        String.ofList (text.toList.reverse.takeWhile (· ≠ sep)).reverse)

/-- `host:port` with a parseable, non-zero port. -/
def isHostPort (addr : String) : Bool :=
  match rsplitOnce ':' addr with
  | some (host, port) => host ≠ "" ∧ (parseU16 port).any (· ≠ 0)
  | none => false

/-- Fail with `e` unless the condition holds. -/
def ensure (condition : Prop) [Decidable condition] (e : ConfigError) : Except ConfigError Unit :=
  if condition then .ok () else .error e

/-- The names of the ports, against those seen before. -/
def checkPorts (seen : List String) : List PortConfig → Except ConfigError Unit
  | [] => .ok ()
  | port :: rest => do
      ensure (port.name ≠ "") (.emptyField "port.name")
      ensure (port.name ∉ seen) (.duplicatePort port.name)
      checkPorts (port.name :: seen) rest

/-- Validate the configuration; the error is the first problem found. -/
def AuthdConfig.validate (config : AuthdConfig) : Except ConfigError Unit := do
  ensure (¬ (config.ioTimeoutSecs = 0 ∨ maxIoTimeoutSecs < config.ioTimeoutSecs)) .badTimeout
  ensure (config.radius.serverAddr ≠ "") (.emptyField "radius.server_addr")
  ensure (isHostPort config.radius.serverAddr = true) (.badServerAddr config.radius.serverAddr)
  ensure (config.radius.serverName ≠ "") (.emptyField "radius.server_name")
  ensure (config.radius.caPem ≠ []) (.emptyField "radius.ca_pem")
  ensure (config.radius.clientCertPem ≠ []) (.emptyField "radius.client_cert_pem")
  ensure (config.radius.clientKeyPem ≠ []) (.emptyField "radius.client_key_pem")
  ensure (config.ports ≠ []) .noPorts
  checkPorts [] config.ports

/-! ## What is accepted -/

/-- The configurations that `validate` accepts. -/
structure AuthdConfig.WellFormed (config : AuthdConfig) : Prop where
  timeout : config.ioTimeoutSecs ≠ 0 ∧ config.ioTimeoutSecs ≤ maxIoTimeoutSecs
  server : isHostPort config.radius.serverAddr = true
  serverName : config.radius.serverName ≠ ""
  credentials : config.radius.caPem ≠ [] ∧ config.radius.clientCertPem ≠ [] ∧
    config.radius.clientKeyPem ≠ []
  served : config.ports ≠ []
  named : ∀ port ∈ config.ports, port.name ≠ ""
  distinct : (config.ports.map PortConfig.name).Nodup

theorem ensure_bind_ok {condition : Prop} [Decidable condition] {e : ConfigError}
    {rest : Except ConfigError Unit} :
    (ensure condition e >>= fun _ => rest) = .ok () ↔ condition ∧ rest = .ok () := by
  unfold ensure
  split
  · rename_i holds
    exact ⟨fun passed => ⟨holds, passed⟩, fun both => both.2⟩
  · rename_i fails
    refine ⟨fun refused => ?_, fun both => absurd both.1 fails⟩
    cases refused

theorem checkPorts_ok_iff (ports : List PortConfig) (seen : List String) :
    checkPorts seen ports = .ok () ↔
      (∀ port ∈ ports, port.name ≠ "") ∧ (ports.map PortConfig.name).Nodup ∧
        ∀ port ∈ ports, port.name ∉ seen := by
  induction ports generalizing seen with
  | nil => simp [checkPorts]
  | cons port rest ih =>
      rw [checkPorts, ensure_bind_ok, ensure_bind_ok, ih]
      simp only [List.mem_cons, forall_eq_or_imp, List.map_cons, List.nodup_cons, List.mem_map,
        not_or]
      constructor
      · rintro ⟨own, fresh, named, distinct, later⟩
        refine ⟨⟨own, named⟩, ⟨?_, distinct⟩, fresh, fun other member => (later other member).2⟩
        rintro ⟨other, member, same⟩
        exact (later other member).1 same
      · rintro ⟨⟨own, named⟩, ⟨alone, distinct⟩, fresh, later⟩
        refine ⟨own, fresh, named, distinct, fun other member => ⟨?_, later other member⟩⟩
        intro same
        exact alone ⟨other, member, same⟩

/-- **What `validate` accepts.** -/
theorem AuthdConfig.validate_ok_iff (config : AuthdConfig) :
    config.validate = .ok () ↔ config.WellFormed := by
  unfold validate
  simp only [ensure_bind_ok, checkPorts_ok_iff]
  constructor
  · rintro ⟨timeout, -, server, serverName, ca, cert, key, served, named, distinct, -⟩
    rw [not_or, UInt64.not_lt] at timeout
    exact ⟨timeout, server, serverName, ⟨ca, cert, key⟩, served, named, distinct⟩
  · intro formed
    have address : config.radius.serverAddr ≠ "" := by
      intro empty
      have server := formed.server
      rw [empty] at server
      revert server
      decide
    refine ⟨?_, address, formed.server, formed.serverName, formed.credentials.1,
      formed.credentials.2.1, formed.credentials.2.2, formed.served, formed.named, formed.distinct,
      by simp⟩
    rw [not_or, UInt64.not_lt]
    exact formed.timeout

/-- A configuration the daemon starts with. -/
structure ValidConfig extends AuthdConfig where
  valid : toAuthdConfig.validate = .ok ()

/-! ## The fallback VLANs of a validated configuration -/

/-- No error of the program is about a VLAN. -/
def SparesVlan {ε ω α : Type} (m : Prog (SonicError ε) (SonicEnforcer ω) α) : Prop :=
  ∀ s v, (m s).1 ≠ .error (.invalidVlan v)

section SparesVlan

variable {ε ω : Type} {conn : DbConn ε ω}

theorem SparesVlan.bind {α β : Type} {m : Prog (SonicError ε) (SonicEnforcer ω) α}
    {f : α → Prog (SonicError ε) (SonicEnforcer ω) β} (first : SparesVlan m)
    (second : ∀ a, SparesVlan (f a)) : SparesVlan (m >>= f) := by
  intro s v
  rcases ran : m s with ⟨e | a, s'⟩
  · rw [Prog.bind_error ran]
    have spared := first s v
    rw [ran] at spared
    simpa using spared
  · rw [Prog.bind_ok ran]
    exact second a s' v

theorem sparesVlan_onConn {α : Type} (m : Prog ε ω α) : SparesVlan (SonicEnforcer.onConn m) := by
  intro s v
  show (m s.conn).1.mapError SonicError.backend ≠ _
  cases (m s.conn).1 <;> simp [Except.mapError]

theorem sparesVlan_requirePresent (db : Db) (key : String) :
    SparesVlan (SonicEnforcer.requirePresent conn db key) := by
  refine (sparesVlan_onConn _).bind fun found => ?_
  cases found <;> intro s v same <;> cases same

theorem sparesVlan_requireAbsent (db : Db) (key : String) :
    SparesVlan (SonicEnforcer.requireAbsent conn db key) := by
  refine (sparesVlan_onConn _).bind fun found => ?_
  cases found <;> intro s v same <;> cases same

theorem sparesVlan_confirmLanded (port : String) (new : Desired) :
    SparesVlan (SonicEnforcer.confirmLanded conn port new) := by
  unfold SonicEnforcer.confirmLanded
  split
  · split
    · exact sparesVlan_requirePresent _ _
    · exact sparesVlan_requireAbsent _ _
  · exact sparesVlan_requirePresent _ _

/-- The enforcer refuses a fallback VLAN exactly when it is no SONiC VLAN id. -/
theorem apply_invalidVlan_iff (s : SonicEnforcer ω) (port : String) (target : Target)
    (reason : FallbackReason) (v : String) :
    (SonicEnforcer.apply conn port target (.fallback reason (some v)) s).1 =
        .error (.invalidVlan v) ↔ isValidVlan v = false := by
  let new : Desired := { authorized := true, vlan := some v }
  have started : SonicEnforcer.apply conn port target (.fallback reason (some v)) =
      (do
        SonicEnforcer.checkVlan new
        SonicEnforcer.checkFilter conn new
        let old ← SonicEnforcer.previous port
        SonicEnforcer.onConn (conn.apply (transition port old new))
        SonicEnforcer.confirmLanded conn port new
        SonicEnforcer.remember port new) := rfl
  rw [started]
  cases valid : isValidVlan v with
  | false =>
      have refused : (SonicEnforcer.checkVlan new : Prog (SonicError ε) _ _) s =
          (.error (.invalidVlan v), s) := by
        simp [SonicEnforcer.checkVlan, new, valid, Prog.fail]
      rw [Prog.bind_error refused]
      simp
  | true =>
      have passed : (SonicEnforcer.checkVlan new : Prog (SonicError ε) _ _) s = (.ok (), s) := by
        simp [SonicEnforcer.checkVlan, new, valid]
        rfl
      rw [Prog.bind_ok passed]
      have spared : SparesVlan (do
          SonicEnforcer.checkFilter conn new
          let old ← SonicEnforcer.previous port
          SonicEnforcer.onConn (conn.apply (transition port old new))
          SonicEnforcer.confirmLanded conn port new
          SonicEnforcer.remember port new) := by
        refine SparesVlan.bind (fun s v same => by cases same) fun _ => ?_
        refine SparesVlan.bind (fun s v same => by cases same) fun _ => ?_
        refine (sparesVlan_onConn _).bind fun _ => ?_
        refine (sparesVlan_confirmLanded _ _).bind fun _ => ?_
        intro s v same
        cases same
      simp [spared s v]

end SparesVlan

/-- **When a validated configuration is enforceable.**  On a port of a validated
configuration, every fallback VLAN that some run asks for passes the enforcer's VLAN check,
so that `apply` never refuses it, if and only if the VLANs in use are SONiC VLAN ids: those
for a reject and an outage, and the guest VLAN unless MAB takes its place. -/
theorem validated_fallbacks_iff (config : ValidConfig) :
    ∀ port ∈ config.ports,
      (∀ inputs, ∀ de ∈ (portMachine.run (.new port.pae) inputs).2, ∀ reason v,
        de.effect = .setAuthorization (.fallback reason (some v)) →
          isValidVlan v = true ∧
            ∀ (ε ω : Type) (conn : DbConn ε ω) (s : SonicEnforcer ω) (target : Target),
              (SonicEnforcer.apply conn port.name target (.fallback reason (some v)) s).1 ≠
                .error (.invalidVlan v)) ↔
      ∀ reason v, port.pae.fallbackInUse reason = some v → isValidVlan v = true := by
  intro port _
  constructor
  · intro accepted reason v used
    obtain ⟨inputs, de, member, parks⟩ := (fallback_emitted_iff port.pae reason v).mpr used
    exact (accepted inputs de member reason v parks).1
  · intro valid inputs de member reason v parks
    have used := valid reason v
      ((fallback_emitted_iff port.pae reason v).mp ⟨inputs, de, member, parks⟩)
    refine ⟨used, fun ε ω conn s target refused => ?_⟩
    rw [apply_invalidVlan_iff, used] at refused
    cases refused

/-- A configuration with one port. -/
def onePort (pae : PaeConfig) : AuthdConfig where
  radius := { serverAddr := "radius.example:2083", serverName := "radius.example",
              caPem := [1], clientCertPem := [2], clientKeyPem := [3] }
  ports := [{ name := "Ethernet0", pae := pae }]
  ioTimeoutSecs := 5

theorem onePort_valid (pae : PaeConfig) : (onePort pae).validate = .ok () := by
  rw [AuthdConfig.validate_ok_iff]
  refine ⟨?_, ?_, ?_, ?_, ?_, ?_, ?_⟩ <;> simp [onePort] <;> decide

/-- A port with numeric fallback VLANs. -/
def numericFallbacks : PaeConfig := { authFailVlan := some "666", criticalVlan := some "900" }

theorem validated_fallbacks_numeric :
    (onePort numericFallbacks).validate = .ok () ∧
      ∀ inputs, ∀ de ∈ (portMachine.run (.new numericFallbacks) inputs).2, ∀ reason v,
        de.effect = .setAuthorization (.fallback reason (some v)) → isValidVlan v = true := by
  refine ⟨onePort_valid _, fun inputs de member reason v parks => ?_⟩
  have accepted := validated_fallbacks_iff ⟨onePort numericFallbacks, onePort_valid _⟩ _
    List.mem_cons_self
  refine (accepted.mpr ?_ inputs de member reason v parks).1
  intro reason v used
  cases reason <;> cases used <;> decide

/-- A validated configuration whose auth-fail VLAN is a name: a reject asks for it and the
enforcer's check refuses it. -/
theorem validated_fallback_refused :
    ¬ ∀ (config : AuthdConfig), config.validate = .ok () → ∀ port ∈ config.ports,
      ∀ inputs, ∀ de ∈ (portMachine.run (.new port.pae) inputs).2, ∀ reason v,
        de.effect = .setAuthorization (.fallback reason (some v)) → isValidVlan v = true := by
  intro claim
  have refused := claim (onePort { authFailVlan := some "quarantine" }) (onePort_valid _) _
    List.mem_cons_self
    [.handle (Vector.replicate 6 1) .eapolStart,
      .handle (Vector.replicate 6 1) (.eapFromSupplicant anyResponse),
      .handle (Vector.replicate 6 1) (.accessReject none)]
    ⟨some (Vector.replicate 6 1), .setAuthorization (.fallback .authFail (some "quarantine"))⟩
    (by decide) _ _ rfl
  revert refused
  decide

end Authenticator.Authd
