/-
# Pae.Config -- the static port configuration the state machine reads

The daemon supplies a `PaeConfig` and owns the clock; the machine only reads the
configuration.  Every fail-open behaviour is an `Option` that defaults to `none`.
-/
import Authenticator.Pacp.Ethernet

namespace Authenticator.Pae

set_option autoImplicit false

/-- How many supplicants a port admits, and how authorization is scoped. -/
inductive HostMode where
  | singleHost
  | multiHost
  | multiAuth
  | multiDomain
  deriving DecidableEq, Repr

/-- Authenticator timers, in seconds. -/
structure Timers where
  txPeriod : UInt32 := 30
  heldPeriod : UInt32 := 60
  reauthPeriod : UInt32 := 3600
  serverTimeout : UInt32 := 30
  suppTimeout : UInt32 := 30
  deriving DecidableEq, Repr

inductive TimerKind where
  | txPeriod
  | held
  | reauth
  | serverTimeout
  | suppTimeout
  | sessionTimeout
  deriving DecidableEq, Repr

/-- Why a fallback VLAN is applied. -/
inductive FallbackReason where
  | guest
  | authFail
  | critical
  deriving DecidableEq, Repr

/-- Per-port configuration; the field defaults are those of `PaeConfig::default`. -/
structure PaeConfig where
  hostMode : HostMode := .multiAuth
  timers : Timers := {}
  maxReauthReq : UInt32 := 2
  reauthEnabled : Bool := true
  mabEnabled : Bool := false
  guestVlan : Option String := none
  authFailVlan : Option String := none
  criticalVlan : Option String := none
  deriving DecidableEq, Repr

/-- The VLAN configured for a fallback reason. -/
def PaeConfig.fallbackVlan (cfg : PaeConfig) : FallbackReason → Option String
  | .guest => cfg.guestVlan
  | .authFail => cfg.authFailVlan
  | .critical => cfg.criticalVlan

end Authenticator.Pae
