/-
# Pae.Effect -- the inputs and the side effects of the state machine

`Event` is what the daemon feeds in (frames, RADIUS results, timer expiries, CoA
requests); `Effect` is what the machine asks the daemon to perform, in order.
-/
import Authenticator.Pacp.Eap
import Authenticator.Pae.Config

namespace Authenticator.Pae

set_option autoImplicit false

open Authenticator.Pacp

/-- Authorization parameters granted by the server (`class` is reserved, hence
`class_`). -/
structure Authorization where
  vlan : Option String := none
  filterId : Option String := none
  sessionTimeout : Option UInt32 := none
  class_ : Option Bytes := none
  deriving DecidableEq, Repr

/-- The authorization to program on the dataplane. -/
inductive PortAuthorization where
  | authorized (authorization : Authorization)
  | unauthorized
  | fallback (reason : FallbackReason) (vlan : Option String)
  deriving DecidableEq, Repr

inductive TerminateCause where
  | supplicantLogoff
  | portLinkDown
  | sessionTimeout
  | adminReset
  | reauthFailure
  deriving DecidableEq, Repr

inductive AcctTrigger where
  | start
  | stop (cause : TerminateCause)
  deriving DecidableEq, Repr

inductive Effect where
  | txEapToSupplicant (eap : Bytes)
  | toAuthServer (eap : Bytes)
  | startMab (mac : MacAddr)
  | setAuthorization (authorization : PortAuthorization)
  | armTimer (kind : TimerKind)
  | cancelTimer (kind : TimerKind)
  | cancelAllTimers
  | accounting (trigger : AcctTrigger)
  deriving DecidableEq, Repr

/-- An EAP packet received from the supplicant, already decoded; `packet` is the
whole EAP packet, for verbatim relay. -/
structure InboundEap where
  code : EapCode
  identifier : UInt8
  eapType : Option EapType
  packet : Bytes
  deriving DecidableEq, Repr

inductive Event where
  | enable
  | linkUp
  | linkDown
  | eapolStart
  | eapolLogoff
  | eapFromSupplicant (eap : InboundEap)
  | accessChallenge (eap : Bytes)
  | accessAccept (authorization : Authorization) (eap : Option Bytes)
  | accessReject (eap : Option Bytes)
  | serverUnreachable
  | timer (kind : TimerKind)
  | coaDisconnect
  | coaReauthenticate
  | coaAuthorize (authorization : Authorization)
  deriving DecidableEq, Repr

/-- The events that carry a server's reply. -/
def Event.IsReply : Event → Prop
  | .accessChallenge _ | .accessAccept _ _ | .accessReject _ => True
  | _ => False

/-- The EAP packet that a reply brings from the server. -/
def Event.serverEap : Event → Option Bytes
  | .accessChallenge eap => some eap
  | .accessAccept _ eap => eap
  | .accessReject eap => eap
  | _ => none

end Authenticator.Pae
