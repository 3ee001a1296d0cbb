import Authenticator.Theory.Transducer
import Authenticator.Theory.Prog
import Authenticator.Theory.SeparatedList
import Authenticator.Pae.Session
import Authenticator.Pae.SessionPosture
import Authenticator.Pae.SessionTimers
import Authenticator.Pae.Port
import Authenticator.Pae.PortPosture
import Authenticator.Enforce.Db
import Authenticator.Enforce.Schema
import Authenticator.Enforce.Represent
import Authenticator.Enforce.Enforcer
import Authenticator.Enforce.FailClosed
import Authenticator.Enforce.Resync
import Authenticator.Radius.Proto
import Authenticator.Radius.Utf8
import Authenticator.Radius.Request
import Authenticator.Radius.Reply
import Authenticator.Authd.Session
import Authenticator.Theory.Worklist
import Authenticator.Theory.Matching
import Authenticator.Pae.PortEffects
import Authenticator.Authd.Dispatch
import Authenticator.Authd.Run
import Authenticator.Authd.Provenance
import Authenticator.Radius.Codec
import Authenticator.Authd.FailClosed
import Authenticator.Authd.ServerTimer
import Authenticator.Pae.Solo
import Authenticator.Authd.EndToEnd
import Authenticator.Pacp.Frame
import Authenticator.Theory.Purge
import Authenticator.Pae.Accounting
import Authenticator.Pae.SessionReplies
import Authenticator.Authd.ReplyBinding
import Authenticator.Radius.EapMessage
import Authenticator.Pae.Exchange
import Authenticator.Authd.Worker
import Authenticator.Authd.Relay
import Authenticator.Authd.SharedPort
import Authenticator.Authd.Tokio
import Authenticator.Radius.Sizes
import Authenticator.Authd.Bounded
import Authenticator.Authd.FrameSafety
import Authenticator.Enforce.Lossy
import Authenticator.Enforce.Concurrent
import Authenticator.Authd.Config
import Authenticator.Pae.Contact
import Authenticator.Pae.SessionTimeout
import Authenticator.Authd.FailedGrant
import Authenticator.Theory.Trace
import Authenticator.Authd.Trace
import Authenticator.Radius.Carried
import Authenticator.Authd.UserName
import Authenticator.Authd.AcctIds
import Authenticator.Authd.Conversation
import Authenticator.Authd.SessionTimer
import Authenticator.Pae.Prompts
import Authenticator.Enforce.VlanNames
import Authenticator.Authd.Atomic
import Authenticator.Radius.Authorization
import Authenticator.Pae.InPlace
import Authenticator.Pae.Reject
import Authenticator.Pae.Responses
import Authenticator.Authd.Feedback
import Authenticator.Enforce.Window
import Authenticator.Enforce.ListOps
import Authenticator.Radius.Sealed
import Authenticator.Theory.Stream
import Authenticator.Radsec.Framing
import Authenticator.Authd.PortLoop
import Authenticator.Authd.Quiescent
import Authenticator.Radsec.Connection
import Authenticator.Authd.RadSecServer
import Authenticator.Theory.Pending
import Authenticator.Pae.TimerTable
import Authenticator.Authd.TimerTable
import Authenticator.Enforce.Commands
import Authenticator.Enforce.Isolation
import Authenticator.Authd.Correlation
import Authenticator.Authd.EventLoop
import Authenticator.Authd.OpenPort
import Authenticator.Authd.Amplification
import Authenticator.Radius.Record
