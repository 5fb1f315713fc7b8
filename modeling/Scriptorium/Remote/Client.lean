import Scriptorium.Remote.Failure

/-!
The client by which requests are made. It belongs to a library of its own: what it makes of an
address, of a login and of what is delivered to it is not said here but given (`Client`), and what
is said of a service is said for every client.

A client that is asked for an address gives up at once, or sends one request and makes something of
the response (`Attempt`); it does not go where a response may lead. What interrupts the transport
interrupts the client. The transport is given, too.
-/

namespace Scriptorium
set_option autoImplicit false

namespace Client

/-- The errors of the client. They have classes of their own, so that a connection that could not be
made in time is told from one that could not be made at all. -/
inductive Interruption where
  | connectTimeout
  | readTimeout
  | writeTimeout
  | poolTimeout
  | timeout
  | connect
  | read
  | write
  | close
  | network
  | remoteProtocol
  | localProtocol
  | protocol
  | proxy
  | unsupportedProtocol
  | decoding
  | tooManyRedirects
  | transport
  | request
  | http
  | invalidUrl
  deriving DecidableEq, Repr

/-- What it comes to when something is asked for. -/
inductive Reply (ρ : Type) where
  | response (r : ρ)
  | interrupted (i : Interruption) (message : String)
  /-- something went wrong for which the client has no error -/
  | raised (failure : Failure)
  deriving DecidableEq, Repr

def Reply.bind {ρ ρ' : Type} (f : ρ → Reply ρ') : Reply ρ → Reply ρ'
  | response r => f r
  | interrupted i message => interrupted i message
  | raised failure => raised failure

structure Login where
  name : String
  password : String
  deriving DecidableEq, Repr

structure Request where
  url : String
  authorization : Option String
  deriving DecidableEq, Repr

/-- A response as it is delivered. The names of its headers are in small letters. -/
structure Packet where
  status : Nat
  headers : List (String × String)
  body : List UInt8
  deriving DecidableEq, Repr

/-- A response as the client has it: its status and its text, or why the text cannot be read. -/
structure Response where
  status : Nat
  text : Except Failure String

def Response.IsSuccess (r : Response) : Prop := 200 ≤ r.status ∧ r.status < 300

instance (r : Response) : Decidable r.IsSuccess := by unfold Response.IsSuccess; infer_instance

/-- How requests are sent. `τ` is what the transport keeps from one request to the next. -/
abbrev Transport (τ : Type) := τ → Request → τ × Reply Packet

/-- What a client does when it is asked for an address. -/
inductive Attempt where
  | unsent (reply : Reply Response)
  | sent (r : Request) (receive : Packet → Reply Response)

def Attempt.run {τ : Type} (send : Transport τ) (t : τ) : Attempt → τ × Reply Response
  | unsent reply => (t, reply)
  | sent r receive =>
    let (t, reply) := send t r
    (t, reply.bind receive)

end Client

structure Client where
  /-- What is wrong with a text that should be an address. -/
  urlFault? : String → Option String
  get : Option Client.Login → String → Client.Attempt

end Scriptorium
