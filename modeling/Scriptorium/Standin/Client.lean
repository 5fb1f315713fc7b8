import Scriptorium.Standin.Client.ContentType
import Scriptorium.Standin.Client.Header
import Scriptorium.Standin.Client.Url
import Scriptorium.Text.Base64

/-!
A client for the program to run with, in place of the one that a library provides. It looks at an
address before it asks for it, at the headers of what it sends and receives, and at where a response
would send it on to. Nothing that is said of a service depends on it.
-/

namespace Scriptorium
set_option autoImplicit false

namespace Standin
open Client

namespace Packet
variable (p : Packet)

def contentType : Option String := p.headers.lookup "content-type"

def location : Option String := p.headers.lookup "location"

/-- The failure of a text in a content type that cannot be read. -/
def contentTypeFailure (fault : ContentType.Fault) : Failure :=
  match fault with
  | .partlyNumbered _ => .foreign "type" fault.message
  | .nul | .longNumber _ => .foreign "value" fault.message

/-- The body as a text, in the character set of its content type. An empty body is the empty text
whatever set is named. -/
def text : Except Failure String :=
  if p.body = [] then .ok ""
  else match ContentType.charset (contentType p) with
    | .ok c => .ok (String.ofList (c.decode p.body))
    | .error fault => .error (contentTypeFailure fault)

/-- The failure of a header that cannot be written. -/
def headerFailure (fault : Header.Fault) : Failure := .foreign "encoding" fault.message

/-- The failure of a response whose headers cannot be written. -/
def headerFailure? : Option Failure :=
  ((contentType p).bind Header.fault? <|> (location p).bind Header.fault?).map headerFailure

/-- Where the response sends the client on to. -/
def redirection? : Option String :=
  if p.status ∈ [301, 302, 303, 307, 308] then location p else none

end Packet

/-- The failure that comes of reading the name of a host. -/
def hostFailure? (a : Url) : Option Failure :=
  (Domain.nameFault? a.sentHost).map fun fault => .foreign fault.kind fault.message

/-- The failure of a request that cannot be made, for an address that can be sent. The host of a
whole address is read and becomes a header. -/
def requestFailure? (a : Url) : Option Failure :=
  if a.IsWhole then
    hostFailure? a <|> (Header.fault? (String.ofList a.sentHost)).map Packet.headerFailure
  else none

/-- What it comes to when a client is sent on from a whole address, if it comes to anything. It does
not go there, but the address must be usable, and its host is read: that of a whole address at once,
any other one last. -/
def redirected? (url location : String) : Option (Reply Response) :=
  let base := Url.ofText url
  let onward := Url.ofText location
  match Url.fault? location with
  | some fault =>
    some (.interrupted .remoteProtocol ("Invalid URL in location header: " ++ fault.message ++ "."))
  | none =>
    (if onward.scheme = [] then none else (hostFailure? onward).map Reply.raised) <|>
      ((base.onwardFault? onward).map fun fault => .interrupted .invalidUrl fault.message) <|>
      (hostFailure? onward).map Reply.raised

/-- What becomes of a response to a request for an address, whatever its status is. The response
must be written, and only a whole address can be answered; then the redirection counts. -/
def received (url : String) (p : Packet) : Reply Response :=
  let address := Url.ofText url
  ((Packet.headerFailure? p).map Reply.raised <|>
    if address.IsWhole then (Packet.redirection? p).bind (redirected? url)
    else some (.raised (.foreign "value" ("unknown url type: " ++ Text.quoted address.place)))).getD
    (.response ⟨p.status, Packet.text p⟩)

/-- What a request for an address comes to if it is not even sent. -/
def unsent? (url : String) : Option (Reply Response) :=
  match Url.sendFault? url with
  | some fault => some (.interrupted .invalidUrl fault.message)
  | none => (requestFailure? (Url.ofText url)).map Reply.raised

def basic (l : Login) : String :=
  "Basic " ++ String.ofList (Text.base64 (Text.bytes (l.name ++ ":" ++ l.password).toList))

/-- A request is authorized by the login that is given, or else by the one in the address. -/
def client : Client where
  urlFault? url := (Url.fault? url).map Url.Fault.message
  get login url :=
    match unsent? url with
    | some reply => .unsent reply
    | none => .sent ⟨url, (login <|> (Url.ofText url).login?).map basic⟩ (received url)

/-! ## A place without a network -/

/-- The schemes that a connection can be made by. -/
def webSchemes : List String := ["http", "https", "ws", "wss"]

/-- The greatest number of a port that can be asked for, whether there is such a port or not. -/
def greatestPort : Int := 0x7fffffffffffffff

/-- What keeps anybody from looking for a host: its name, and then its port. -/
def lookupFailure? (a : Url) : Option Failure :=
  let isBracket (c : Char) : Bool := c == '[' || c == ']'
  if !Domain.canBeLookedUp (a.sentHost.filter (!isBracket ·)) then
    some (.foreign "name" "The name of the host has a label that is empty or too long.")
  else if (Numeral.integer? a.port).any fun n => n < -greatestPort - 1 || greatestPort < n then
    some (.foreign "size" "The number of the port is too large.")
  else none

/-- The transport of such a place: no connection is ever made. -/
def unconnected : Transport Unit := fun _ r =>
  let address := Url.ofText r.url
  let scheme := String.ofList (address.scheme.map Char.toLower)
  ((), if ¬ address.IsWhole then
      .interrupted .unsupportedProtocol
        "Request URL is missing an 'http://' or 'https://' protocol."
    else if scheme ∈ webSchemes then
      match lookupFailure? address with
      | some failure => .raised failure
      | none => .interrupted .connect "no route to the service"
    else .interrupted .unsupportedProtocol
      ("Request URL has an unsupported protocol '" ++ scheme ++ "://'."))

end Standin

end Scriptorium
