import Scriptorium.Remote.Client
import Scriptorium.Settings

/-!
The web service that keeps the documents. A request is answered by a response or not at all; what
is no success is turned into a failure, so that a dead connection can be told from an error that
the service answered with. The client and the transport are given from outside.
-/

namespace Scriptorium
set_option autoImplicit false

namespace Address

def segment : Variant → String
  | .draft => "DraftRunbookVersion"
  | .published => "PublishedRunbookVersion"

def withoutSlashes (s : String) : String :=
  String.ofList ((s.toList.reverse.dropWhile (· == '/')).reverse)

/-- Where a service keeps a version of a document. -/
def ofVersion (service documentId : String) (v : Variant) : String :=
  withoutSlashes service ++ "/Runbooks(guid'" ++ documentId ++ "')/" ++ segment v ++ "/$value"

end Address

/-- A service to fetch from: its address, and the login by which requests are authorized. -/
structure Service where
  url : String
  login : Option Client.Login
  deriving DecidableEq, Repr

namespace Service
open Client

inductive Unusable where
  | noUrl
  | badUrl (url fault : String)
  deriving DecidableEq, Repr

def Unusable.message : Unusable → String
  | .noUrl => "A service URL is required to reach the runbook store."
  | .badUrl url fault => "Invalid service URL '" ++ url ++ "': " ++ fault

/-- The login that credentials ask for. There is none without a user name, or when somebody else's
identity is taken on. -/
def loginFor (c : Credentials) : Option Login :=
  if c.impersonate ∨ c.username = "" then none else some ⟨c.login, c.password⟩

def failure (url message : String) : Interruption → Failure
  | .connectTimeout => .unreachable ("Timed out connecting to " ++ url)
  | .readTimeout | .writeTimeout | .poolTimeout | .timeout =>
    .timedOut ("Timed out reading " ++ url)
  | .connect => .unreachable ("Unable to connect to " ++ url ++ ": " ++ message)
  | .remoteProtocol | .read | .write =>
    .closed ("Connection to " ++ url ++ " closed: " ++ message)
  | .invalidUrl => .refused ("Invalid runbook URL " ++ url ++ ": " ++ message) none
  | .close | .network | .localProtocol | .protocol | .proxy | .unsupportedProtocol | .decoding
  | .tooManyRedirects | .transport | .request | .http =>
    .refused ("Request to " ++ url ++ " failed: " ++ message) none

/-- What a reply comes to. Of a response the status counts and then the text. -/
def answerOf (url : String) : Reply Response → Answer
  | .interrupted i message => .error (failure url message i)
  | .raised f => .error f
  | .response r =>
    if r.IsSuccess then r.text
    else .error (.refused (url ++ " answered " ++ toString r.status) (some r.status))

section Requests
variable (client : Client)

def ofUrl (url : String) (c : Credentials) : Except Unusable Service :=
  if url = "" then .error .noUrl
  else match client.urlFault? url with
    | some fault => .error (.badUrl url fault)
    | none => .ok ⟨url, loginFor c⟩

def ofSettings (s : Settings) : Except Unusable Service := ofUrl client s.serviceUrl s.credentials

variable (s : Service) {τ : Type} (send : Transport τ)

/-- Asks for an address. -/
def ask (t : τ) (url : String) : τ × Reply Response := (client.get s.login url).run send t

def fetch : Fetch τ := fun t documentId v =>
  let url := Address.ofVersion s.url documentId v
  let (t, reply) := s.ask client send t url
  match answerOf url reply with
  | .error f => ⟨t, .error f, []⟩
  | .ok body =>
    ⟨t, .ok body, [⟨.debug, "Fetched " ++ toString body.length ++ " characters from " ++ url⟩]⟩

end Requests

end Service

end Scriptorium
