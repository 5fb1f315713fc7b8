import Scriptorium.Number.Numeral
import Scriptorium.Number.Timespan
import Scriptorium.Text.Quoted

/-!
Settings, as they are read from the environment. Each has a default; a number that cannot be read
makes all of them void, the timeout before the freshness.
-/

namespace Scriptorium
set_option autoImplicit false

structure Credentials where
  username : String
  password : String
  domain : String
  impersonate : Bool
  deriving DecidableEq, Repr

namespace Credentials

def none : Credentials := ⟨"", "", "", false⟩

def login (c : Credentials) : String :=
  if c.domain = "" then c.username else c.domain ++ "\\" ++ c.username

end Credentials

structure Settings where
  serviceUrl : String
  credentials : Credentials
  timeout : Binary64
  freshnessMinutes : Binary64
  deriving DecidableEq, Repr

namespace Settings

def defaultServiceUrl : String := "http://localhost:9090/00000000-0000-0000-0000-000000000000"

/-- For how long a fetched version stays fresh, in microseconds. -/
def freshnessWindow (s : Settings) : Except TimespanError Int :=
  Timespan.ofMinutes s.freshnessMinutes

/-- A text that should have been a number. -/
structure Unreadable where
  text : String
  deriving DecidableEq, Repr

def Unreadable.message (e : Unreadable) : String :=
  "could not convert string to float: " ++ Text.quoted e.text

def readNumber (s : String) : Except Unreadable Binary64 :=
  match Numeral.read? s.toList with
  | some w => .ok w.toBinary64
  | none => .error ⟨s⟩

def readFlag (s : String) : Bool :=
  let word := String.ofList ((Text.trim s.toList).map Char.toLower)
  word = "1" ∨ word = "true" ∨ word = "yes" ∨ word = "on"

/-- The variables of an environment, each with its value if it is set. -/
abbrev Environment := String → Option String

def variableFor (setting : String) : String := "RUNBOOK_STUDIO_" ++ setting

def variableNames : List String :=
  ["URL", "USERNAME", "PASSWORD", "DOMAIN", "IMPERSONATE", "TIMEOUT", "FRESHNESS_MINUTES"].map
    variableFor

def load (env : Environment) : Except Unreadable Settings := do
  let get := fun name default => (env (variableFor name)).getD default
  let credentials : Credentials := {
    username := get "USERNAME" ""
    password := get "PASSWORD" ""
    domain := get "DOMAIN" ""
    impersonate := readFlag (get "IMPERSONATE" "") }
  let timeout ← readNumber (get "TIMEOUT" "30")
  let freshnessMinutes ← readNumber (get "FRESHNESS_MINUTES" "30")
  return ⟨get "URL" defaultServiceUrl, credentials, timeout, freshnessMinutes⟩

end Settings

end Scriptorium
