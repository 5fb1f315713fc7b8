import Scriptorium.Number.Numeral
import Scriptorium.Remote.Client
import Scriptorium.Standin.Client.Host
import Scriptorium.Standin.Domain.Name
import Scriptorium.Text.Percent
import Scriptorium.Text.Quoted

/-!
Addresses: their parts, and what makes one unusable. An address with a scheme and a host is whole;
any other is only a place on some host, and of it nothing but its path and query can be sent. Such
a place can be joined to a whole address. An address can also say who logs in, before the at sign
of its authority.
-/

namespace Scriptorium
set_option autoImplicit false

structure Url where
  scheme : List Char
  userInfo : List Char
  host : List Char
  port : List Char
  path : List Char
  query : Option (List Char)
  fragment : Option (List Char)
  deriving DecidableEq, Repr

namespace Url

/-! ## The parts -/

private def isSchemeChar (c : Char) : Bool := c.isAlphanum || c == '+' || c == '.' || c == '-'

/-- The scheme of an address and what follows its colon. A scheme begins with a letter, or is
empty; an address without one has no such colon. -/
def splitScheme (cs : List Char) : List Char × List Char :=
  let scheme := cs.takeWhile isSchemeChar
  match cs.dropWhile isSchemeChar with
  | ':' :: rest => if scheme.head?.all Char.isAlpha then (scheme, rest) else ([], cs)
  | _ => ([], cs)

private def endsAuthority (c : Char) : Bool := c == '/' || c == '?' || c == '#'

/-- The authority, which two slashes announce, and what follows it. -/
def splitAuthority : List Char → List Char × List Char
  | '/' :: '/' :: rest =>
    (rest.takeWhile fun c => !endsAuthority c, rest.dropWhile fun c => !endsAuthority c)
  | cs => ([], cs)

/-- What stands before the last occurrence of a character and behind it, if there is one. -/
def splitLast? (c : Char) (cs : List Char) : Option (List Char × List Char) :=
  if c ∈ cs then
    some (((cs.reverse.dropWhile (· != c)).drop 1).reverse, (cs.reverse.takeWhile (· != c)).reverse)
  else none

/-- The host and its port. The host is a text in brackets, or ends at a colon. -/
def splitPort (cs : List Char) : List Char × List Char :=
  let host := match cs with
    | '[' :: inner =>
      match splitLast? ']' inner with
      | some (name, _) => '[' :: name ++ [']']
      | none => cs.takeWhile (· != ':')
    | _ => cs.takeWhile (· != ':')
  match cs.drop host.length with
  | ':' :: port => (host, port)
  | port => (host, port)

/-- The path without the parts that are one dot, and without those that are two and take back the
part before them. -/
def withoutDots (path : List Char) : List Char :=
  let parts := (path.splitOnP (· == '/')).foldl (fun kept part =>
    if part = ['.'] then kept
    else if part = ['.', '.'] then (if kept = [[]] then kept else kept.dropLast)
    else kept ++ [part]) []
  ['/'].intercalate parts

/-- Cuts an address. The dots are resolved in the path of all but a mere place. -/
def ofText (text : String) : Url :=
  let (scheme, rest) := splitScheme text.toList
  let (authority, rest) := splitAuthority rest
  let (userInfo, place) := (splitLast? '@' authority).getD ([], authority)
  let (host, port) := splitPort place
  let path := rest.takeWhile fun c => c != '?' && c != '#'
  let query := match rest.dropWhile fun c => c != '?' && c != '#' with
    | '?' :: cs => some (cs.takeWhile (· != '#'))
    | _ => none
  let fragment := match rest.dropWhile (· != '#') with
    | _ :: cs => some cs
    | [] => none
  let isMere := scheme = [] ∧ userInfo = [] ∧ host = [] ∧ port = []
  ⟨scheme, userInfo, host, port, if isMere then path else withoutDots path, query, fragment⟩

/-- Whether an address says how and where to connect. -/
def IsWhole (a : Url) : Prop := a.scheme ≠ [] ∧ a.host ≠ []

instance (a : Url) : Decidable a.IsWhole := by unfold IsWhole; infer_instance

/-! ## Places on a host -/

private def isGraphic (c : Char) : Bool :=
  0x20 < c.toNat && c.toNat < 0x7f && c != '"' && c != '#' && c != '<' && c != '>'

def staysInQuery (c : Char) : Bool := isGraphic c

def staysInFragment (c : Char) : Bool := (isGraphic c || c == '#') && c != '\x60'

def staysInPath (c : Char) : Bool :=
  isGraphic c && c != '?' && c != '\x60' && c != '\x7b' && c != '\x7d'

def staysInHost (c : Char) : Bool := isGraphic c && c ∉ ['/', ':', '?', '@', '[', ']', '^']

/-- The host as it is sent. Numbers are sent as they are, and a name in ASCII. Only the zone of a
host in brackets can still hold other characters. -/
def sentHost (a : Url) : List Char :=
  if Host.isNumeric a.host || Host.isBracketed a.host then a.host
  else if a.host.all (·.toNat < 0x80) then
    Text.percentQuoted staysInHost (a.host.map Char.toLower)
  else (Domain.asciiName? a.host).getD []

def quotedPath (a : Url) : List Char := Text.percentQuoted staysInPath a.path

def quotedQuery (a : Url) : Option (List Char) :=
  a.query.map (Text.percentQuoted staysInQuery)

def quotedFragment (a : Url) : Option (List Char) :=
  a.fragment.map (Text.percentQuoted staysInFragment)

/-- The path as it is sent, with one slash in front. -/
def sentPath (a : Url) : List Char := '/' :: a.quotedPath.dropWhile (· == '/')

/-- The place on its host that an address leads to. -/
def place (a : Url) : String :=
  String.ofList (a.sentPath ++ (a.quotedQuery.map ('?' :: ·)).getD [])

def text (a : Url) : List Char :=
  let behind (c : Char) (part : List Char) : List Char := if part = [] then [] else part ++ [c]
  let before (c : Char) (part : List Char) : List Char := if part = [] then [] else c :: part
  let authority := behind '@' a.userInfo ++ a.host ++ before ':' a.port
  behind ':' a.scheme ++ (if authority = [] then [] else '/' :: '/' :: authority) ++ a.quotedPath ++
    (a.quotedQuery.map ('?' :: ·)).getD [] ++ (a.quotedFragment.map ('#' :: ·)).getD []

/-- The address that a place leads to from another address. What it leaves out at its front is
taken from there, and a path without a slash in front begins in the same folder. -/
def joined (base a : Url) : Url :=
  if a.text = [] then base
  else if a.host ≠ [] then { a with scheme := base.scheme }
  else
    let folder := (splitLast? '/' base.path).elim [] fun p => p.1 ++ ['/']
    { base with
      path :=
        if a.path = [] then base.path
        else withoutDots (if a.path.head? = some '/' then a.path else folder ++ a.path)
      query := if a.path = [] then a.query <|> base.query else a.query
      fragment := a.fragment }

/-! ## Faults -/

/-- The parts of an address that are looked at one by one. -/
inductive Part where
  | path
  | query
  | fragment
  deriving DecidableEq, Repr

def Part.word : Part → String
  | .path => "path"
  | .query => "query"
  | .fragment => "fragment"

inductive Fault where
  | tooLong
  | control (c : Char) (position : Nat)
  | numericHost (host : String)
  | bracketedHost (host : String)
  | namedHost (host : String)
  | port (text : String)
  | slashes
  | colon
  | rootless
  | partTooLong (p : Part)
  | partControl (p : Part) (c : Char) (position : Nat)
  deriving DecidableEq, Repr

def Fault.message : Fault → String
  | .tooLong => "URL too long"
  | .control c position =>
    "Invalid non-printable ASCII character in URL, " ++ Text.quoted (String.singleton c) ++
      " at position " ++ toString position ++ "."
  | .numericHost host => "Invalid IPv4 address: " ++ Text.quoted host
  | .bracketedHost host => "Invalid IPv6 address: " ++ Text.quoted host
  | .namedHost host => "Invalid IDNA hostname: " ++ Text.quoted host
  | .port text => "Invalid port: " ++ Text.quoted text
  | .slashes => "Relative URLs cannot have a path starting with '//'"
  | .colon => "Relative URLs cannot have a path starting with ':'"
  | .rootless => "For absolute URLs, path must be empty or begin with '/'"
  | .partTooLong p => "URL component '" ++ p.word ++ "' too long"
  | .partControl p c position =>
    "Invalid non-printable ASCII character in URL " ++ p.word ++ " component, " ++
      Text.quoted (String.singleton c) ++ " at position " ++ toString position ++ "."

def maxLength : Nat := 65536

def isControl (c : Char) : Bool := c.toNat < 0x20 || c.toNat == 0x7f

/-- What is wrong with a host: one that looks like numbers must be numbers, and one in another
script a name. -/
def hostFault? (host : List Char) : Option Fault :=
  if Host.isNumeric host then
    if Host.isQuad host then none else some (.numericHost (String.ofList host))
  else if Host.isBracketed host then
    if Host.isZoned ((host.drop 1).dropLast) then none
    else some (.bracketedHost (String.ofList host))
  else if host.all (·.toNat < 0x80) || Domain.isName host then none
  else some (.namedHost (String.ofList host))

def portFault? (port : List Char) : Option Fault :=
  if port.isEmpty || Numeral.isInteger port then none else some (.port (String.ofList port))

/-- What is wrong with the path of a mere place, which must not look like something else. -/
def pathFault? (a : Url) : Option Fault :=
  if a.scheme ≠ [] ∨ a.userInfo ≠ [] ∨ a.host ≠ [] ∨ a.port ≠ [] then none
  else if ['/', '/'].isPrefixOf a.path then some .slashes
  else if [':'].isPrefixOf a.path then some .colon
  else none

/-- What is wrong with the address in a text: with its length, its characters, its host, its port
or its path, in this order. -/
def fault? (text : String) : Option Fault :=
  let a := ofText text
  if maxLength < text.length then some .tooLong
  else match text.toList.find? isControl with
    | some c => some (.control c (text.toList.idxOf c))
    | none => hostFault? a.host <|> portFault? a.port <|> pathFault? a

def partFault? (p : Part) (cs : List Char) : Option Fault :=
  if maxLength < cs.length then some (.partTooLong p)
  else (cs.find? isControl).map fun c => .partControl p c (cs.idxOf c)

def partsFault? (path : List Char) (query fragment : Option (List Char)) : Option Fault :=
  partFault? .path path <|> query.bind (partFault? .query) <|>
    fragment.bind (partFault? .fragment)

/-- What keeps an address from being sent: a fault, or the length of the place that it leads to,
unless it is whole. -/
def sendFault? (text : String) : Option Fault :=
  let a := ofText text
  fault? text <|> if a.IsWhole then none else partsFault? a.sentPath a.quotedQuery none

/-! ## Being sent on -/

/-- What is wrong with an address that takes its host from another one. The name of the host is read
and written anew, and a path on a host begins with a slash. -/
def hostlessFault? (base a : Url) : Option Fault :=
  if a.scheme ≠ [] ∧ a.host = [] then
    partsFault? a.quotedPath a.quotedQuery a.quotedFragment <|>
      hostFault? (Domain.unwrittenName base.sentHost) <|>
      if a.path.head?.any (· != '/') then some .rootless else none
  else none

/-- What is wrong with an address that takes its fragment from another one, where it is written
with percent signs. -/
def fragmentFault? (a : Url) (fragment : List Char) : Option Fault :=
  if fragment = [] ∨ a.fragment.getD [] ≠ [] then none
  else partsFault? a.quotedPath a.quotedQuery (some (Text.percentDecoded fragment))

/-- What is wrong with an address to which somebody at a whole address is sent on. It may leave out
its host, or all but its place, and takes the fragment of that address if it has none. -/
def onwardFault? (base a : Url) : Option Fault :=
  let target := if a.scheme = [] then base.joined a else a
  base.hostlessFault? a <|>
    (if a.scheme = [] ∧ maxLength < target.text.length then some .tooLong else none) <|>
    target.fragmentFault? (base.fragment.getD [])

/-! ## The login -/

/-- The login in an address: a name, a colon and a password before the at sign, either of which
may be left out. A place on some host has no login. -/
def login? (a : Url) : Option Client.Login :=
  let name := Text.percentDecoded (a.userInfo.takeWhile (· != ':'))
  let password := Text.percentDecoded ((a.userInfo.dropWhile (· != ':')).drop 1)
  if ¬ a.IsWhole ∨ (name = [] ∧ password = []) then none
  else some ⟨String.ofList name, String.ofList password⟩

end Url

end Scriptorium
