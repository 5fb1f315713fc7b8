import Scriptorium.Cache
import Scriptorium.Console
import Scriptorium.Parameter.Extraction
import Scriptorium.Remote.Service
import Scriptorium.ScriptPath

/-!
The command line: listing the parameters of a script, checking it for parse errors, and fetching
a document. Each command is a function from what was read to what is printed and how it ends; the
reading itself, the parser, the console and the transport are given from outside.
-/

namespace Scriptorium
set_option autoImplicit false

namespace CommandLine

inductive Invocation where
  | params (path : String)
  | check (path : String)
  | fetch (documentId : String) (published force : Bool)
  deriving DecidableEq, Repr

def isSwitch (s : String) : Bool := s.startsWith "-" && s ≠ "-"

/-- Parts arguments into switches and others. Two hyphens alone end the switches. -/
def parted : List String → List String × List String
  | [] => ([], [])
  | a :: rest =>
    if a = "--" then ([], rest)
    else
      let (switches, others) := parted rest
      if isSwitch a then (a :: switches, others) else (switches, a :: others)

def ofArguments? : List String → Option Invocation
  | [] => none
  | command :: args =>
    match command, parted args with
    | "params", ([], [path]) => some (.params path)
    | "check", ([], [path]) => some (.check path)
    | "fetch", (switches, [documentId]) =>
      if switches.all fun s => s = "--published" ∨ s = "--force" then
        some (.fetch documentId ("--published" ∈ switches) ("--force" ∈ switches))
      else none
    | _, _ => none

/-- What is found at a path. -/
inductive File where
  | missing
  | nameTooLong
  | directory
  | regular (bytes : List UInt8)
  deriving DecidableEq, Repr

/-- A folder: its files by their paths. -/
abbrev Folder := List (String × List UInt8)

def maxNameLength : Nat := 255

def maxPathLength : Nat := 4095

/-- The part of a path that leads to the folder above. -/
def upward : List Char := ['.', '.']

/-- The folders that every system has. -/
def systemFolders : List String :=
  ["bin", "boot", "dev", "dev/shm", "etc", "home", "lib", "media", "mnt", "opt", "proc", "root",
    "run", "sbin", "srv", "sys", "tmp", "usr", "usr/bin", "usr/lib", "usr/local", "usr/local/bin",
    "usr/local/lib", "usr/sbin", "usr/share", "var", "var/cache", "var/lib", "var/log", "var/tmp"]

namespace Folder

/-- What is at the parts of a path in a place of which nothing is known. -/
def outside : List (List Char) → File
  | [] => .directory
  | part :: _ => if maxNameLength < Text.byteLength part then .nameTooLong else .missing

/-- Walks the parts of a path from the place `here` below the root, where nothing is known but the
folders of every system and the device that is empty. -/
def walkSystem (here : List (List Char)) : List (List Char) → File
  | [] => .directory
  | part :: rest =>
    let there := here ++ [part]
    let path := String.ofList (['/'].intercalate there)
    if part = upward then walkSystem here.dropLast rest
    else if maxNameLength < Text.byteLength part then .nameTooLong
    else if path = "dev/null" ∧ rest = [] then .regular []
    else if path ∈ systemFolders then walkSystem there rest
    else .missing

/-- Walks the parts of a path from the place `here` in a folder. The folders in a folder are told
by the files in them, and of what is around it only the folders above are known. -/
def walk (folder : Folder) (here : List (List Char)) : List (List Char) → File
  | [] => .directory
  | part :: rest =>
    if part = upward then
      if here = [] then outside (rest.dropWhile (· = upward))
      else walk folder here.dropLast rest
    else if maxNameLength < Text.byteLength part then .nameTooLong
    else
      let there := here ++ [part]
      match folder.find? fun e => ScriptPath.parts e.1.toList = there with
      | some e => if rest = [] then .regular e.2 else .missing
      | none =>
        if folder.any fun e => there.isPrefixOf (ScriptPath.parts e.1.toList) then
          walk folder there rest
        else .missing

/-- What is at a path. One with a NUL character leads nowhere. -/
def find (folder : Folder) (path : String) : File :=
  let parts := ScriptPath.parts path.toList
  if '\x00' ∈ path.toList then .missing
  else if maxPathLength < Text.byteLength (ScriptPath.plain path.toList) then .nameTooLong
  else if path.startsWith "/" then walkSystem [] parts
  else walk folder [] parts

end Folder

/-- Why a command broke off. -/
inductive Crash where
  | notUtf8
  | isDirectory
  | nameTooLong
  | parse (f : Parse.Fault)
  | badSetting (e : Settings.Unreadable)
  | badWindow (e : TimespanError)
  | console (e : Console.Fault)
  | fetch (f : Failure)
  deriving DecidableEq, Repr

def Crash.message : Crash → String
  | .notUtf8 => "The script is not UTF-8 text."
  | .isDirectory => "The path is that of a folder."
  | .nameTooLong => "The path, or a name in it, is too long."
  | .parse f => f.message
  | .badSetting e => e.message
  | .badWindow .tooLong => "The freshness window is too long."
  | .badWindow .notANumber => "The freshness window is not a number."
  | .console (.markup message) | .console (.foreign _ message) => message
  | .fetch f => f.message

/-- What a command printed, and how it ended. -/
structure Outcome where
  output : String
  exitCode : Nat
  crash : Option Crash
  deriving DecidableEq, Repr

namespace Outcome

def ended (output : String) (exitCode : Nat) : Outcome := ⟨output, exitCode, none⟩
def crashed (output : String) (c : Crash) : Outcome := ⟨output, 1, some c⟩

/-- Prints something more before what follows. -/
def after (output : String) (o : Outcome) : Outcome := { o with output := output ++ o.output }

/-- Prints a text, if it can be shown, and goes on. -/
def printing (text : Except Console.Fault String) (next : Outcome) : Outcome :=
  match text with
  | .ok s => next.after s
  | .error e => crashed "" (.console e)

end Outcome

open Outcome

/-- The text with one kind of line end. -/
def uniformLines : List Char → List Char
  | [] => []
  | '\r' :: '\n' :: cs => '\n' :: uniformLines cs
  | '\r' :: cs => '\n' :: uniformLines cs
  | c :: cs => c :: uniformLines cs

def byteOrderMark : List UInt8 := [0xef, 0xbb, 0xbf]

/-- The text of a file in UTF-8, without a byte-order mark. A file that ends within the mark has no
text. -/
def scriptText? (bytes : List UInt8) : Option String :=
  if bytes.length < byteOrderMark.length ∧ bytes.isPrefixOf byteOrderMark then some ""
  else (Text.decode? bytes).map fun cs =>
    String.ofList (uniformLines (if cs.head? = some '\ufeff' then cs.tail else cs))

section Commands
variable (con : Console)

/-- Reads a script and parses it. A file that does not look like a script is read all the same. -/
def withScript (parser : Parser) (path : String) (file : File) (next : Parse → Outcome) :
    Outcome :=
  let read (o : Outcome) : Outcome :=
    if ScriptPath.isScript path.toList then o
    else
      let name := String.ofList (ScriptPath.name path.toList)
      printing (con.markupLine
        ("[yellow]Warning:[/yellow] " ++ name ++ " does not look like a PowerShell script")) o
  match file with
  | .missing =>
    printing (con.markupLine ("[red]File not found:[/red] " ++ path)) (ended "" 1)
  | .nameTooLong => crashed "" .nameTooLong
  | .directory => read (crashed "" .isDirectory)
  | .regular bytes =>
    read <| match scriptText? bytes with
      | none => crashed "" .notUtf8
      | some text =>
        match Parse.ofText parser text with
        | .error f => crashed "" (.parse f)
        | .ok p => next p

def parameterTable (ps : List Parameter) : Table where
  heading := ["name", "parameter", "type", "array"]
  rows := ps.map fun p =>
    [p.displayName, p.rawName, p.typeName, if p.isArray then "yes" else "no"]

def params (parser : Parser) (path : String) (file : File) : Outcome :=
  withScript con parser path file fun p =>
    match (Parameter.extract p.tree).1 with
    | none =>
      printing (con.markupLine ("[red]" ++ Parameter.brokenScript ++ "[/red]")) (ended "" 1)
    | some ps =>
      printing (con.table (parameterTable ps)) <|
        printing (con.markupLine ("(" ++ toString ps.length ++ " parameters)")) (ended "" 0)

def diagnosticTable (ds : List Diagnostic) : Table where
  heading := ["line", "offset", "length", "message"]
  rows := ds.map fun d =>
    [toString d.line, toString d.startOffset, toString d.length, d.message]

def check (parser : Parser) (path : String) (file : File) : Outcome :=
  withScript con parser path file fun p =>
    match p.diagnostics with
    | [] => printing (con.markupLine "[green]No parse errors[/green]") (ended "" 0)
    | ds => printing (con.table (diagnosticTable ds)) (ended "" 1)

/-- How a store is opened when the settings are known. -/
abbrev Opener (σ : Type) := Settings → Except Service.Unusable (Fetch σ × σ)

def fetch {σ : Type} (env : Settings.Environment) (opener : Opener σ)
    (documentId : String) (published force : Bool) : Outcome :=
  match Settings.load env with
  | .error e => crashed "" (.badSetting e)
  | .ok settings =>
    match opener settings with
    | .error e => ended (con.line e.message) 1
    | .ok (fetch, store) =>
      match settings.freshnessWindow with
      | .error e => crashed "" (.badWindow e)
      | .ok window =>
        let cache := Cache.new documentId .standard window
        match (cache.get fetch store 0 force published).2.answer with
        | .error f => crashed "" (.fetch f)
        | .ok content =>
          if content = "" then
            printing (con.markupLine
              ("[yellow]No content available for runbook " ++ documentId ++ "[/yellow]"))
              (ended "" 1)
          else ended (con.line content) 0

end Commands

end CommandLine

end Scriptorium
