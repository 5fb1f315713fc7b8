import Scriptorium.CommandLine
import Scriptorium.Standin.Client
import Scriptorium.Standin.Console
import Scriptorium.Tree.Listing

/-!
The program. It looks up what the commands need and prints what they say. The syntax tree of a
script is read from a listing beside it; no connection to a service can be made from here, so
every request comes back as one that could not connect.
-/

namespace Scriptorium
set_option autoImplicit false

open CommandLine

def readFile (path : String) : IO File := do
  try
    return .regular (← IO.FS.readBinFile path).toList
  catch
    | .noFileOrDirectory .. => return .missing
    | .invalidArgument .. => return .nameTooLong
    | _ => return .directory

/-- The parser that knows the tree in the listing beside a script. -/
def readParser (path : String) : IO Parser := do
  match ← readFile (path ++ ".tree") with
  | .regular bytes => return fun _ => (scriptText? bytes).bind Listing.read?
  | _ => return fun _ => none

def readEnvironment : IO Settings.Environment := do
  let pairs ← Settings.variableNames.mapM fun name => do return (name, ← IO.getEnv name)
  return fun name => (pairs.lookup name).join

/-- A service that no request ever reaches. -/
def openService : Opener Unit := fun settings =>
  (Service.ofSettings Standin.client settings).map fun service =>
    (service.fetch Standin.client Standin.unconnected, ())

/-- The console of a place that tells no width. -/
def screen : Console := Standin.console 80

def run : Invocation → IO Outcome
  | .params path => do return params screen (← readParser path) path (← readFile path)
  | .check path => do return check screen (← readParser path) path (← readFile path)
  | .fetch documentId published force => do
    return fetch screen (← readEnvironment) openService documentId published force

end Scriptorium

def main (args : List String) : IO UInt32 := do
  match Scriptorium.CommandLine.ofArguments? args with
  | none =>
    IO.eprintln "usage: (params PATH | check PATH | fetch ID [--published] [--force])"
    return 2
  | some invocation =>
    let outcome ← Scriptorium.run invocation
    IO.print outcome.output
    if let some crash := outcome.crash then IO.eprintln crash.message
    return UInt32.ofNat outcome.exitCode
