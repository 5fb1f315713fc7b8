import Scriptorium.Journal
import Scriptorium.Parameter.Naming
import Scriptorium.Tree.Parse

/-!
The parameters that a script declares. A script without a definition is broken and has none to
speak of; a declaration without a variable or without a type is reported and left out, and does
not hinder the others.
-/

namespace Scriptorium
set_option autoImplicit false

structure Parameter where
  displayName : String
  rawName : String
  typeName : String
  isArray : Bool
  deriving DecidableEq, Repr

namespace Parameter

inductive Fault where
  | noVariable (text : String)
  | noType (text : String)
  deriving DecidableEq, Repr

def Fault.message : Fault → String
  | .noVariable text => "No variable in parameter declaration '" ++ text ++ "'"
  | .noType text => "Parameter " ++ text ++ " has no type constraint"

/-- Where the name of a parameter is not to be looked for. -/
def besideName : List String :=
  ["attribute_list", "attribute", "type_literal", "script_parameter_default"]

/-- Where the type of a parameter is not to be looked for. -/
def besideType : List String := ["script_parameter_default"]

/-- Reads one declaration. The last attribute is the type. -/
def describe (declaration : Node) : Except Fault Parameter :=
  match (declaration.outermost ["variable"] besideName).head? with
  | none => .error (.noVariable declaration.text)
  | some v =>
    match (declaration.outermost ["attribute", "type_literal"] besideType).getLast? with
    | none => .error (.noType v.text)
    | some t =>
      let name := Naming.stripSigil v.text.toList
      let type := Naming.typeConstraint t.text.toList
      .ok ⟨String.ofList (Naming.display name), String.ofList name, String.ofList type.name,
        type.isArray⟩

/-- What is said of a script without a definition. -/
def brokenScript : String :=
  "Your runbook is broken and it's possible that the runbook won't run. " ++
    "The script must contain a function or workflow definition with a body. Please fix any errors."

def skippedEntry (f : Fault) : Entry := ⟨.warning, "Skipping runbook parameter: " ++ f.message⟩

/-- Reads each declaration and reports on those that are left out. -/
def describeEach : List Node → List Parameter × Journal
  | [] => ([], [])
  | n :: ns =>
    match describe n, describeEach ns with
    | .ok p, (ps, journal) => (p :: ps, journal)
    | .error f, (ps, journal) => (ps, skippedEntry f :: journal)

/-- The parameters that a script declares, or nothing if it has no definition. -/
def extract (tree : Node) : Option (List Parameter) × Journal :=
  match tree.findFunction? with
  | none => (none, [⟨.warning, brokenScript⟩])
  | some function =>
    match function.findBody?.bind Node.findParamBlock? with
    | none => (some [], [])
    | some block =>
      match block.outermost ["script_parameter"] [] with
      | [] => (some [], [⟨.info, "Runbook contains a param block but no parameters"⟩])
      | declarations =>
        let (ps, journal) := describeEach declarations
        (some ps, journal)

end Parameter

end Scriptorium
