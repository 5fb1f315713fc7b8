/-!
The journal: what the library reports about its own work, in the order in which it happened.
Every state that can report something carries one, and operations only ever append to it.
-/

namespace Scriptorium
set_option autoImplicit false

inductive Level where
  | debug
  | info
  | warning
  | error
  deriving DecidableEq, Repr

namespace Level

def name : Level → String
  | debug => "DEBUG"
  | info => "INFO"
  | warning => "WARNING"
  | error => "ERROR"

end Level

structure Entry where
  level : Level
  text : String
  deriving DecidableEq, Repr

abbrev Journal := List Entry

end Scriptorium
