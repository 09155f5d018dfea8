/-!
# Log levels of the settings

A level names a threshold: what is less severe is not shown. Switched off, the threshold lies
above every severity.
-/
namespace MonkeyScan

/-- How much is logged. -/
inductive Level
  | off
  | error
  | warning
  | info
  | debug
  deriving DecidableEq, Repr

namespace Level

/-- The levels in the order in which they are offered. -/
def all : List Level := [off, error, warning, info, debug]

def name : Level → String
  | off => "none"
  | error => "error"
  | warning => "warning"
  | info => "info"
  | debug => "debug"

/-- The least severity number that is shown. -/
def threshold : Level → Nat
  | off => 60
  | error => 40
  | warning => 30
  | info => 20
  | debug => 10

/-- The level of a name. -/
def ofName? (s : String) : Option Level :=
  all.find? fun l => l.name = s

theorem ofName?_name (l : Level) : ofName? l.name = some l := by
  cases l <;> decide

/-- Whether messages of a severity number are shown. -/
def shows (l : Level) (number : Nat) : Bool :=
  l.threshold ≤ number

end Level

end MonkeyScan
