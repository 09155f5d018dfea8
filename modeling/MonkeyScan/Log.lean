/-!
# Log records and the logger that lets them through

A record carries its severity, the name of its source and a text. A logger lets a record through
when the severity reaches the logger's threshold; a logger whose threshold was never set goes by
the default one, that of warnings.
-/
namespace MonkeyScan

/-- How severe a record is. -/
inductive Severity
  | debug
  | info
  | warning
  | error
  | critical
  deriving DecidableEq, Repr

namespace Severity

/-- The number that thresholds are compared with. -/
def number : Severity → Nat
  | debug => 10
  | info => 20
  | warning => 30
  | error => 40
  | critical => 50

def name : Severity → String
  | debug => "DEBUG"
  | info => "INFO"
  | warning => "WARNING"
  | error => "ERROR"
  | critical => "CRITICAL"

end Severity

/-- One log record. -/
structure Record where
  severity : Severity
  source : String
  text : String
  deriving DecidableEq, Repr

/-- Where records go: the console, or some handler that a client has installed. -/
inductive Handler
  | console
  | installed (name : String)
  deriving DecidableEq, Repr

/-- A logger with its threshold, if it has one of its own, and its handlers in order. -/
structure Logger where
  threshold : Option Nat := none
  handlers : List Handler := []
  deriving DecidableEq, Repr

namespace Logger

/-- The threshold of a logger that has none of its own. -/
def defaultThreshold : Nat := 30

/-- Whether records of a severity number get through. -/
def passes (logger : Logger) (number : Nat) : Bool :=
  logger.threshold.getD defaultThreshold ≤ number

/-- The records that get through. -/
def filter (logger : Logger) (records : List Record) : List Record :=
  records.filter fun r => logger.passes r.severity.number

end Logger

end MonkeyScan
