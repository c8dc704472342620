/-!
Syslog severities. A lower level is more severe, and the level is what travels on the wire.
-/

namespace LogShipping

inductive Severity where
  | emergency
  | alert
  | critical
  | error
  | warning
  | notice
  | info
  | debug
  deriving DecidableEq

namespace Severity

def level : Severity → Nat
  | emergency => 0
  | alert => 1
  | critical => 2
  | error => 3
  | warning => 4
  | notice => 5
  | info => 6
  | debug => 7

/-- How a severity is printed in a log line: the upper five in capitals. -/
def label : Severity → String
  | emergency => "EMERGENCY"
  | alert => "ALERT"
  | critical => "CRITICAL"
  | error => "ERROR"
  | warning => "WARNING"
  | notice => "Notice"
  | info => "Info"
  | debug => "Debug"

def name : Severity → String
  | emergency => "Emergency"
  | alert => "Alert"
  | critical => "Critical"
  | error => "Error"
  | warning => "Warning"
  | notice => "Notice"
  | info => "Info"
  | debug => "Debug"

def standard : Severity := notice

def passes (s threshold : Severity) : Bool :=
  s.level ≤ threshold.level

def ofLevel? : Nat → Option Severity
  | 0 => some emergency
  | 1 => some alert
  | 2 => some critical
  | 3 => some error
  | 4 => some warning
  | 5 => some notice
  | 6 => some info
  | 7 => some debug
  | _ => none

def ofCapitals? : String → Option Severity
  | "EMERGENCY" => some emergency
  | "ALERT" => some alert
  | "CRITICAL" => some critical
  | "ERROR" => some error
  | "WARNING" => some warning
  | "WARN" => some warning
  | "NOTICE" => some notice
  | "INFO" => some info
  | "INFORMATIONAL" => some info
  | "DEBUG" => some debug
  | _ => none

/-- Text or a number that names no severity. -/
structure Unknown where
  text : String

def Unknown.message (e : Unknown) : String :=
  "invalid severity: " ++ e.text

/-- Reads a name in any mixture of ASCII cases. Letters outside ASCII have no case here, so that
`ınfo` is refused. -/
def parse (text : String) : Except Unknown Severity :=
  match ofCapitals? (text.map Char.toUpper) with
  | some s => .ok s
  | none => .error ⟨text⟩

def ofLevel (level : Nat) : Except Unknown Severity :=
  match ofLevel? level with
  | some s => .ok s
  | none => .error ⟨toString level⟩

end Severity

end LogShipping
