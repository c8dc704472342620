import LogShipping.IoError

namespace LogShipping

inductive Refusal where
  /-- As many records wait as may wait; the record is dropped. -/
  | queueFull
  | closed
  deriving DecidableEq

def Refusal.message : Refusal → String
  | queueFull => "handler queue is full"
  | closed => "handler is closed"

inductive Misconfiguration where
  | blankHost
  /-- An option that counts something was set to zero. -/
  | zero (option : String)
  | described (reason : String)
  deriving DecidableEq

def Misconfiguration.reason : Misconfiguration → String
  | blankHost => "graylog host must not be empty"
  | zero option => option ++ " must be greater than zero"
  | described reason => reason

inductive SetupError where
  | invalid (cause : Misconfiguration)
  | io (cause : IoError)
  deriving DecidableEq

def SetupError.message : SetupError → String
  | invalid cause => "invalid handler configuration: " ++ cause.reason
  | io cause => cause.message

end LogShipping
