import LogShipping.Refusal
import LogShipping.Text.Blank
import LogShipping.Text.Inspect
import LogShipping.Throttle
import LogShipping.Time.Span

/-!
What an uplink is told about its server: where it is, how much may wait, and when to try again.
Settings made directly are taken as they are; `Options` are checked first.
-/

namespace LogShipping.Uplink

inductive Lookup where
  | system
  /-- One of the program's own, known by a number. -/
  | own (number : Nat)
  deriving DecidableEq

structure Settings where
  host : String
  port : UInt16
  lookup : Lookup
  /-- How many messages may wait while the server cannot be reached. -/
  maxWaiting : Nat
  /-- The wait after a failed lookup, or after every endpoint has been dialled in vain. -/
  longRetry : Span
  /-- The wait after an established connection was lost. -/
  shortRetry : Span
  pollInterval : Span
  /-- More unsent bytes than this and no further message is taken from the queue. -/
  highWater : Nat
  connectTimeout : Span
  warnInterval : Span
  deriving DecidableEq

namespace Settings

def standardPort : UInt16 := 12201

def forServer (host : String) (port : UInt16) : Settings where
  host
  port
  lookup := .system
  maxWaiting := 100
  longRetry := .ofSeconds 10
  shortRetry := .ofMillis 100
  pollInterval := .ofMillis 10
  highWater := 3000
  connectTimeout := .ofSeconds 5
  warnInterval := .ofMillis Throttle.standardInterval

def standard : Settings :=
  forServer "localhost" standardPort

def target (s : Settings) : String :=
  s.host ++ ":" ++ decimalText s.port.toNat

def inspect (s : Settings) : String :=
  Inspect.parts "ConnectionConfig"
    [("host", Inspect.quoted s.host),
      ("port", decimalText s.port.toNat),
      ("max_queue_length", decimalText s.maxWaiting),
      ("long_retry_delay", s.longRetry.text),
      ("short_retry_delay", s.shortRetry.text),
      ("poll_interval", s.pollInterval.text),
      ("high_water_mark", decimalText s.highWater),
      ("connect_timeout", s.connectTimeout.text)]
    true

end Settings

/-- Choices made one by one before there are settings. Times are in milliseconds. -/
structure Options where
  host : Option String := none
  port : Option UInt16 := none
  capacity : Option Nat := none
  longRetry : Option Nat := none
  shortRetry : Option Nat := none
  connectTimeout : Option Nat := none
  warnInterval : Option Nat := none
  lookup : Option Lookup := none
  deriving DecidableEq

inductive Choice where
  | host (name : String)
  | port (number : UInt16)
  | capacity (count : Nat)
  | longRetry (millis : Nat)
  | shortRetry (millis : Nat)
  | connectTimeout (millis : Nat)
  | warnInterval (millis : Nat)
  | lookup (lookup : Lookup)
  deriving DecidableEq

namespace Options

def unset : Options := {}

def choose (o : Options) : Choice → Options
  | .host name => { o with host := some name }
  | .port number => { o with port := some number }
  | .capacity count => { o with capacity := some count }
  | .longRetry millis => { o with longRetry := some millis }
  | .shortRetry millis => { o with shortRetry := some millis }
  | .connectTimeout millis => { o with connectTimeout := some millis }
  | .warnInterval millis => { o with warnInterval := some millis }
  | .lookup lookup => { o with lookup := some lookup }

/-- The options that must not be zero, in the order in which they are checked. -/
def positive (o : Options) : List (String × Option Nat) :=
  [("port", o.port.map UInt16.toNat),
    ("capacity", o.capacity),
    ("long_retry_delay_ms", o.longRetry),
    ("short_retry_delay_ms", o.shortRetry),
    ("connect_timeout_ms", o.connectTimeout),
    ("warn_interval_ms", o.warnInterval)]

def fault? (o : Options) : Option Misconfiguration :=
  if Text.isBlank (o.host.getD "") then some .blankHost
  else (o.positive.find? fun entry => entry.2 = some 0).map fun entry => .zero entry.1

def settings (o : Options) : Except SetupError Settings :=
  match o.fault? with
  | some fault => .error (.invalid fault)
  | none =>
    let base := Settings.forServer (o.host.getD "") (o.port.getD Settings.standardPort)
    .ok { base with
      lookup := o.lookup.getD base.lookup
      maxWaiting := o.capacity.getD base.maxWaiting
      longRetry := (o.longRetry.map Span.ofMillis).getD base.longRetry
      shortRetry := (o.shortRetry.map Span.ofMillis).getD base.shortRetry
      connectTimeout := (o.connectTimeout.map Span.ofMillis).getD base.connectTimeout
      warnInterval := (o.warnInterval.map Span.ofMillis).getD base.warnInterval }

def inspect (o : Options) : String :=
  let number := Inspect.optional decimalText
  Inspect.parts "GraylogHandlerBuilder"
    [("host", Inspect.optional Inspect.quoted o.host),
      ("port", number (o.port.map UInt16.toNat)),
      ("capacity", number o.capacity),
      ("long_retry_delay_ms", number o.longRetry),
      ("short_retry_delay_ms", number o.shortRetry),
      ("connect_timeout_ms", number o.connectTimeout),
      ("warn_interval_ms", number o.warnInterval),
      ("custom_resolver", Inspect.truth o.lookup.isSome)]
    false

end Options

end LogShipping.Uplink
