import LogShipping.IoError
import LogShipping.Network.Endpoint
import LogShipping.Uplink.Settings
import LogShipping.Uplink.Stage

namespace LogShipping.Uplink

inductive Event where
  | moved (before after : Stage)
  | lookupFailed (reason : String)
  | lookupEmpty
  | dialFailed (endpoint : Network.Endpoint) (cause : IoError)
  | dialled (endpoint : Network.Endpoint)
  /-- The connection is gone, and with it so many bytes that were not yet sent. -/
  | lost (cause : IoError) (discarded : Nat)
  /-- So many messages were refused since the last report. -/
  | queueFull (count : UInt64)
  /-- The same, told by a flush. -/
  | dropped (count : UInt64)
  deriving DecidableEq

namespace Event

/-- Reports of refused messages are warnings; everything else is for finding faults. -/
def isWarning : Event → Bool
  | queueFull _ => true
  | dropped _ => true
  | _ => false

def text (settings : Settings) : Event → String
  | moved before after =>
    "Graylog connection " ++ settings.target ++ ": " ++ before.text ++ " -> " ++ after.text
  | lookupFailed reason => "Graylog host " ++ settings.host ++ " failed to resolve: " ++ reason
  | lookupEmpty => "Graylog host " ++ settings.host ++ " resolved to no addresses"
  | dialFailed endpoint cause =>
    "Graylog connect to " ++ endpoint.text ++ " failed: " ++ cause.message
  | dialled endpoint => "Graylog connection established to " ++ endpoint.text
  | lost cause discarded =>
    "Graylog connection " ++ settings.target ++ " lost: " ++ cause.message ++ "; discarding " ++
      decimalText discarded ++ " buffered bytes"
  | queueFull count =>
    "GraylogConnection " ++ settings.target ++ " queue full; dropped " ++
      decimalText count.toNat ++ " messages"
  | dropped count =>
    "GraylogConnection " ++ settings.target ++ " dropped " ++ decimalText count.toNat ++
      " messages in the last interval"

end Event

end LogShipping.Uplink
