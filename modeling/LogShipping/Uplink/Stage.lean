namespace LogShipping.Uplink

inductive Stage where
  | addressLookup
  | retryWait
  | connecting
  | sendLoop
  deriving DecidableEq

namespace Stage

def all : List Stage :=
  [addressLookup, retryWait, connecting, sendLoop]

def code : Stage → Nat
  | addressLookup => 0
  | retryWait => 1
  | connecting => 2
  | sendLoop => 3

def text : Stage → String
  | addressLookup => "address lookup"
  | retryWait => "address retry wait"
  | connecting => "connecting"
  | sendLoop => "send loop"

def name : Stage → String
  | addressLookup => "AddressLookup"
  | retryWait => "AddressRetryWait"
  | connecting => "Connecting"
  | sendLoop => "SendLoop"

def ofName? (s : String) : Option Stage :=
  all.find? fun stage => stage.name = s

end Stage

end LogShipping.Uplink
