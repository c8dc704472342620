import LogShipping.Device

namespace LogShipping.Device

structure Recorded (μ : Type) where
  device : μ
  taken : List UInt8
  flushes : List Bool
  deriving DecidableEq

namespace Recorded

variable {μ : Type}

def of (device : μ) : Recorded μ :=
  ⟨device, [], []⟩

variable [Device μ]

def write (bytes : List UInt8) (d : Recorded μ) : WriteReply × Recorded μ :=
  let (reply, device) := Device.write bytes d.device
  let sent :=
    match reply with
    | .took count => bytes.take count
    | .failed _ => []
  (reply, { d with device, taken := d.taken ++ sent })

def flush (d : Recorded μ) : Bool × Recorded μ :=
  let (ok, device) := Device.flush d.device
  (ok, { d with device, flushes := d.flushes ++ [ok] })

instance : Device (Recorded μ) where
  ready d := Device.ready d.device
  write := write
  flush := flush

end Recorded

end LogShipping.Device
