import LogShipping.IoError

/-!
Devices that lines are written to. A device may not be ready, and then a call has to wait. A write
takes some bytes from the front of what it is offered, or fails.
-/

namespace LogShipping

class Device (μ : Type) where
  ready : μ → Bool
  write : List UInt8 → μ → WriteReply × μ
  /-- Whether everything written so far has been passed on. -/
  flush : μ → Bool × μ

/-- A device that never takes more than it is offered. -/
class LawfulDevice (μ : Type) [Device μ] : Prop where
  count_le : ∀ (bytes : List UInt8) (device : μ) (count : Nat),
    (Device.write bytes device).1 = .took count → count ≤ bytes.length

end LogShipping
