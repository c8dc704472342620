import LogShipping.Device

/-!
A device that keeps what it is given and misbehaves as its script says. Its gate can be closed, and
then it is not ready.
-/

namespace LogShipping.Device

structure Script where
  fails : Option IoError.Kind := none
  /-- A write takes this many bytes at most. -/
  short : Option Nat := none
  /-- So many bytes are taken altogether, and then writes fail. -/
  room : Option Nat := none
  takesNothing : Bool := false
  interrupts : Bool := false
  flushFails : Bool := false
  deriving DecidableEq

structure Scripted where
  gateOpen : Bool := true
  script : Script := {}
  written : List UInt8 := []
  flushes : Nat := 0
  deriving DecidableEq

namespace Scripted

def share (script : Script) (offered : Nat) : Nat :=
  min (min offered (script.short.getD offered)) (script.room.getD offered)

def write (bytes : List UInt8) (d : Scripted) : WriteReply × Scripted :=
  if d.script.interrupts then
    (.failed .interrupted, { d with script := { d.script with interrupts := false } })
  else
    match d.script.fails with
    | some kind => (.failed kind, d)
    | none =>
      if d.script.takesNothing then (.took 0, d)
      else if d.script.room = some 0 then (.failed .storageFull, d)
      else
        let count := share d.script bytes.length
        (.took count,
          { d with
            written := d.written ++ bytes.take count
            script := { d.script with room := d.script.room.map (· - count) } })

def flush (d : Scripted) : Bool × Scripted :=
  (!d.script.flushFails, { d with flushes := d.flushes + 1 })

instance : Device Scripted where
  ready := gateOpen
  write := write
  flush := flush

theorem share_le (script : Script) (offered : Nat) : share script offered ≤ offered :=
  Nat.le_trans (Nat.min_le_left _ _) (Nat.min_le_left _ _)

instance : LawfulDevice Scripted where
  count_le bytes device count h := by
    have hreply : (write bytes device).1 = .took count := h
    unfold write at hreply
    split at hreply
    · cases hreply
    split at hreply
    · cases hreply
    split at hreply
    · cases hreply
      exact Nat.zero_le _
    split at hreply
    · cases hreply
    · cases hreply
      exact share_le device.script bytes.length

end Scripted

end LogShipping.Device
