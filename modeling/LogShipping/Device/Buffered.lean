import LogShipping.Device

/-!
A file opened for appending, behind a buffer. Bytes reach the file when the buffer has no room for
the next piece, and on a flush. A piece as long as the buffer goes straight to the file.
-/

namespace LogShipping.Device

structure Buffered where
  content : List UInt8
  pending : List UInt8 := []
  isFull : Bool := false
  deriving DecidableEq

namespace Buffered

def capacity : Nat := 8192

/-- Moves the pending bytes into the file; they stay pending if it takes nothing. -/
def spill (d : Buffered) : Bool × Buffered :=
  if d.pending.isEmpty then (true, d)
  else if d.isFull then (false, d)
  else (true, { d with content := d.content ++ d.pending, pending := [] })

def writeThrough (bytes : List UInt8) (d : Buffered) : WriteReply × Buffered :=
  if d.isFull then (.failed .storageFull, d)
  else (.took bytes.length, { d with content := d.content ++ bytes })

/-- A piece is taken whole or not at all. -/
def write (bytes : List UInt8) (d : Buffered) : WriteReply × Buffered :=
  let (spilled, d) := if capacity < d.pending.length + bytes.length then d.spill else (true, d)
  if spilled then
    if capacity ≤ bytes.length then d.writeThrough bytes
    else (.took bytes.length, { d with pending := d.pending ++ bytes })
  else (.failed .storageFull, d)

instance : Device Buffered where
  ready := fun _ => true
  write := write
  flush := spill

end Buffered

end LogShipping.Device
