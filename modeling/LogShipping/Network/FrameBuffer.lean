import LogShipping.Device
import LogShipping.Text.Utf8

namespace LogShipping

namespace Network

def delimiter : UInt8 := 0

def frame (text : String) : List UInt8 :=
  Text.utf8 text ++ [delimiter]

structure FrameBuffer where
  bytes : List UInt8
  deriving DecidableEq

namespace FrameBuffer

def empty : FrameBuffer := ⟨[]⟩

def push (text : String) (b : FrameBuffer) : FrameBuffer :=
  ⟨b.bytes ++ frame text⟩

def size (b : FrameBuffer) : Nat :=
  b.bytes.length

def isEmpty (b : FrameBuffer) : Bool :=
  b.bytes.isEmpty

def exceeds (limit : Nat) (b : FrameBuffer) : Bool :=
  limit < b.size

/-- Offers all bytes to a stream once, and keeps those it did not take. A stream that is not ready
makes no progress, which is no failure; one that takes nothing of something is. An empty buffer
offers nothing. -/
def write (reply : WriteReply) (b : FrameBuffer) : FrameBuffer × Except IoError (List UInt8) :=
  if b.isEmpty then (b, .ok [])
  else
    match reply with
    | .took 0 => (b, .error .nothingAccepted)
    | .took count => (⟨b.bytes.drop count⟩, .ok (b.bytes.take count))
    | .failed kind => (b, if kind.isTransient then .ok [] else .error (.bare kind))

/-- Offers all bytes to a device, and tells how many of them it took. An empty buffer does not call
the device. -/
def writeTo {μ : Type} [Device μ] (device : μ) (b : FrameBuffer) :
    Except IoError Nat × FrameBuffer × μ :=
  if b.isEmpty then (.ok 0, b, device)
  else
    let (reply, device) := Device.write b.bytes device
    let (rest, result) := b.write reply
    (result.map List.length, rest, device)

@[simp] theorem bytes_push (text : String) (b : FrameBuffer) :
    (b.push text).bytes = b.bytes ++ frame text := rfl

theorem accepted_append_bytes {b rest : FrameBuffer} {reply : WriteReply} {sent : List UInt8}
    (h : b.write reply = (rest, .ok sent)) : sent ++ rest.bytes = b.bytes := by
  unfold write at h
  split at h
  · grind
  · split at h <;> grind [List.take_append_drop]

theorem write_error {b rest : FrameBuffer} {reply : WriteReply} {e : IoError}
    (h : b.write reply = (rest, .error e)) : rest = b := by
  unfold write at h
  split at h
  · grind
  · split at h <;> grind

end FrameBuffer

end Network

end LogShipping
