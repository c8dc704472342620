import LogShipping.Device.Recorded
import LogShipping.Network.FrameBuffer

namespace LogShipping.Network.FrameBuffer

open Device (Recorded)

inductive Call (μ : Type) where
  | push (text : String)
  | write (device : μ)
  deriving DecidableEq

variable {μ : Type}

def Call.text? : Call μ → Option String
  | push text => some text
  | write _ => none

def Call.device? : Call μ → Option μ
  | push _ => none
  | write device => some device

/-- A write to a device, with the buffer before it and after it, and what it returned. -/
structure Attempt (μ : Type) where
  before : FrameBuffer
  device : μ
  result : Except IoError Nat
  after : FrameBuffer
  /-- The device as it was left, and the bytes that it took. -/
  recorded : Recorded μ

variable [Device μ]

def Attempt.of (device : μ) (b : FrameBuffer) : Attempt μ :=
  let (result, after, recorded) := b.writeTo (Recorded.of device)
  ⟨b, device, result, after, recorded⟩

def Attempt.reply (a : Attempt μ) : WriteReply :=
  (Device.write a.before.bytes a.device).1

def attempts : List (Call μ) → FrameBuffer → List (Attempt μ)
  | [], _ => []
  | .push text :: rest, b => attempts rest (b.push text)
  | .write device :: rest, b => .of device b :: attempts rest (Attempt.of device b).after

def afterCalls : List (Call μ) → FrameBuffer → FrameBuffer
  | [], b => b
  | .push text :: rest, b => afterCalls rest (b.push text)
  | .write device :: rest, b => afterCalls rest (Attempt.of device b).after

end LogShipping.Network.FrameBuffer
