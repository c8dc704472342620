import LogShipping.Device.Buffered
import LogShipping.Sink.LineSink

namespace LogShipping

inductive Place where
  /-- The directory that would hold the file is missing. -/
  | nowhere
  | directory
  /-- A device that takes no bytes. -/
  | fullDevice
  | file (content : Option (List UInt8))
  deriving DecidableEq

def Place.read (place : Place) : Except IoError (List UInt8) :=
  match place with
  | nowhere => .error .noSuchFile
  | directory => .error .pathIsDirectory
  | fullDevice => .ok []
  | file none => .error .noSuchFile
  | file (some content) => .ok content

def Place.openToAppend (place : Place) : Except IoError Device.Buffered :=
  match place with
  | nowhere => .error .noSuchFile
  | directory => .error .pathIsDirectory
  | fullDevice => .ok { content := [], isFull := true }
  | file content => .ok { content := content.getD [] }

structure FileSink where
  lines : LineSink Device.Buffered

namespace FileSink

/-- The capacity is checked before the file is touched. -/
def openAt (place : Place) (layout : Layout) (capacity now : Nat) : Except SetupError FileSink :=
  if capacity = 0 then .error (.invalid (.zero "capacity"))
  else
    match place.openToAppend with
    | .error e => .error (.io e)
    | .ok device =>
      .ok ⟨{ LineSink.new device layout capacity now with name := LineSink.fileName }⟩

def device (s : FileSink) : Device.Buffered :=
  s.lines.scene.device

/-- The place as others find it while the sink is open. -/
def place (s : FileSink) : Place :=
  if s.device.isFull then .fullDevice else .file (some s.device.content)

def add (now : Nat) (r : Record) (s : FileSink) : FileSink × Except Refusal Unit :=
  let (lines, result) := s.lines.add now r
  (⟨lines⟩, result)

def askFlush (now : Nat) (tick : Tick) (timeout : Span) (s : FileSink) : FileSink × Option Nat :=
  let (lines, ticket) := s.lines.askFlush now tick timeout
  (⟨lines⟩, ticket)

def work? (s : FileSink) : Option FileSink :=
  s.lines.work?.map FileSink.mk

def settle (s : FileSink) : FileSink :=
  ⟨s.lines.settle⟩

def flush (now : Nat) (tick : Tick) (timeout : Span) (s : FileSink) : FileSink × Option Bool :=
  let (lines, flushed) := s.lines.flush now tick timeout
  (⟨lines⟩, flushed)

def close (now : Nat) (tick : Tick) (timeout : Span) (s : FileSink) : FileSink × Option Bool :=
  let (lines, flushed) := s.lines.close now tick timeout
  (⟨lines⟩, flushed)

/-- Lets the worker finish and empties the buffer. A buffer that cannot be emptied is lost without a
word. -/
def drop (s : FileSink) : FileSink :=
  let lines := s.lines.retire
  ⟨{ lines with scene := { lines.scene with device := lines.scene.device.spill.2 } }⟩

end FileSink

end LogShipping
