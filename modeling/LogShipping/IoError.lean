namespace LogShipping

inductive IoError.Kind where
  | brokenPipe
  | connectionReset
  | connectionAborted
  | connectionRefused
  | timedOut
  | writeZero
  | notConnected
  | unexpectedEof
  | permissionDenied
  | outOfMemory
  | storageFull
  | notFound
  | isADirectory
  | wouldBlock
  | interrupted
  | hostUnreachable
  | networkUnreachable
  | networkDown
  | addressInUse
  | addressNotAvailable
  | alreadyExists
  | notADirectory
  | directoryNotEmpty
  | readOnlyFilesystem
  | filesystemLoop
  | staleNetworkFileHandle
  | invalidInput
  | invalidData
  | notSeekable
  | quotaExceeded
  | fileTooLarge
  | resourceBusy
  | executableFileBusy
  | deadlock
  | crossesDevices
  | tooManyLinks
  | invalidFilename
  | argumentListTooLong
  | unsupported
  | inProgress
  | uncategorized
  | other
  deriving DecidableEq

namespace IoError.Kind

def all : List IoError.Kind :=
  [brokenPipe, connectionReset, connectionAborted, connectionRefused, timedOut, writeZero,
    notConnected, unexpectedEof, permissionDenied, outOfMemory, storageFull, notFound,
    isADirectory, wouldBlock, interrupted, hostUnreachable, networkUnreachable, networkDown,
    addressInUse, addressNotAvailable, alreadyExists, notADirectory, directoryNotEmpty,
    readOnlyFilesystem, filesystemLoop, staleNetworkFileHandle, invalidInput, invalidData,
    notSeekable, quotaExceeded, fileTooLarge, resourceBusy, executableFileBusy, deadlock,
    crossesDevices, tooManyLinks, invalidFilename, argumentListTooLong, unsupported, inProgress,
    uncategorized, other]

def name : IoError.Kind → String
  | brokenPipe => "BrokenPipe"
  | connectionReset => "ConnectionReset"
  | connectionAborted => "ConnectionAborted"
  | connectionRefused => "ConnectionRefused"
  | timedOut => "TimedOut"
  | writeZero => "WriteZero"
  | notConnected => "NotConnected"
  | unexpectedEof => "UnexpectedEof"
  | permissionDenied => "PermissionDenied"
  | outOfMemory => "OutOfMemory"
  | storageFull => "StorageFull"
  | notFound => "NotFound"
  | isADirectory => "IsADirectory"
  | wouldBlock => "WouldBlock"
  | interrupted => "Interrupted"
  | hostUnreachable => "HostUnreachable"
  | networkUnreachable => "NetworkUnreachable"
  | networkDown => "NetworkDown"
  | addressInUse => "AddrInUse"
  | addressNotAvailable => "AddrNotAvailable"
  | alreadyExists => "AlreadyExists"
  | notADirectory => "NotADirectory"
  | directoryNotEmpty => "DirectoryNotEmpty"
  | readOnlyFilesystem => "ReadOnlyFilesystem"
  | filesystemLoop => "FilesystemLoop"
  | staleNetworkFileHandle => "StaleNetworkFileHandle"
  | invalidInput => "InvalidInput"
  | invalidData => "InvalidData"
  | notSeekable => "NotSeekable"
  | quotaExceeded => "QuotaExceeded"
  | fileTooLarge => "FileTooLarge"
  | resourceBusy => "ResourceBusy"
  | executableFileBusy => "ExecutableFileBusy"
  | deadlock => "Deadlock"
  | crossesDevices => "CrossesDevices"
  | tooManyLinks => "TooManyLinks"
  | invalidFilename => "InvalidFilename"
  | argumentListTooLong => "ArgumentListTooLong"
  | unsupported => "Unsupported"
  | inProgress => "InProgress"
  | uncategorized => "Uncategorized"
  | other => "Other"

def ofName? (s : String) : Option IoError.Kind :=
  all.find? fun kind => kind.name = s

def description : IoError.Kind → String
  | brokenPipe => "broken pipe"
  | connectionReset => "connection reset"
  | connectionAborted => "connection aborted"
  | connectionRefused => "connection refused"
  | timedOut => "timed out"
  | writeZero => "write zero"
  | notConnected => "not connected"
  | unexpectedEof => "unexpected end of file"
  | permissionDenied => "permission denied"
  | outOfMemory => "out of memory"
  | storageFull => "no storage space"
  | notFound => "entity not found"
  | isADirectory => "is a directory"
  | wouldBlock => "operation would block"
  | interrupted => "operation interrupted"
  | hostUnreachable => "host unreachable"
  | networkUnreachable => "network unreachable"
  | networkDown => "network down"
  | addressInUse => "address in use"
  | addressNotAvailable => "address not available"
  | alreadyExists => "entity already exists"
  | notADirectory => "not a directory"
  | directoryNotEmpty => "directory not empty"
  | readOnlyFilesystem => "read-only filesystem or storage medium"
  | filesystemLoop => "filesystem loop or indirection limit (e.g. symlink loop)"
  | staleNetworkFileHandle => "stale network file handle"
  | invalidInput => "invalid input parameter"
  | invalidData => "invalid data"
  | notSeekable => "seek on unseekable file"
  | quotaExceeded => "quota exceeded"
  | fileTooLarge => "file too large"
  | resourceBusy => "resource busy"
  | executableFileBusy => "executable file busy"
  | deadlock => "deadlock"
  | crossesDevices => "cross-device link or rename"
  | tooManyLinks => "too many links"
  | invalidFilename => "invalid filename"
  | argumentListTooLong => "argument list too long"
  | unsupported => "unsupported"
  | inProgress => "in progress"
  | uncategorized => "uncategorized error"
  | other => "other error"

/-- Whether the same call may succeed when it is made again. -/
def isTransient (kind : IoError.Kind) : Bool :=
  kind = wouldBlock ∨ kind = interrupted

end IoError.Kind

/-- A failure and where it came from. -/
inductive IoError where
  /-- Reported with nothing but its kind. -/
  | bare (kind : IoError.Kind)
  /-- The other side took none of the bytes it was offered. -/
  | nothingAccepted
  /-- The other side closed the connection. -/
  | closedByPeer
  | noSuchFile
  | pathIsDirectory
  | refusedConnection
  /-- Reported with a text of its own. -/
  | described (kind : IoError.Kind) (text : String)
  deriving DecidableEq

namespace IoError

def kind : IoError → Kind
  | bare kind => kind
  | nothingAccepted => .writeZero
  | closedByPeer => .connectionAborted
  | noSuchFile => .notFound
  | pathIsDirectory => .isADirectory
  | refusedConnection => .connectionRefused
  | described kind _ => kind

def message : IoError → String
  | bare kind => kind.description
  | nothingAccepted => "socket accepted no bytes"
  | closedByPeer => "server closed the connection"
  | noSuchFile => "No such file or directory (os error 2)"
  | pathIsDirectory => "Is a directory (os error 21)"
  | refusedConnection => "Connection refused (os error 111)"
  | described _ text => text

end IoError

inductive WriteReply where
  /-- It took this many of them from the front. -/
  | took (count : Nat)
  | failed (kind : IoError.Kind)
  deriving DecidableEq

end LogShipping
