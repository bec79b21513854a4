/-! # Errors of the machine

The ways in which the machine refuses to open a file, to change one, or to start a program, with
the texts that stand for them in messages.
-/

namespace HostFlash

/-- Why the machine refused. -/
inductive IoError where
  | notPermitted
  | noEntry
  | noProcess
  | noDevice
  | execFormat
  | badDescriptor
  | noChild
  | permissionDenied
  | busy
  | occupied
  | notDirectory
  | isDirectory
  | invalidArgument
  | noSpace
  | noSeek
  | brokenPipe
  | nameTooLong
  | notEmpty
  | tooManyLinks
  | nulInPath
  | nulInArgument
  | notText
  /-- Every name that was tried for a scratch directory was taken. -/
  | noNameLeft
deriving Repr, DecidableEq

namespace IoError

/-- What an error is, in words. -/
def reason : IoError → String
  | notPermitted => "Operation not permitted"
  | noEntry => "No such file or directory"
  | noProcess => "No such process"
  | noDevice => "No such device or address"
  | execFormat => "Exec format error"
  | badDescriptor => "Bad file descriptor"
  | noChild => "No child processes"
  | permissionDenied => "Permission denied"
  | busy => "Device or resource busy"
  | occupied => "File exists"
  | notDirectory => "Not a directory"
  | isDirectory => "Is a directory"
  | invalidArgument => "Invalid argument"
  | noSpace => "No space left on device"
  | noSeek => "Illegal seek"
  | brokenPipe => "Broken pipe"
  | nameTooLong => "File name too long"
  | notEmpty => "Directory not empty"
  | tooManyLinks => "Too many levels of symbolic links"
  | nulInPath => "file name contained an unexpected NUL byte"
  | nulInArgument => "nul byte found in provided data"
  | notText => "stream did not contain valid UTF-8"
  | noNameLeft => "too many temporary files exist"

/-- The number that the system has for an error. -/
def number? : IoError → Option Nat
  | notPermitted => some 1
  | noEntry => some 2
  | noProcess => some 3
  | noDevice => some 6
  | execFormat => some 8
  | badDescriptor => some 9
  | noChild => some 10
  | permissionDenied => some 13
  | busy => some 16
  | occupied => some 17
  | notDirectory => some 20
  | isDirectory => some 21
  | invalidArgument => some 22
  | noSpace => some 28
  | noSeek => some 29
  | brokenPipe => some 32
  | nameTooLong => some 36
  | notEmpty => some 39
  | tooManyLinks => some 40
  | nulInPath | nulInArgument | notText | noNameLeft => none

/-- The text of an error. Those that the system numbers end in their number. -/
def message (e : IoError) : String :=
  match e.number? with
  | some n => e.reason ++ " (os error " ++ toString n ++ ")"
  | none => e.reason

end IoError

end HostFlash
