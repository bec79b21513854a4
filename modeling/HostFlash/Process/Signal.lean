/-! # Signals

The signals that processes send each other, by their numbers.
-/

namespace HostFlash.Signal

/-- What a signal does to a process that has not said otherwise. -/
inductive Effect where
  | terminate
  | ignore
  | stop
  | resume
deriving Repr, DecidableEq

/-- The names of the signals with their numbers. -/
def names : List (String × Nat) :=
  [("HUP", 1), ("INT", 2), ("QUIT", 3), ("ILL", 4), ("TRAP", 5), ("ABRT", 6), ("BUS", 7),
   ("FPE", 8), ("KILL", 9), ("USR1", 10), ("SEGV", 11), ("USR2", 12), ("PIPE", 13), ("ALRM", 14),
   ("TERM", 15), ("CHLD", 17), ("CONT", 18), ("STOP", 19), ("TSTP", 20),
   ("TTIN", 21), ("TTOU", 22), ("URG", 23), ("XCPU", 24), ("XFSZ", 25), ("VTALRM", 26),
   ("PROF", 27), ("WINCH", 28), ("IO", 29), ("PWR", 30), ("SYS", 31)] ++
  (List.range 16).map (fun n => ("RTMIN" ++ (if n = 0 then "" else "+" ++ toString n), 34 + n)) ++
  (List.range 15).map (fun n => ("RTMAX" ++ (if n = 14 then "" else "-" ++ toString (14 - n)),
    50 + n))

/-- One more than the largest number of a signal. -/
def count : Nat := 65

/-- The name of a signal. -/
def name? (signal : Nat) : Option String :=
  (names.find? (·.2 = signal)).map (·.1)

/-- The number of a signal, from its name in either case. -/
def ofName? (name : String) : Option Nat :=
  names.lookup name.toUpper

/-- What a signal does by default. -/
def effect (signal : Nat) : Effect :=
  if signal = 17 || signal = 23 || signal = 28 then .ignore
  else if signal = 18 then .resume
  else if 19 ≤ signal && signal ≤ 22 then .stop
  else .terminate

/-- The signals that no process can catch. -/
def isSovereign (signal : Nat) : Bool := signal = 9 || signal = 19

/-- What a signal did to a process, in words. -/
def description (signal : Nat) : String :=
  match signal with
  | 1 => "Hangup"
  | 2 => "Interrupt"
  | 3 => "Quit"
  | 4 => "Illegal instruction"
  | 5 => "Trace/breakpoint trap"
  | 6 => "Aborted"
  | 7 => "Bus error"
  | 8 => "Floating point exception"
  | 9 => "Killed"
  | 10 => "User defined signal 1"
  | 11 => "Segmentation fault"
  | 12 => "User defined signal 2"
  | 13 => "Broken pipe"
  | 14 => "Alarm clock"
  | 15 => "Terminated"
  | 16 => "Stack fault"
  | 24 => "CPU time limit exceeded"
  | 25 => "File size limit exceeded"
  | 26 => "Virtual timer expired"
  | 27 => "Profiling timer expired"
  | 29 => "I/O possible"
  | 30 => "Power failure"
  | 31 => "Bad system call"
  | n => if n ≥ 34 then "Real-time signal " ++ toString (n - 34) else "Signal " ++ toString n

end HostFlash.Signal
