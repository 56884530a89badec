import RestConfig.Failure

/-!
# A clock for tests

A clock that moves only when told: it starts at a given number of milliseconds and keeps
nanoseconds. Sleeping and advancing both move it forward by a number of milliseconds;
asking to move backwards fails and leaves it where it was. Milliseconds are the
nanoseconds divided by a million, rounded down.
-/

namespace RestConfig

/-- A clock that moves only when told, reading nanoseconds. -/
structure Clock where
  nanos : Nat
  deriving DecidableEq, Inhabited

namespace Clock

def nanosPerMilli : Nat := 1000000

def start (ms : Int) : Except Failure Clock :=
  if ms < 0 then .error (.badArgument "start_ms must be >= 0")
  else .ok ⟨ms.toNat * nanosPerMilli⟩

def advance (c : Clock) (ms : Int) : Except Failure Clock :=
  if ms < 0 then .error (.badArgument "cannot move a clock backwards")
  else .ok ⟨c.nanos + ms.toNat * nanosPerMilli⟩

def sleep (c : Clock) (ms : Int) : Except Failure Clock := c.advance ms

def nanoseconds (c : Clock) : Nat := c.nanos

def milliseconds (c : Clock) : Nat := c.nanos / nanosPerMilli

def describe (c : Clock) : String := "MockTime(ms=" ++ toString c.milliseconds ++ ")"

end Clock

end RestConfig
