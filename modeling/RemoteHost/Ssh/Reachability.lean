/-
RemoteHost/Ssh/Reachability.lean

Waiting until a host accepts connections.

The wait is a probe, and after each probe that fails a pause and another probe.  It
ends with the first probe that succeeds.  It gives up when the number of probes that
fit into the ceiling have failed, or when the next pause would not end before the
deadline, so that slow probes count against the ceiling as well.
-/
import RemoteHost.Ssh.Call
import RemoteHost.Ssh.PollPolicy

namespace RemoteHost.Ssh

/-- The readings of the clock lie below this bound. -/
def clockRange : Nat := (1 <<< 63) - 1

/-- The reading of the clock some seconds later, if the clock can show it. -/
def later? (reading secs : Nat) : Option Nat :=
  if reading + secs < clockRange then some (reading + secs) else none

/-- The failure for a host that did not answer in time. -/
def unreachable (address : String) (p : PollPolicy) : Failure where
  kind := .rebootTimeout
  message := address ++ " not reachable within " ++ toString p.ceilingSecs ++ "s"

/-- Probe until a probe succeeds, with at most `left` probes after `made` that failed.
The result is the number of probes made, if the last one succeeded. -/
def pollUntil (address : String) (p : PollPolicy) (deadline : Nat) :
    (left made : Nat) → Talk (Option Nat)
  | 0, _ => pure none
  | left + 1, made => do
    if ← Talk.probe address p.probeTimeout then pure (some (made + 1))
    else if left = 0 then pure none
    else
      match later? (← Talk.now) p.intervalSecs with
      | none => .broken
      | some wake =>
        if deadline ≤ wake then pure none
        else
          Talk.sleep p.intervalSecs
          pollUntil address p deadline left (made + 1)

/-- Wait until an address accepts connections.  The result is the number of probes. -/
def waitReachable (address : String) (p : PollPolicy) : Talk (Outcome Nat) := do
  match later? (← Talk.now) p.ceilingSecs with
  | none => .broken
  | some deadline =>
    match ← pollUntil address p deadline p.attempts 0 with
    | some n => pure (.ok n)
    | none => pure (.error (unreachable address p))

end RemoteHost.Ssh
