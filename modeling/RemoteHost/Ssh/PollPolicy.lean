/-
RemoteHost/Ssh/PollPolicy.lean

How long to wait for a host, and how often to look.

All times are whole seconds.  The ceiling bounds the whole wait; a probe is made
every interval, and at least one probe is made in any case.
-/
import RemoteHost.Json.Record
import RemoteHost.Json.Value

namespace RemoteHost.Ssh

/-- The times of a reboot: when to begin to look, how often, and when to give up. -/
structure PollPolicy where
  /-- From the reboot command to the first probe. -/
  graceSecs : Nat := 10
  /-- Between two probes. -/
  intervalSecs : Nat := 10
  /-- For all probes together. -/
  ceilingSecs : Nat := 600
  /-- From the first probe that succeeds to the next login. -/
  settleSecs : Nat := 10
  /-- For one probe. -/
  probeTimeoutSecs : Nat := 5
  deriving DecidableEq, Repr

namespace PollPolicy

/-- The time that one probe may take, at least one second. -/
def probeTimeout (p : PollPolicy) : Nat := max p.probeTimeoutSecs 1

/-- The number of probes that fit into the ceiling, at least one. -/
def attempts (p : PollPolicy) : Nat :=
  if p.intervalSecs = 0 then 1 else max (p.ceilingSecs / p.intervalSecs) 1

theorem attempts_pos (p : PollPolicy) : 0 < p.attempts := by
  unfold attempts
  split <;> omega

/-- The text for debug output. -/
def debug (p : PollPolicy) : String :=
  "PollPolicy \x7b grace_secs: " ++ toString p.graceSecs ++
    ", interval_secs: " ++ toString p.intervalSecs ++
    ", ceiling_secs: " ++ toString p.ceilingSecs ++
    ", settle_secs: " ++ toString p.settleSecs ++
    ", probe_timeout_secs: " ++ toString p.probeTimeoutSecs ++ " \x7d"

/-! ### JSON -/

/-- The JSON form. -/
def toJson (p : PollPolicy) : Json :=
  .obj [("graceSecs", .ofNat p.graceSecs), ("intervalSecs", .ofNat p.intervalSecs),
    ("ceilingSecs", .ofNat p.ceilingSecs), ("settleSecs", .ofNat p.settleSecs),
    ("probeTimeoutSecs", .ofNat p.probeTimeoutSecs)]

/-- A policy that is being read. -/
structure Draft where
  grace : Option Nat := none
  interval : Option Nat := none
  ceiling : Option Nat := none
  settle : Option Nat := none
  probeTimeout : Option Nat := none

/-- A time of the policy. -/
def secondsField (name : String) (get : Draft → Option Nat) (set : Nat → Draft → Draft) :
    Json.Field Draft where
  name := name
  required := false
  isSet := fun d => (get d).isSome
  read := do
    let v ← Json.readWord 64
    pure (set v)

/-- The times of a policy. -/
def schema : Json.Schema Draft where
  name := "PollPolicy"
  fields :=
    [ secondsField "graceSecs" (·.grace) fun v d => { d with grace := some v },
      secondsField "intervalSecs" (·.interval) fun v d => { d with interval := some v },
      secondsField "ceilingSecs" (·.ceiling) fun v d => { d with ceiling := some v },
      secondsField "settleSecs" (·.settle) fun v d => { d with settle := some v },
      secondsField "probeTimeoutSecs" (·.probeTimeout)
        fun v d => { d with probeTimeout := some v } ]

/-- Read a policy from its JSON form; a time that is not given has its default. -/
def decode (text : String) : Except Json.Fault PollPolicy :=
  (schema.decode {} text).map fun d =>
    let default : PollPolicy := {}
    { graceSecs := d.grace.getD default.graceSecs
      intervalSecs := d.interval.getD default.intervalSecs
      ceilingSecs := d.ceiling.getD default.ceilingSecs
      settleSecs := d.settle.getD default.settleSecs
      probeTimeoutSecs := d.probeTimeout.getD default.probeTimeoutSecs }

end PollPolicy

end RemoteHost.Ssh
