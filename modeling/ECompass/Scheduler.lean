import ECompass.Channel

/-!
# Scheduler

The platform has a timer with one trigger for each channel. The scheduler keeps the poll interval of
each channel and turns requests for poll rates into calls on the timer. An interval of zero means
that the channel is measured on demand only, and a stopped scheduler treats every channel so; it
keeps the intervals for the next start.

An operation of the scheduler gives the calls that it makes together with the scheduler that it
leaves. All times are in microseconds.
-/

namespace ECompass

/-- A call on the timer. -/
inductive TimerCall where
  /-- Fire after the delay and then at every interval. -/
  | every (c : Channel) (delay interval : Nat)
  /-- Put the next firing off by the delay and keep the interval. -/
  | delay (c : Channel) (delay : Nat)
  /-- Change the interval of an armed trigger. -/
  | interval (c : Channel) (interval : Nat)
  /-- Disarm the trigger. -/
  | cancel (c : Channel)
  deriving DecidableEq

/-- A requested poll rate. -/
inductive PollRate where
  /-- No trigger; measure when read. -/
  | manual
  /-- The fastest rate of the channel. -/
  | max
  /-- The usual rate of the channel. -/
  | default
  /-- A rate in hertz. -/
  | hertz (rate : Nat)
  deriving DecidableEq

namespace PollRate

/-- The rate in hertz that a request means for a channel, or nothing for manual operation. -/
def resolve (rate : PollRate) (c : Channel) : Option Nat :=
  match rate, c with
  | .manual, _ => none
  | .max, .accel => some 1600
  | .default, .accel => some 800
  | .max, .mag => some 100
  | .default, .mag => some 100
  | .hertz rate, _ => some rate

end PollRate

/-- What a change of poll rate did to the triggers. -/
inductive Reschedule where
  /-- The channel went to manual operation. -/
  | stopped
  /-- The triggers were started anew. -/
  | started
  /-- The interval of an armed trigger was changed. -/
  | retuned
  deriving DecidableEq

/-- The poll intervals of the channels, and whether the triggers are armed. -/
structure Scheduler where
  /-- The poll interval of each channel, zero for manual operation. -/
  interval : PerChannel Nat
  /-- Whether the triggers are armed. -/
  running : Bool
  deriving DecidableEq

namespace Scheduler

/-- Delay before the first firing after a start. -/
def startDelay : Nat := 1000

/-- Microseconds in a second. -/
def second : Nat := 1000000

/-- The shortest poll interval of a channel. -/
def minInterval : Channel → Nat
  | .accel => 500
  | .mag => 1000

/-- Both channels manual and nothing armed. -/
def initial : Scheduler := ⟨.both 0, false⟩

/-- Whether a channel is polled. -/
def isActive (s : Scheduler) (c : Channel) : Bool := s.running && 0 < s.interval.get c

/-- The poll rate of a channel, manual while it is not polled. -/
def pollRate (s : Scheduler) (c : Channel) : PollRate :=
  if s.isActive c then .hertz (second / s.interval.get c) else .manual

/-- The interval for polling a channel at a rate, or nothing if the rate is zero or too fast. -/
def intervalFor (c : Channel) (rate : Nat) : Option Nat :=
  if rate = 0 ∨ second / rate < minInterval c then none else some (second / rate)

/-- Disarms both triggers and keeps the intervals. -/
def stop (s : Scheduler) : List TimerCall × Scheduler :=
  ([.cancel .accel, .cancel .mag], { s with running := false })

/-- The calls that arm the trigger of a channel, if it has an interval. -/
def arm (s : Scheduler) (c : Channel) : List TimerCall :=
  if 0 < s.interval.get c then [.every c startDelay (s.interval.get c)] else []

/-- Disarms both triggers, then arms the one of every channel with an interval. -/
def start (s : Scheduler) : List TimerCall × Scheduler :=
  (s.stop.1 ++ s.arm .accel ++ s.arm .mag, { s with running := true })

/-- Answers a request for a poll rate, or gives nothing if the rate is refused. A channel that is
polled already gets a new interval; otherwise every trigger is started anew. -/
def setPollRate (s : Scheduler) (c : Channel) (rate : PollRate) :
    Option (Reschedule × List TimerCall × Scheduler) :=
  match rate.resolve c with
  | none => some (.stopped, [.cancel c], { s with interval := s.interval.set c 0 })
  | some hertz =>
    (intervalFor c hertz).map fun interval =>
      let tuned := { s with interval := s.interval.set c interval }
      if s.isActive c then (.retuned, [.interval c interval], tuned)
      else (.started, tuned.start)

/-- The call that puts the next firing of a channel off. -/
def retry (c : Channel) (delay : Nat) : List TimerCall := [.delay c delay]

end Scheduler

end ECompass
