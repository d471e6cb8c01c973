import Jukebox.Settings.Basic

/-!
# The two timers

Two timers tick on their own: one to look at the connection, one to look at the queue. Each ticks
first when one period has passed, and then once per period. A timer whose period is zero never
ticks.

Times are in milliseconds on a clock that starts at zero.
-/

namespace Jukebox

/-- A timer and when it ticks next. -/
structure Timer where
  period : Nat
  due : Nat
  deriving Repr, DecidableEq

namespace Timer

/-- A timer set at a time. -/
def set (period time : Nat) : Timer := ⟨period, time + period⟩

/-- It ticks at the given time or has missed a tick. -/
def isDue (t : Timer) (time : Nat) : Bool :=
  0 < t.period && t.due ≤ time

/-- The timer after its tick. -/
def tick (t : Timer) : Timer := { t with due := t.due + t.period }

end Timer

/-- Which timer ticks. -/
inductive Tick
  | health
  | playback
  deriving Repr, DecidableEq

/-- The two timers. -/
structure Timers where
  now : Nat := 0
  health : Timer
  playback : Timer
  /-- Ticks are delivered; they are not once the timers have stopped or nobody takes them. -/
  running : Bool := true
  deriving Repr, DecidableEq

namespace Timers

/-- The timers that the settings ask for, set at time zero. -/
def start (poll : PollSettings) : Timers where
  health := .set poll.healthMs.toNat 0
  playback := .set poll.playbackMs.toNat 0

/-- No more ticks. -/
def stop (t : Timers) : Timers := { t with running := false }

/-- The first tick that is due by a time, when it is due, and the timers after it. Of two ticks due
at once the one for the connection comes first. -/
def next? (t : Timers) (time : Nat) : Option (Nat × Tick × Timers) :=
  let health := (t.health.due, Tick.health, { t with now := t.health.due, health := t.health.tick })
  let playback :=
    (t.playback.due, Tick.playback, { t with now := t.playback.due, playback := t.playback.tick })
  if t.running then
    match t.health.isDue time, t.playback.isDue time with
    | true, true => some (if t.health.due ≤ t.playback.due then health else playback)
    | true, false => some health
    | false, true => some playback
    | false, false => none
  else none

/-- How often each timer ticked. -/
structure Counts where
  health : Nat := 0
  playback : Nat := 0
  deriving Repr, DecidableEq

/-- One more tick. -/
def Counts.add (counts : Counts) : Tick → Counts
  | .health => { counts with health := counts.health + 1 }
  | .playback => { counts with playback := counts.playback + 1 }

/-- Counts the ticks due by a time, one after the other. -/
def countUntil (time : Nat) : Nat → Timers → Counts → Timers × Counts
  | 0, t, counts => (t, counts)
  | fuel + 1, t, counts =>
    match t.next? time with
    | some (_, tick, t) => countUntil time fuel t (counts.add tick)
    | none => (t, counts)

/-- Time passes, and the ticks delivered meanwhile are counted. In each millisecond there is at most
one tick of each timer. -/
def elapse (t : Timers) (ms : Nat) : Timers × Counts :=
  let time := t.now + ms
  let (t, counts) := countUntil time (2 * ms) t {}
  ({ t with now := time }, counts)

end Timers

end Jukebox
