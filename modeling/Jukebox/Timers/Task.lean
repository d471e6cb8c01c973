import Jukebox.Timers

/-!
# The tasks behind the timers

Each timer is a task of its own that does one thing over and over: it waits for its next tick and
puts the tick in the line. When it finds that nobody takes from the line any more it ends. To stop
the timers ends both tasks wherever they are.

`Timers` is both of them at a glance, as a list of ticks in the order of time.
-/

namespace Jukebox

/-- The task of one timer. -/
structure TimerTask where
  /-- The timer it waits for. -/
  timer : Timer
  /-- It has ended. -/
  ended : Bool := false
  deriving Repr, DecidableEq

namespace TimerTask

/-- The task is ended, wherever it is. -/
def stop (t : TimerTask) : TimerTask := { t with ended := true }

/-- What the task does until a time, and how many ticks it has delivered by then. The other ticks
were delivered before; `taken` says whether anybody takes from the line. -/
def reach (taken : Bool) (time : Nat) (t : TimerTask) (delivered : Nat) : TimerTask × Nat :=
  if t.ended then (t, delivered)
  else if t.timer.isDue time then
    if taken then reach taken time { t with timer := t.timer.tick } (delivered + 1)
    else (t.stop, delivered)
  else (t, delivered)
termination_by time + 1 - t.timer.due
decreasing_by
  rename_i hdue
  simp only [Timer.isDue, Bool.and_eq_true, decide_eq_true_eq] at hdue
  simp only [Timer.tick]
  omega

end TimerTask

/-- Both tasks, and whether anybody takes from the line. -/
structure TimerTasks where
  now : Nat := 0
  health : TimerTask
  playback : TimerTask
  taken : Bool := true
  deriving Repr, DecidableEq

namespace TimerTasks

/-- The tasks of the timers that the settings ask for, set at time zero. -/
def start (poll : PollSettings) : TimerTasks where
  health := ⟨.set poll.healthMs.toNat 0, false⟩
  playback := ⟨.set poll.playbackMs.toNat 0, false⟩

/-- Both tasks are ended. -/
def stop (t : TimerTasks) : TimerTasks :=
  { t with health := t.health.stop, playback := t.playback.stop }

/-- Nobody takes from the line any more. -/
def abandon (t : TimerTasks) : TimerTasks := { t with taken := false }

/-- Time passes, and the ticks delivered meanwhile are counted. -/
def elapse (t : TimerTasks) (ms : Nat) : TimerTasks × Timers.Counts :=
  let time := t.now + ms
  let (health, healthTicks) := t.health.reach t.taken time 0
  let (playback, playbackTicks) := t.playback.reach t.taken time 0
  ({ t with now := time, health, playback }, ⟨healthTicks, playbackTicks⟩)

end TimerTasks

end Jukebox
