import Jukebox.Proofs.Schedule.Situations
import Jukebox.Proofs.Schedule.Timetable

/-!
# What is done, and when

A run of a player left alone is a list of events: time passes, inputs are handled, connections
change their ready state. Everything that is done on the way stands in a log with the time at which
it is done; without the times the log is what was done (`map_snd_apply`). What is heard of the
playing of items is a view of the log, and what is asked for a view of the events.
-/

namespace Jukebox

/-- What was heard of the playing of items, and when. -/
abbrev Heard := List (Nat × Notice Session Nat)

namespace Schedule

/-- What was done, with the time. -/
abbrev Log := List (Nat × Act)

/-- What was done at the time that has now come. -/
def dated (r : Schedule × List Act) : Log := r.2.map (r.1.player.playback.memory.now, ·)

/-- What is done while everything due by a time is done, as in `runUntil`. -/
def logUntil (time : Nat) : Nat → Schedule → Log
  | 0, _ => []
  | fuel + 1, s =>
    match s.step? time with
    | none => []
    | some r => dated r ++ logUntil time fuel r.1

/-- What can happen to a player left alone. -/
inductive Event
  /-- So many milliseconds pass. -/
  | elapse (ms : Nat)
  /-- An input is handled. -/
  | handle (input : Input)
  /-- The connection of a generation changes its ready state. -/
  | setReadyState (generation : Nat) (state : ReadyState)

/-- What is done while time passes. -/
def elapseLog (s : Schedule) (ms : Nat) : Log :=
  logUntil (s.timers.now + ms) (3 * ms + 2) s

/-- What is done when an input is handled. -/
def handleLog (s : Schedule) (input : Input) : Log :=
  let r := settle { s with player := s.player.post input }
  dated r ++ elapseLog r.1 0

/-- What an event leads to, and what is done meanwhile. -/
def Event.apply : Event → Schedule → Schedule × Log
  | .elapse ms, s => ((s.elapse ms).1, s.elapseLog ms)
  | .handle input, s => ((s.handle input).1, s.handleLog input)
  | .setReadyState generation state, s => (s.setReadyState generation state, [])

/-- What events lead to one after the other, and what is done meanwhile. -/
def run : List Event → Schedule → Schedule × Log
  | [], s => (s, [])
  | event :: events, s =>
    let (s, log) := event.apply s
    let (s, more) := run events s
    (s, log ++ more)

/-- What is asked for when something happens. -/
def Event.asked (s : Schedule) : Event → List Wish
  | .handle input =>
    ((input.asked? s.player.link.generation).map (Wish.mk s.timers.now)).toList
  | .elapse _ | .setReadyState _ _ => []

/-- What is asked for along a run. -/
def asked : List Event → Schedule → List Wish
  | [], _ => []
  | event :: events, s => event.asked s ++ asked events (event.apply s).1

/-- Nothing but requests for items and reports of connections is handled besides what timers and
widgets do by themselves. -/
def Event.Patient : Event → Prop
  | .handle input => input.Patient
  | .elapse _ | .setReadyState _ _ => True

instance : (event : Event) → Decidable event.Patient
  | .handle input => inferInstanceAs (Decidable input.Patient)
  | .elapse _ | .setReadyState _ _ => inferInstanceAs (Decidable True)

theorem map_snd_dated (r : Schedule × List Act) : (dated r).map Prod.snd = r.2 := by
  rw [dated, List.map_map]
  exact List.map_id _

/-- Without the times, the log is what `runUntil` tells. -/
theorem map_snd_logUntil (time fuel : Nat) (s : Schedule) :
    (logUntil time fuel s).map Prod.snd = (runUntil time fuel s).2 := by
  induction fuel generalizing s with
  | zero => rfl
  | succ fuel ih =>
    rw [logUntil, runUntil]
    cases s.step? time with
    | none => rfl
    | some r => simp [map_snd_dated, ih]

/-- Without the times, the log of an event is what is done. -/
theorem map_snd_apply (event : Event) (s : Schedule) :
    (event.apply s).2.map Prod.snd =
      match event with
      | .elapse ms => (s.elapse ms).2
      | .handle input => (s.handle input).2
      | .setReadyState _ _ => [] := by
  cases event with
  | elapse ms => exact map_snd_logUntil _ _ s
  | handle input =>
    rw [Event.apply, handleLog, List.map_append, map_snd_dated, elapseLog, map_snd_logUntil]
    rfl
  | setReadyState => rfl

/-- What is heard of the playing of items, and when. -/
def heard (log : Log) : Heard :=
  log.filterMap fun entry => entry.2.news?.map (entry.1, ·)

theorem heard_nil : heard [] = [] := rfl

theorem heard_append (log more : Log) : heard (log ++ more) = heard log ++ heard more :=
  List.filterMap_append

theorem heard_dated (r : Schedule × List Act) :
    heard (dated r) = (news r.2).map (r.1.player.playback.memory.now, ·) := by
  rw [heard, dated, List.filterMap_map, List.map_filterMap]
  rfl

end Schedule

end Jukebox
