import Jukebox.Player.Basic
import Jukebox.Timers
import Jukebox.Widget.DryRun

/-!
# Unattended playback

The player with its two timers and with widgets that play nothing, on a clock of its own. Whatever
is due is done in the order of time: first the items that end, then the ticks. What follows from
it is handled at once.
-/

namespace Jukebox

/-- A player left alone with its timers. -/
structure Schedule where
  connector : Connector
  timers : Timers
  player : Player DryRun.Memory

namespace Schedule

/-- A player whose items last as long as the settings say. -/
def start (connector : Connector) (poll : PollSettings) (widget : WidgetSettings) : Schedule where
  connector
  timers := .start poll
  player := .start connector (.ofSettings widget) { duration := widget.dryRunMs.toNat }

/-- As many inputs as waiting ones can lead to: every item that waits or is asked for leads to two
reports at most. -/
def drainLimit (p : Player DryRun.Memory) : Nat :=
  3 * p.inbox.length + 2 * p.playback.queue.size + 1

/-- Everything that waits is handled. -/
def settle (s : Schedule) : Schedule × List Act :=
  let (player, acts, _) := s.player.drain DryRun.provider s.connector (drainLimit s.player)
  ({ s with player }, acts)

/-- It becomes a given time; the items that were to end by then end. -/
def reach (s : Schedule) (time : Nat) : Schedule :=
  let (memory, sent) := s.player.playback.memory.reach time
  let player := s.player
  { s with
    player := { player with
      playback := { player.playback with memory }
      inbox := player.inbox ++ sent.map .widget } }

/-- The next thing that is due by a time is done; `none` if there is none. -/
def step? (s : Schedule) (time : Nat) : Option (Schedule × List Act) :=
  let endDue := s.player.playback.memory.nextEnd?.filter (· ≤ time)
  let tickDue := s.timers.next? time
  match endDue, tickDue with
  | none, none => none
  | some due, none => some (s.reach due).settle
  | none, some (due, tick, timers) => some (onTick due tick timers)
  | some due, some (tickTime, tick, timers) =>
    if due ≤ tickTime then some (s.reach due).settle else some (onTick tickTime tick timers)
where
  /-- A timer ticks. -/
  onTick (due : Nat) (tick : Tick) (timers : Timers) : Schedule × List Act :=
    let input := match tick with
      | .health => Input.healthTick
      | .playback => Input.playbackTick
    let s := { s with timers }.reach due
    settle { s with player := s.player.post input }

/-- Everything due by a time is done. -/
def runUntil (time : Nat) : Nat → Schedule → Schedule × List Act
  | 0, s => (s, [])
  | fuel + 1, s =>
    match s.step? time with
    | none => (s, [])
    | some (s, acts) =>
      let (s, more) := runUntil time fuel s
      (s, acts ++ more)

/-- Time passes, and everything that becomes due is done. In a millisecond there are at most two
ticks and, apart from the item that plays at the start, one end. -/
def elapse (s : Schedule) (ms : Nat) : Schedule × List Act :=
  let time := s.timers.now + ms
  let (s, acts) := runUntil time (3 * ms + 2) s
  ({ s with timers := { s.timers with now := time } }.reach time, acts)

/-- An input is handled, with everything that follows from it. -/
def handle (s : Schedule) (input : Input) : Schedule × List Act :=
  let (s, acts) := settle { s with player := s.player.post input }
  let (s, ended) := s.elapse 0
  (s, acts ++ ended)

/-- The connection of a generation changes its ready state. -/
def setReadyState (s : Schedule) (generation : Nat) (state : ReadyState) : Schedule :=
  { s with player := s.player.setReadyState generation state }

/-- The timers stop. -/
def stopTimers (s : Schedule) : Schedule :=
  { s with timers := s.timers.stop }

end Schedule

end Jukebox
