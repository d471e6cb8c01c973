import Jukebox.Link.Basic
import Jukebox.Playback.Basic
import Jukebox.Player.Input
import Jukebox.Request.Basic

/-!
# The player

The player owns the playback and the connection. Everything it reacts to waits in one line, the
inbox: what the connection reports, what widgets report, and the ticks of two timers. Inputs are
handled one at a time, each to its end, and what widgets send meanwhile goes to the end of the line.

Whatever a connection of another generation than the current one reports is passed over.

After each input that is not passed over the player publishes its status.
-/

namespace Jukebox

/-- What the player shows of itself; `Now` is what it shows of the item that is playing. -/
structure Status (Now : Type) where
  connection : ReadyState
  generation : Nat
  playing : Bool
  nowPlaying : Option Now
  queue : List String
  deriving Repr, DecidableEq

/-- The state of the player with a provider whose memory has type `σ`. -/
structure Player (σ : Type) where
  playback : Playback σ
  link : Link
  /-- What waits to be handled, the next one first. -/
  inbox : List Input := []
  /-- The status that was published last. -/
  published : Status Mounted
  /-- How often a status was published since the start. -/
  publications : Nat := 0

namespace Player

variable {σ : Type}

/-- The present status. -/
def statusOf (link : Link) (playback : Playback σ) : Status Mounted where
  connection := link.state
  generation := link.generation
  playing := playback.playing
  nowPlaying := playback.mounted
  queue := playback.queue.toList

/-- The present status. -/
def status (p : Player σ) : Status Mounted := statusOf p.link p.playback

/-- A player whose first connection has just been opened. -/
def start (connector : Connector) (layout : Layout) (memory : σ) : Player σ :=
  let playback : Playback σ := { layout, memory }
  let link := Link.start connector
  { playback, link, published := statusOf link playback }

/-- An input joins the line. -/
def post (input : Input) (p : Player σ) : Player σ :=
  { p with inbox := p.inbox ++ [input] }

/-- The connection of a generation changes its ready state. -/
def setReadyState (generation : Nat) (state : ReadyState) (p : Player σ) : Player σ :=
  { p with link := p.link.setState generation state }

/-- The present status is published. -/
def publish (p : Player σ) : Player σ :=
  { p with published := p.status, publications := p.publications + 1 }

/-- The input comes from a connection that is not the current one. -/
def isStale (p : Player σ) (input : Input) : Bool :=
  input.generation?.any fun generation => !p.link.isCurrent generation

/-- What a text does to the playback. Texts that are no requests do nothing. -/
def onText (P : Provider σ) (text : String) (playback : Playback σ) : Outcome σ :=
  match Request.parse? text with
  | some (.play identifier) => playback.enqueue identifier
  | some .skip => playback.skip P
  | none => playback.unchanged

/-- What an input that is not passed over does to the playback. -/
def onPlayback (P : Provider σ) (input : Input) (playback : Playback σ) : Outcome σ :=
  match input with
  | .message _ text => onText P text playback
  | .widget callback => playback.receive P callback
  | .playbackTick => playback.tick P
  | .opened _ | .closed _ | .failed _ _ | .healthTick => playback.unchanged

/-- What an input that is not passed over does to the connection, and the state to announce. -/
def onLink (connector : Connector) (input : Input) (link : Link) : Link × Option ReadyState :=
  match input with
  | .opened _ => (link, some .opened)
  | .closed _ => (link, some .closed)
  | .healthTick =>
    let (link, replaced) := link.ensureOpen connector
    (link, if replaced then some .connecting else none)
  | .failed _ _ | .message _ _ | .widget _ | .playbackTick => (link, none)

/-- Handles one input to its end, and tells what was done. -/
def handle (P : Provider σ) (connector : Connector) (input : Input) (p : Player σ) :
    Player σ × List Act :=
  if p.isStale input then (p, [])
  else
    let (link, change) := onLink connector input p.link
    let o := onPlayback P input p.playback
    let news := match change with
      | some state => [.announce (.linkChanged link.generation state)]
      | none => []
    let p : Player σ :=
      { p with playback := o.playback, link, inbox := p.inbox ++ o.sent.map .widget }
    (p.publish, news ++ o.acts)

/-- Handles the next waiting input; `none` if none waits. -/
def handleNext? (P : Provider σ) (connector : Connector) (p : Player σ) :
    Option (Player σ × List Act) :=
  match p.inbox with
  | [] => none
  | input :: inbox => some (handle P connector input { p with inbox })

/-- Handles waiting inputs until none waits, but at most `limit` of them; the outcome says how many
were handled. -/
def drain (P : Provider σ) (connector : Connector) :
    (limit : Nat) → Player σ → Player σ × List Act × Nat
  | 0, p => (p, [], 0)
  | limit + 1, p =>
    match p.handleNext? P connector with
    | none => (p, [], 0)
    | some (p, acts) =>
      let (p, more, handled) := drain P connector limit p
      (p, acts ++ more, handled + 1)

/-- The end of the player: playback stops, and the last status is published. -/
def shutdown (P : Provider σ) (p : Player σ) : Player σ × List Act :=
  let o := p.playback.stop P
  (publish { p with playback := o.playback, inbox := p.inbox ++ o.sent.map .widget }, o.acts)

end Player

end Jukebox
