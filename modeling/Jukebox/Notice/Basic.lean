import Jukebox.Link.ReadyState
import Jukebox.Time.Instant
import Jukebox.Uuid

/-!
# Notices

What the player tells the world: an item was put in the queue, was started, ended or failed,
a skip was asked for, nothing is left to play, or the connection changed. The player tells its
sessions apart by names of its own and counts in natural numbers; what is sent to clients has UUIDs,
64-bit numbers and the time.
-/

namespace Jukebox

/-- Something that the player announces. -/
inductive Notice (Session Count : Type)
  /-- An identifier was put at the end of the queue, which then has the given length. -/
  | enqueued (identifier : String) (queueLength : Count)
  /-- A widget was mounted for an identifier. -/
  | started (session : Session) (identifier : String)
  /-- A widget came to its natural end. -/
  | ended (session : Session) (identifier : String)
  /-- A widget failed, or could not be made, in which case there is no session. -/
  | errored (session : Option Session) (identifier reason : String)
  /-- A listener asked for the next item. -/
  | skipRequested
  /-- Nothing is left to play. -/
  | idle
  /-- The connection of a generation changed its state. -/
  | linkChanged (generation : Count) (state : ReadyState)
  deriving Repr, DecidableEq

/-- The kinds of notices. -/
inductive NoticeKind
  | enqueued
  | started
  | ended
  | errored
  | skipRequested
  | idle
  | linkChanged
  deriving Repr, DecidableEq

namespace NoticeKind

/-- The word for a kind. -/
def name : NoticeKind → String
  | enqueued => "Enqueued"
  | started => "PlaybackStarted"
  | ended => "PlaybackEnded"
  | errored => "PlaybackErrored"
  | skipRequested => "SkipRequested"
  | idle => "PlaybackIdle"
  | linkChanged => "ConnectionChanged"

/-- All kinds. -/
def all : List NoticeKind :=
  [enqueued, started, ended, errored, skipRequested, idle, linkChanged]

/-- The kinds under their words. -/
def names : List (String × NoticeKind) := all.map fun kind => (kind.name, kind)

end NoticeKind

namespace Notice

variable {Session Count : Type}

/-- The kind of a notice. -/
def kind : Notice Session Count → NoticeKind
  | enqueued .. => .enqueued
  | started .. => .started
  | ended .. => .ended
  | errored .. => .errored
  | skipRequested => .skipRequested
  | idle => .idle
  | linkChanged .. => .linkChanged

/-- The notice with other names for its sessions and other counts. -/
def map {Id Word : Type} (id : Session → Id) (word : Count → Word) :
    Notice Session Count → Notice Id Word
  | enqueued identifier queueLength => enqueued identifier (word queueLength)
  | started session identifier => started (id session) identifier
  | ended session identifier => ended (id session) identifier
  | errored session identifier reason => errored (session.map id) identifier reason
  | skipRequested => skipRequested
  | idle => idle
  | linkChanged generation state => linkChanged (word generation) state

/-- The name under which a notice is sent on the event stream. -/
def streamName : Notice Session Count → String
  | enqueued .. => "Enqueued"
  | started .. => "PlaybackStarted"
  | ended .. => "PlaybackEnded"
  | errored .. => "PlaybackErrored"
  | skipRequested => "SkipRequested"
  | idle => "PlaybackIdle"
  | linkChanged .. => "ConnectionChanged"

end Notice

/-- A notice as clients get it. -/
structure Event where
  notice : Notice Uuid UInt64
  time : Instant
  deriving DecidableEq

/-- The name under which an event is sent on the event stream. -/
def Event.name (e : Event) : String := e.notice.streamName

end Jukebox
