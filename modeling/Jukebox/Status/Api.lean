import Jukebox.Player.Basic
import Jukebox.Sse.Feed

/-!
# The status API

Three addresses can be read: `/health` tells that the player is alive, `/status` shows its latest
status, and `/events` is a stream of its notices. Every other address is unknown, and the three
allow no other method than reading.
-/

namespace Jukebox

open Document

/-- The item that is playing, as clients see it. -/
structure NowPlaying where
  session : Uuid
  identifier : String
  startedAt : Instant
  deriving DecidableEq

/-- The item that is playing, for JSON. -/
def NowPlaying.toDocument (n : NowPlaying) : Document :=
  .table
    [ ("session_id", .string n.session.render),
      ("identifier", .string n.identifier),
      ("started_at", .string n.startedAt.render) ]

/-- A status, for JSON. -/
def Status.toDocument (s : Status NowPlaying) : Document :=
  .table
    [ ("connection", .string s.connection.name),
      ("generation", .integer s.generation),
      ("playing", .boolean s.playing),
      ("now_playing", match s.nowPlaying with | some n => n.toDocument | none => .null),
      ("queue", .list (s.queue.map .string)) ]

/-- What clients are told of the sessions that the player numbers: the UUID of each, and since when
its widget is mounted. -/
structure Sessions where
  uuid : Session → Uuid
  mountedAt : Session → Instant

/-- The mounted widget, as clients see it. -/
def NowPlaying.ofMounted (sessions : Sessions) (widget : Mounted) : NowPlaying where
  session := sessions.uuid widget.session
  identifier := widget.identifier
  startedAt := sessions.mountedAt widget.session

/-- The status of the player, as clients see it. -/
def Status.shown (sessions : Sessions) (s : Status Mounted) : Status NowPlaying :=
  { s with nowPlaying := s.nowPlaying.map (.ofMounted sessions) }

/-- The event for something that is announced at a time. A start is told with the time since when
the widget is mounted. -/
def Event.ofNotice (sessions : Sessions) (now : Instant) (notice : Notice Session Nat) : Event where
  notice := notice.map sessions.uuid UInt64.ofNat
  time := match notice with
    | .started session _ => sessions.mountedAt session
    | _ => now

namespace StatusApi

/-- The version of the player. -/
def version : String := "0.1.0"

/-- The name of the player. -/
def moduleName : String := "songq-player"

/-- That the player is alive, for JSON. -/
def health : Document :=
  .table
    [("module", .string moduleName), ("status", .string "ok"), ("version", .string version)]

/-- The addresses that can be read. -/
inductive Route
  | health
  | status
  | events
  deriving Repr, DecidableEq

/-- The address in a request, without its query. -/
def Route.ofPath? (path : String) : Option Route :=
  let address := String.ofList (path.toList.takeWhile fun c => c ≠ '?' && c ≠ '#')
  [("/health", health), ("/status", status), ("/events", events)].lookup address

/-- What a request is answered with. -/
structure Response where
  code : Nat
  contentType : Option String := none
  allow : Option String := none
  cacheControl : Option String := none
  body : String := ""
  deriving Repr, DecidableEq

/-- The answer that carries a document. -/
def Response.ofDocument (d : Document) : Response where
  code := 200
  contentType := some "application/json"
  body := Json.render d

/-- The answer that begins a stream. -/
def Response.stream : Response where
  code := 200
  contentType := some "text/event-stream"
  cacheControl := some "no-cache"

/-- The answer to a request. The method `HEAD` gives what `GET` gives without its body. -/
def respond (current : Status NowPlaying) (method path : String) : Response :=
  match Route.ofPath? path with
  | none => { code := 404 }
  | some route =>
    let full := match route with
      | .health => Response.ofDocument health
      | .status => Response.ofDocument current.toDocument
      | .events => Response.stream
    if method = "GET" then full
    else if method = "HEAD" then { full with body := "" }
    else { code := 405, allow := some "GET,HEAD" }

end StatusApi

/-- The status API at work: the latest status, the bus of notices, and the streams of its clients.
A stream that is closed, or never was one, is `none`. -/
structure StatusServer where
  status : Status NowPlaying
  bus : Bus Event
  now : Nat := 0
  feeds : List (Option Sse.Feed) := []

namespace StatusServer

open StatusApi

/-- A request for a stream, which is kept open. -/
def openStream (s : StatusServer) (path : String) : StatusServer × Response :=
  let response := respond s.status "GET" path
  if Route.ofPath? path = some .events then
    let (bus, feed) := Sse.Feed.start s.bus s.now
    ({ s with bus, feeds := s.feeds ++ [some feed] }, response)
  else ({ s with feeds := s.feeds ++ [none] }, response)

/-- A notice is sent to all streams; the outcome says to how many. -/
def emit (s : StatusServer) (e : Event) : StatusServer × Nat :=
  let (bus, receivers) := s.bus.emit e
  ({ s with bus }, receivers.getD 0)

/-- What can be read from a stream. -/
def read (s : StatusServer) (stream : Nat) : StatusServer × List String :=
  match (s.feeds[stream]?).join with
  | none => (s, [])
  | some feed =>
    let (bus, feed, texts) := feed.read s.bus s.now
    ({ s with bus, feeds := s.feeds.set stream (some feed) }, texts)

/-- A client leaves; the outcome says how many are left. -/
def close (s : StatusServer) (stream : Nat) : StatusServer × Nat :=
  match (s.feeds[stream]?).join with
  | none => (s, s.bus.subscribers)
  | some feed =>
    let bus := s.bus.leave feed.subscriber
    ({ s with bus, feeds := s.feeds.set stream none }, bus.subscribers)

/-- Time passes. -/
def elapse (s : StatusServer) (ms : Nat) : StatusServer :=
  { s with now := s.now + ms }

end StatusServer

end Jukebox
