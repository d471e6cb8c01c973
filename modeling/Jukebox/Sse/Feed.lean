import Jukebox.Bus
import Jukebox.Sse.Frame

/-!
# Streams of events

Every client of the event stream is a subscriber of the bus. Reading a stream gives the frames of
the events that have come meanwhile; that some were lost is not said. When there is nothing to read
and 15 seconds have passed since the stream was opened or last gave something, it gives a comment.
-/

namespace Jukebox.Sse

/-- The stream of one client. -/
structure Feed where
  subscriber : Nat
  /-- When the next comment is due, in milliseconds. -/
  deadline : Nat
  deriving Repr, DecidableEq

namespace Feed

/-- How long a stream is silent at most, in milliseconds. -/
def silence : Nat := 15000

/-- A client comes. -/
def start (bus : Bus Event) (now : Nat) : Bus Event × Feed :=
  let (bus, subscriber) := bus.subscribe
  (bus, ⟨subscriber, now + silence⟩)

/-- The event received, if one was. -/
def event? : Receipt Event → Option Event
  | .value e => some e
  | _ => none

/-- The texts that can be read at a time. -/
def read (feed : Feed) (bus : Bus Event) (now : Nat) : Bus Event × Feed × List String :=
  let (bus, receipts) := bus.receiveAll feed.subscriber
  match receipts.filterMap event? with
  | [] =>
    if feed.deadline ≤ now then (bus, { feed with deadline := now + silence }, [keepAlive])
    else (bus, feed, [])
  | events =>
    (bus, { feed with deadline := now + silence },
      events.map fun e => (Frame.ofEvent e).render)

end Feed

end Jukebox.Sse
