import Jukebox.Proofs.Notice.Json
import Jukebox.Sse.Feed
import Jukebox.Sse.Reader

/-!
# Streams of events, written and read

Nothing that an event holds can break the frame it is sent in: identifiers and reasons may hold line
ends, colons and texts that look like frames, but in JSON no line end is written as itself, so the
frame of an event is always its three lines (`lines_frame`). Hence the frames of a stream are those
of the events that were written, whatever comments stand between them (`stream_read_back`).

A stream is made of whole frames and comments (`Chunk`). The reader has nothing half read where
one of these ends, so the frames of a stream are those of its chunks, one after the other
(`read_append`).
-/

namespace Jukebox.Sse

open Document

/-! ## Lines -/

theorem ne_of_isLine {line : List Char} (h : isLine line = true) {c : Char} (hc : c ∈ line) :
    c ≠ '\n' ∧ c ≠ '\r' := by
  simpa [isLine] using List.all_eq_true.1 h c hc

theorem go_append {line : List Char} (h : isLine line = true) (before rest : List Char) :
    lines.go before (line ++ '\n' :: rest) = (before.reverse ++ line) :: lines rest := by
  induction line generalizing before with
  | nil => simp [lines.go, lines]
  | cons c line ih =>
    obtain ⟨hfeed, hreturn⟩ := ne_of_isLine h (c := c) (by simp)
    have hline : isLine line = true := (Bool.and_eq_true_iff.1 h).2
    rw [List.cons_append, lines.go, if_neg (by simp [hfeed, hreturn]), ih hline, List.reverse_cons,
      List.append_assoc, List.singleton_append]
    exact fun _ heq => absurd heq hreturn

/-- A line with a line feed behind it is the first line of the text. -/
theorem lines_append {line : List Char} (h : isLine line = true) (rest : List Char) :
    lines (line ++ '\n' :: rest) = line :: lines rest :=
  go_append h [] rest

theorem isLine_append {line more : List Char} :
    isLine (line ++ more) = (isLine line && isLine more) := by
  simp [isLine]

/-! ## The frame of an event -/

theorem isLine_name (e : Event) : isLine e.name.toList = true := by
  rw [Event.name]
  cases e.notice <;> simp [Notice.streamName, isLine]

/-- No line end stands in a JSON text, whatever the event holds. -/
theorem isLine_render (e : Event) : isLine e.render.toList = true := by
  rw [isLine, List.all_eq_true]
  intro c hc
  rw [Event.render, Json.render, String.toList_ofList] at hc
  have hprinting := e.writable_toDocument.le_of_mem_print hc
  rw [Bool.and_eq_true, decide_eq_true_eq, decide_eq_true_eq]
  constructor
  · rintro rfl
    exact absurd hprinting (by decide)
  · rintro rfl
    exact absurd hprinting (by decide)

variable (e : Event)

theorem fieldLine?_of_isLine {label value : List Char} (h : isLine value = true) :
    fieldLine? label value = some (label ++ value ++ ['\n']) := if_pos h

/-- The frame of an event is never refused. -/
theorem build?_ofEvent : (Frame.ofEvent e).build? = some (Frame.ofEvent e).chars := by
  have hname := isLine_name e
  have hdata := isLine_render e
  have hwhole : e.render.toList.splitOn '\n' = [e.render.toList] :=
    List.splitOn_eq_singleton fun hmem => (ne_of_isLine hdata hmem).1 rfl
  simp [Frame.build?, Frame.ofEvent, Frame.chars, hwhole, fieldLine?_of_isLine hname,
    fieldLine?_of_isLine hdata]

theorem lines_frame_append (rest : List Char) :
    lines ((Frame.ofEvent e).chars ++ rest) =
      (nameLabel ++ e.name.toList) :: (dataLabel ++ e.render.toList) :: [] :: lines rest := by
  have hname : isLine (nameLabel ++ e.name.toList) = true := by
    rw [isLine_append, isLine_name]
    rfl
  have hdata : isLine (dataLabel ++ e.render.toList) = true := by
    rw [isLine_append, isLine_render]
    rfl
  have hsplit : (Frame.ofEvent e).chars ++ rest = (nameLabel ++ e.name.toList) ++ '\n' ::
      ((dataLabel ++ e.render.toList) ++ '\n' :: ([] ++ '\n' :: rest)) := by
    simp [Frame.chars, Frame.ofEvent]
  rw [hsplit, lines_append hname, lines_append hdata, lines_append rfl]

/-- The frame of an event is a line for its name, a line for its data, and an empty line. -/
theorem lines_frame : lines (Frame.ofEvent e).chars =
    [nameLabel ++ e.name.toList, dataLabel ++ e.render.toList, []] := by
  have hlines := lines_frame_append e []
  rwa [List.append_nil] at hlines

theorem render_ofEvent : (Frame.ofEvent e).render =
    "event: " ++ e.name ++ "\ndata: " ++ e.render ++ "\n\n" := by
  rw [← String.toList_inj]
  simp [Frame.render, Frame.chars, Frame.ofEvent, nameLabel, dataLabel]

/-! ## Frames and comments one after the other -/

theorem framesOf_nameLine (part : Partial) (value : List Char) (rest : List (List Char)) :
    framesOf part ((nameLabel ++ value) :: rest) = framesOf { part with name := value } rest := rfl

theorem framesOf_dataLine (part : Partial) (value : List Char) (rest : List (List Char)) :
    framesOf part ((dataLabel ++ value) :: rest) =
      framesOf { part with data := part.data ++ [value] } rest := rfl

/-- What a stream is made of. -/
inductive Chunk
  /-- The frame of an event. -/
  | event (e : Event)
  /-- A comment that keeps the connection alive. -/
  | comment

/-- The text of a chunk. -/
def Chunk.text : Chunk → String
  | event e => (Frame.ofEvent e).render
  | comment => keepAlive

/-- The event of a chunk, if it has one. -/
def Chunk.event? : Chunk → Option Event
  | event e => some e
  | comment => none

/-- The text of a stream. -/
def streamChars (chunks : List Chunk) : List Char :=
  chunks.flatMap fun chunk => chunk.text.toList

theorem read_frame_append (rest : List Char) :
    read ((Frame.ofEvent e).chars ++ rest) = Frame.ofEvent e :: read rest := by
  rw [read, lines_frame_append, framesOf_nameLine, framesOf_dataLine]
  simp [framesOf, joinLines, read, Frame.ofEvent]

theorem read_keepAlive_append (rest : List Char) : read (keepAlive.toList ++ rest) = read rest := by
  have hlines : lines (keepAlive.toList ++ rest) =
      ": keep-alive".toList :: [] :: lines rest := by
    have hsplit : keepAlive.toList ++ rest =
        ": keep-alive".toList ++ '\n' :: ([] ++ '\n' :: rest) := by simp [keepAlive]
    rw [hsplit, lines_append (by simp [isLine]), lines_append rfl]
  rw [read, hlines]
  rfl

/-- The reader has nothing half read at the end of a chunk. -/
theorem read_append (chunk : Chunk) (rest : List Char) :
    read (chunk.text.toList ++ rest) =
      (chunk.event?.map Frame.ofEvent).toList ++ read rest := by
  cases chunk with
  | event e =>
    rw [Chunk.text, Frame.render, String.toList_ofList]
    exact read_frame_append e rest
  | comment => exact read_keepAlive_append rest

theorem read_streamChars (chunks : List Chunk) :
    read (streamChars chunks) = (chunks.filterMap Chunk.event?).map Frame.ofEvent := by
  induction chunks with
  | nil => rfl
  | cons chunk chunks ih =>
    rw [streamChars, List.flatMap_cons, read_append, ← streamChars, ih]
    cases chunk <;> rfl

/-! ## What a client reads -/

variable (feed : Feed) (bus : Bus Event) (now : Nat)

/-- The texts that a client reads: the frames of the events received, one for each, or a comment if
there are none and the stream has been silent for long enough. -/
theorem Feed.texts_read : (feed.read bus now).2.2 =
    if (bus.receiveAll feed.subscriber).2.filterMap Feed.event? = [] then
      if feed.deadline ≤ now then [keepAlive] else []
    else
      ((bus.receiveAll feed.subscriber).2.filterMap Feed.event?).map
        fun e => (Frame.ofEvent e).render := by
  rw [Feed.read]
  split
  rename_i bus' receipts hreceive
  rw [hreceive]
  cases receipts.filterMap Feed.event? with
  | nil =>
    rw [if_pos rfl]
    by_cases hdue : feed.deadline ≤ now
    · rw [if_pos hdue, if_pos hdue]
    · rw [if_neg hdue, if_neg hdue]
  | cons e events => rw [if_neg (List.cons_ne_nil e events)]

/-- Whatever a client reads, it takes all that the bus has for it. -/
theorem Feed.bus_read : (feed.read bus now).1 = (bus.receiveAll feed.subscriber).1 := by
  rw [Feed.read]
  split
  rename_i bus' receipts hreceive
  rw [hreceive]
  split
  · split <;> rfl
  · rfl

theorem Feed.subscriber_read : (feed.read bus now).2.1.subscriber = feed.subscriber := by
  rw [Feed.read]
  split
  split
  · split <;> rfl
  · rfl

/-- What a client reads is a piece of a stream, with just the events that were received. -/
theorem exists_chunks_of_read : ∃ chunks : List Chunk,
    (feed.read bus now).2.2 = chunks.map Chunk.text ∧
      chunks.filterMap Chunk.event? = (bus.receiveAll feed.subscriber).2.filterMap Feed.event? := by
  rw [Feed.texts_read]
  split
  · rename_i hnone
    rw [hnone]
    split
    · exact ⟨[.comment], rfl, rfl⟩
    · exact ⟨[], rfl, rfl⟩
  · refine ⟨((bus.receiveAll feed.subscriber).2.filterMap Feed.event?).map .event, ?_, ?_⟩
    · rw [List.map_map]
      rfl
    · rw [List.filterMap_map]
      exact List.filterMap_some

/-! ## The main result -/

/-- The frame of an event is never refused, whatever the event holds: neither its name nor its data
has a line end of either kind, so it is a line for the name, a line for the data and an empty line,
and the client that reads it gets back one frame, with the name of the event and a JSON text whose
tag is that name and which is read as the event with the time that its text tells; this is the event
itself unless its time lies in a leap second within a minute. What a client reads at a time is made
of such frames, one for each event received, and of comments. Wherever comments stand in a stream,
from its text just its events are read, in their order, each under its name. -/
theorem stream_read_back :
    (∀ e : Event, let frame := Frame.ofEvent e
      frame.render = "event: " ++ e.name ++ "\ndata: " ++ e.render ++ "\n\n" ∧
      isLine e.name.toList = true ∧ isLine e.render.toList = true ∧
      frame.build? = some frame.chars ∧
      lines frame.chars = ["event: " ++ e.name, "data: " ++ e.render, ""].map String.toList ∧
      read frame.chars = [⟨e.name, e.render⟩] ∧
      Event.parse? e.render = some (.ok e.asTold) ∧ (e.asTold = e ↔ e.time.Told) ∧
      ∃ entries : Entries, Json.parse? e.render = some (.table entries) ∧
        entries.get? "type" = some (.string e.name)) ∧
    (∀ (feed : Feed) (bus : Bus Event) (now : Nat), ∃ chunks : List Chunk,
      (feed.read bus now).2.2 = chunks.map Chunk.text ∧
        chunks.filterMap Chunk.event? =
          (bus.receiveAll feed.subscriber).2.filterMap Feed.event?) ∧
    ∀ chunks : List Chunk,
      let frames := read (streamChars chunks)
      let events := chunks.filterMap Chunk.event?
      frames.map Frame.name = events.map Event.name ∧
        frames.map (fun frame => Event.parse? frame.data) =
          events.map fun e => some (.ok e.asTold) := by
  refine ⟨?_, exists_chunks_of_read, ?_⟩
  · intro e frame
    have hread : read (frame.chars ++ []) = [⟨e.name, e.render⟩] := read_frame_append e []
    rw [List.append_nil] at hread
    refine ⟨render_ofEvent e, isLine_name e, isLine_render e, build?_ofEvent e, ?_, hread,
      e.parse?_render, Event.asTold_eq_iff, e.sortedEntries, e.jsonParse?_render,
      e.get?_sortedEntries_tag⟩
    rw [lines_frame]
    simp [nameLabel, dataLabel]
  · intro chunks frames events
    have hframes : frames = events.map Frame.ofEvent := read_streamChars chunks
    rw [hframes, List.map_map, List.map_map]
    refine ⟨rfl, List.map_congr_left fun e _ => ?_⟩
    exact e.parse?_render

/-- From the frame of an event in a leap second behind the second with number thirty another event
is read. -/
theorem leap_second_unread :
    let date : Date := ⟨2024, 1, 15, by decide, by decide, by decide, by decide⟩
    let leap : Event := ⟨.idle, ⟨date, 630, 30, 1500000000⟩⟩
    (read (Frame.ofEvent leap).chars).map (fun frame => Event.parse? frame.data) ≠
      [some (.ok leap)] := by
  intro date leap
  have hread : read ((Frame.ofEvent leap).chars ++ []) = [⟨leap.name, leap.render⟩] :=
    read_frame_append leap []
  have htold : leap.asTold ≠ leap := by decide
  rw [List.append_nil] at hread
  rw [hread, List.map_cons, List.map_nil, leap.parse?_render]
  exact fun h => htold (Except.ok.inj (Option.some.inj (List.head_eq_of_cons_eq h)))

end Jukebox.Sse
