import Jukebox.Notice.Basic
import Jukebox.Queue
import Jukebox.Widget.Basic

/-!
# Playback

One item is played at a time. While one is, its widget is mounted; the queue holds those that wait.
Going on to the next item drops the mounted widget and tries the waiting identifiers one after the
other until the provider accepts one. If it accepts none, nothing is left to play.

Every operation yields the playback afterwards, what was done on the way (calls to the provider and
announcements, in order), the reports that the provider sent meanwhile, which are handled later, and
whether the assertions on the way held: that nothing is mounted where a widget is to be mounted, and
that the playing flag tells the truth where an operation ends.
-/

namespace Jukebox

/-- The mounted widget: its session and the identifier it reports. -/
structure Mounted where
  session : Session
  identifier : String
  deriving Repr, DecidableEq

/-- Something that was done. -/
inductive Act
  /-- The provider was asked for a widget, and accepted or not. -/
  | create (session : Session) (spec : WidgetSpec) (accepted : Bool)
  /-- A widget was told to play. -/
  | play (widget : Mounted)
  /-- A widget was dropped. -/
  | drop (widget : Mounted)
  /-- Something was announced. -/
  | announce (notice : Notice Session Nat)
  deriving Repr, DecidableEq

/-- The announcement in an act, if it is one. -/
@[simp] def Act.notice? : Act → Option (Notice Session Nat)
  | announce notice => some notice
  | _ => none

/-- The state of playback with a provider whose memory has type `σ`. -/
structure Playback (σ : Type) where
  layout : Layout := {}
  queue : Queue := .empty
  playing : Bool := false
  mounted : Option Mounted := none
  /-- The session of the next widget to be asked for. -/
  nextSession : Session := 1
  /-- The memory of the provider. -/
  memory : σ

/-- What an operation yields. -/
structure Outcome (σ : Type) where
  playback : Playback σ
  acts : List Act := []
  sent : List Callback := []
  /-- The assertions made on the way held. -/
  sound : Bool := true

namespace Outcome

variable {σ : Type}

/-- One operation after another: what they did and what was sent meanwhile follow each other. -/
def andThen (o : Outcome σ) (next : Playback σ → Outcome σ) : Outcome σ :=
  let o' := next o.playback
  { playback := o'.playback
    acts := o.acts ++ o'.acts
    sent := o.sent ++ o'.sent
    sound := o.sound && o'.sound }

@[simp] theorem playback_andThen (o : Outcome σ) (next : Playback σ → Outcome σ) :
    (o.andThen next).playback = (next o.playback).playback := rfl

@[simp] theorem acts_andThen (o : Outcome σ) (next : Playback σ → Outcome σ) :
    (o.andThen next).acts = o.acts ++ (next o.playback).acts := rfl

@[simp] theorem sent_andThen (o : Outcome σ) (next : Playback σ → Outcome σ) :
    (o.andThen next).sent = o.sent ++ (next o.playback).sent := rfl

@[simp] theorem sound_andThen (o : Outcome σ) (next : Playback σ → Outcome σ) :
    (o.andThen next).sound = (o.sound && (next o.playback).sound) := rfl

end Outcome

namespace Playback

variable {σ : Type}

/-- Nothing is done. -/
def unchanged (p : Playback σ) : Outcome σ := { playback := p }

/-- It is asserted that the playing flag tells whether a widget is mounted. -/
def checked (p : Playback σ) : Outcome σ :=
  { playback := p, sound := p.playing == p.mounted.isSome }

/-- Something is announced. -/
def announce (notice : Notice Session Nat) (p : Playback σ) : Outcome σ :=
  { playback := p, acts := [.announce notice] }

/-- The mounted widget is dropped, if there is one. -/
def teardown (P : Provider σ) (p : Playback σ) : Outcome σ :=
  match p.mounted with
  | none => p.unchanged
  | some widget =>
    let (memory, sent) := P.drop p.memory widget.session
    { playback := { p with mounted := none, memory }, acts := [.drop widget], sent }

/-- An identifier goes to the end of the queue. -/
def enqueue (identifier : String) (p : Playback σ) : Outcome σ :=
  let queue := p.queue.push identifier
  announce (.enqueued identifier queue.size) { p with queue }

/-- The provider is asked for a widget in a new session. If it accepts, the widget is mounted, and
it is asserted that none was. -/
def start (P : Provider σ) (identifier : String) (p : Playback σ) : Outcome σ :=
  let session := p.nextSession
  let spec : WidgetSpec := { p.layout with identifier }
  let answer := P.create p.memory session spec
  let p := { p with nextSession := session + 1, memory := answer.memory }
  match answer.result with
  | .ok name =>
    { playback := { p with mounted := some ⟨session, name⟩, playing := true }
      acts := [.create session spec true, .announce (.started session name)]
      sent := answer.sent
      sound := p.mounted.isNone }
  | .error e =>
    { playback := p
      acts := [.create session spec false, .announce (.errored none identifier e.message)]
      sent := answer.sent }

/-- The next waiting identifier, with others behind it, leaves the queue and is tried. -/
def attempt (P : Provider σ) (identifier : String) (rest : List String) (p : Playback σ) :
    Outcome σ :=
  (teardown P { p with queue := ⟨rest⟩ }).andThen (start P identifier)

/-- Nothing is left to play. -/
def goIdle (P : Provider σ) (p : Playback σ) : Outcome σ :=
  (p.teardown P).andThen fun p =>
    (announce .idle { p with playing := false }).andThen checked

/-- The waiting identifiers are tried in their order until a widget is mounted. -/
def settle (P : Provider σ) : List String → Playback σ → Outcome σ
  | [], p => p.goIdle P
  | identifier :: others, p =>
    (p.attempt P identifier others).andThen fun p =>
      if p.mounted.isSome then p.checked else settle P others p

/-- Goes on to the next item. -/
def advance (P : Provider σ) (p : Playback σ) : Outcome σ :=
  settle P p.queue.toList p

/-- A listener asks for the next item. -/
def skip (P : Provider σ) (p : Playback σ) : Outcome σ :=
  (p.announce .skipRequested).andThen (advance P)

/-- A look at the queue from time to time: the next item starts if none is playing. -/
def tick (P : Provider σ) (p : Playback σ) : Outcome σ :=
  if p.queue.hasNext && !p.playing then p.advance P else p.unchanged

/-- The mounted widget has failed: this is announced, and the next item is tried. -/
def failMounted (P : Provider σ) (widget : Mounted) (reason : String) (p : Playback σ) :
    Outcome σ :=
  (p.announce (.errored (some widget.session) widget.identifier reason)).andThen (advance P)

/-- The mounted widget is told to play. If it cannot, it has failed. -/
def playMounted (P : Provider σ) (widget : Mounted) (p : Playback σ) : Outcome σ :=
  let answer := P.play p.memory widget.session
  let played : Outcome σ :=
    { playback := { p with memory := answer.memory }, acts := [.play widget], sent := answer.sent }
  match answer.result with
  | .ok () => played
  | .error e => played.andThen (failMounted P widget e.message)

/-- The mounted widget has come to its end. The next item starts at the next tick. -/
def endMounted (P : Provider σ) (widget : Mounted) (p : Playback σ) : Outcome σ :=
  (p.teardown P).andThen fun p =>
    (announce (.ended widget.session widget.identifier) { p with playing := false }).andThen checked

/-- A report arrives. Only those of the mounted widget's session count. -/
def receive (P : Provider σ) (callback : Callback) (p : Playback σ) : Outcome σ :=
  match p.mounted with
  | none => p.unchanged
  | some widget =>
    if widget.session = callback.session then
      match callback.report with
      | .ready => p.playMounted P widget
      | .changed .ended => p.endMounted P widget
      | .changed _ => p.unchanged
      | .failed reason => p.failMounted P widget reason
    else p.unchanged

/-- Playback is over: the mounted widget is dropped, and nothing is announced. -/
def stop (P : Provider σ) (p : Playback σ) : Outcome σ :=
  (p.teardown P).andThen fun p => unchanged { p with playing := false }

end Playback

end Jukebox
