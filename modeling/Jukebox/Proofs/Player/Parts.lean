import Jukebox.Proofs.Playback.Run
import Jukebox.Proofs.Player.News

/-!
# Two machines side by side

The player is playback and a connection, and each goes its own way. To the connection only ticks and
changes of ready states happen; to playback only what widgets report, its ticks, and what the texts
of listeners ask for. The one thing that passes between them is which generation is current when a
text is handled, and this goes from the connection to playback.

The main result is `product_of_parts`: after every run the connection is as if it had been by
itself, and so is playback, with the texts left out that were not on the current connection. Neither
of the two runs it is compared with knows of a player.
-/

namespace Jukebox

variable {σ : Type}

/-! ## The connection by itself -/

/-- What can happen to a connection by itself. -/
inductive Link.Op
  /-- The connection of a generation changes its ready state. -/
  | setState (generation : Nat) (state : ReadyState)
  /-- The current connection is replaced if it has closed. -/
  | ensureOpen
  deriving Repr, DecidableEq

namespace Link.Op

/-- The connection after something happened to it. -/
def apply (connector : Connector) : Link.Op → Link → Link
  | setState generation state, link => link.setState generation state
  | ensureOpen, link => (link.ensureOpen connector).1

/-- The connection after all that happened to it. -/
def run (connector : Connector) (ops : List Link.Op) (link : Link) : Link :=
  ops.foldl (fun link op => op.apply connector link) link

theorem run_append (connector : Connector) (ops more : List Link.Op) (link : Link) :
    run connector (ops ++ more) link = run connector more (run connector ops link) :=
  List.foldl_append

end Link.Op

/-! ## Playback by itself -/

/-- What a request asks of playback. -/
def Request.op : Request → Op σ
  | play identifier => .enqueue identifier
  | skip => .skip

/-- What an input asks of playback while a generation is current. -/
def Input.op? (current : Nat) : Input → Option (Op σ)
  | .message generation text =>
    if generation = current then (Request.parse? text).map Request.op else none
  | .widget callback => some (.receive callback)
  | .playbackTick => some .tick
  | .opened _ | .closed _ | .failed _ _ | .healthTick => none

/-- The input is about the connection itself. -/
def Input.isOfLink : Input → Bool
  | .opened _ | .closed _ | .failed _ _ | .healthTick => true
  | .message _ _ | .widget _ | .playbackTick => false

/-- All that was done but the announcements about the connection. -/
def apart (acts : List Act) : List Act := acts.filter fun act => act.linkChange?.isNone

theorem apart_append (acts more : List Act) : apart (acts ++ more) = apart acts ++ apart more :=
  List.filter_append acts more

theorem apart_of_linkChanges_eq {acts : List Act} (h : linkChanges acts = []) :
    apart acts = acts := by
  rw [apart, List.filter_eq_self]
  intro act hmem
  rw [List.filterMap_eq_nil_iff.1 h act hmem]
  rfl

namespace Player

/-- What happens to a player whose inputs are handled at once. -/
inductive Happening (σ : Type)
  | handle (input : Input)
  | setReadyState (generation : Nat) (state : ReadyState)
  /-- The provider goes on by itself. -/
  | meanwhile (memory : σ)

namespace Happening

/-- What happens as a step of the player. -/
def step : Happening σ → Step σ
  | handle input => .handle input
  | setReadyState generation state => .setReadyState generation state
  | meanwhile memory => .meanwhile memory

/-- What happens to the connection in it. -/
def linkOp? : Happening σ → Option Link.Op
  | handle .healthTick => some .ensureOpen
  | setReadyState generation state => some (.setState generation state)
  | handle _ | meanwhile _ => none

/-- What happens to playback in it while a generation is current. -/
def op? (current : Nat) : Happening σ → Option (Op σ)
  | handle input => input.op? current
  | setReadyState _ _ => none
  | meanwhile memory => some (.meanwhile memory)

end Happening

/-- What happens to playback while the connection goes its own way from where it is. -/
def playbackOps (connector : Connector) : List (Happening σ) → Link → List (Op σ)
  | [], _ => []
  | happening :: rest, link =>
    (happening.op? link.generation).toList ++
      playbackOps connector rest (Link.Op.run connector happening.linkOp?.toList link)

/-! ## One input -/

variable {P : Provider σ} {connector : Connector} {p : Player σ} {input : Input}

theorem apart_linkNews (input : Input) (link : Link) :
    apart (linkNews connector input link) = [] := by
  rw [linkNews]
  split <;> rfl

/-- What playback does because of an input that is not passed over is what the input asks for. -/
theorem onPlayback_eq (h : p.isStale input = false) (playback : Playback σ) :
    onPlayback P input playback = Op.run P (input.op? p.link.generation).toList playback := by
  cases input with
  | message generation text =>
    rw [onPlayback, onText, Input.op?, if_pos ((isStale_eq_false_iff rfl).1 h)]
    cases hparse : Request.parse? text with
    | none => rfl
    | some request => cases request <;> simp [Request.op, Op.apply]
  | widget callback => exact (Op.run_singleton P (.receive callback) playback).symm
  | playbackTick => exact (Op.run_singleton P .tick playback).symm
  | opened | closed | failed | healthTick => rfl

/-- What becomes of the connection because of an input is what happens to it in the input. -/
theorem onLink_eq (input : Input) (link : Link) :
    (onLink connector input link).1 =
      Link.Op.run connector (Happening.handle input : Happening σ).linkOp?.toList link := by
  cases input <;> rfl

/-- An input that is passed over is neither for the connection nor for playback. -/
theorem eq_none_of_isStale (h : p.isStale input = true) :
    (Happening.handle input : Happening σ).linkOp? = none ∧
      (input.op? p.link.generation : Option (Op σ)) = none := by
  cases input with
  | message generation text => exact ⟨rfl, if_neg (ne_of_isStale rfl h)⟩
  | opened | closed | failed => exact ⟨rfl, rfl⟩
  | widget | healthTick | playbackTick => simp [isStale, Input.generation?] at h

/-- All that playback does because of an input is apart from the connection. -/
theorem apart_onPlayback (input : Input) (playback : Playback σ) :
    apart (onPlayback P input playback).acts = (onPlayback P input playback).acts :=
  apart_of_linkChanges_eq (linkChanges_onPlayback input playback)

theorem op?_eq_none (h : input.isOfLink = true) (current : Nat) :
    (input.op? current : Option (Op σ)) = none := by
  cases input with
  | opened | closed | failed | healthTick => rfl
  | message | widget | playbackTick => cases h

theorem linkOp?_eq_none (h : input.isOfLink = false) :
    (Happening.handle input : Happening σ).linkOp? = none := by
  cases input with
  | message | widget | playbackTick => rfl
  | opened | closed | failed | healthTick => cases h

/-- An input that is not about the connection makes no news of it. -/
theorem linkChanges_handle (h : input.isOfLink = false) (p : Player σ) :
    linkChanges (p.handle P connector input).2 = [] := by
  cases hstale : p.isStale input with
  | true => rw [handle_of_stale hstale, linkChanges, List.filterMap_nil]
  | false =>
    rw [acts_handle hstale, linkChanges_append, linkChanges_onPlayback, List.append_nil]
    cases input with
    | message | widget | playbackTick => rfl
    | opened | closed | failed | healthTick => cases h

/-! ## A run -/

/-- A player that came from another one has the connection `link` and the playback of `o`, and what
was done meanwhile and what was sent is that of `o`. -/
structure Beside (p q : Player σ) (acts : List Act) (link : Link) (o : Outcome σ) : Prop where
  link : q.link = link
  playback : q.playback = o.playback
  inbox : q.inbox = p.inbox ++ o.sent.map .widget
  acts : apart acts = o.acts

theorem beside_handle (P : Provider σ) (connector : Connector) (input : Input) (p : Player σ) :
    Beside p (p.handle P connector input).1 (p.handle P connector input).2
      (Link.Op.run connector (Happening.handle input : Happening σ).linkOp?.toList p.link)
      (Op.run P (input.op? p.link.generation).toList p.playback) := by
  cases hstale : p.isStale input with
  | true =>
    obtain ⟨hlink, hplayback⟩ := eq_none_of_isStale hstale
    rw [handle_of_stale hstale, hlink, hplayback]
    exact ⟨rfl, rfl, (List.append_nil _).symm, rfl⟩
  | false =>
    rw [← onPlayback_eq hstale, ← onLink_eq]
    refine ⟨link_handle hstale, playback_handle hstale, inbox_handle hstale, ?_⟩
    rw [acts_handle hstale, apart_append, apart_linkNews, apart_onPlayback, List.nil_append]

theorem beside_step (P : Provider σ) (connector : Connector) (happening : Happening σ)
    (p : Player σ) :
    Beside p (happening.step.apply P connector p).1 (actsOf (happening.step.apply P connector p).2)
      (Link.Op.run connector happening.linkOp?.toList p.link)
      (Op.run P (happening.op? p.link.generation).toList p.playback) := by
  cases happening with
  | handle input =>
    rw [Happening.step, Step.apply, note, actsOf_singleton]
    exact beside_handle P connector input p
  | setReadyState generation state => exact ⟨rfl, rfl, (List.append_nil _).symm, rfl⟩
  | meanwhile memory => exact ⟨rfl, rfl, (List.append_nil _).symm, rfl⟩

/-- A text that is no request changes neither part. -/
theorem handle_of_unreadable {generation : Nat} {text : String} (h : Request.parse? text = none) :
    (p.handle P connector (.message generation text)).1.playback = p.playback ∧
      (p.handle P connector (.message generation text)).1.link = p.link ∧
      (p.handle P connector (.message generation text)).2 = [] := by
  have hnone : (Input.message generation text).op? p.link.generation = (none : Option (Op σ)) := by
    simp [Input.op?, h]
  have hbeside := beside_handle P connector (.message generation text) p
  have hquiet : linkChanges (p.handle P connector (.message generation text)).2 = [] :=
    linkChanges_handle rfl p
  rw [hnone] at hbeside
  refine ⟨hbeside.playback, hbeside.link, ?_⟩
  rw [← apart_of_linkChanges_eq hquiet]
  exact hbeside.acts

/-- Along a run each part goes as it goes by itself. -/
theorem beside_run (P : Provider σ) (connector : Connector) (happenings : List (Happening σ))
    (p : Player σ) :
    Beside p (run P connector (happenings.map Happening.step) p).1
      (actsOf (run P connector (happenings.map Happening.step) p).2)
      (Link.Op.run connector (happenings.filterMap Happening.linkOp?) p.link)
      (Op.run P (playbackOps connector happenings p.link) p.playback) := by
  induction happenings generalizing p with
  | nil => exact ⟨rfl, rfl, (List.append_nil _).symm, rfl⟩
  | cons happening happenings ih =>
    have hstep := beside_step P connector happening p
    have hrest := ih (happening.step.apply P connector p).1
    -- what the rest asks for depends on the connection that the first step leads to
    rw [hstep.link, hstep.playback] at hrest
    rw [playbackOps, Op.run_append, filterMap_cons_eq_append, Link.Op.run_append]
    refine ⟨hrest.link, hrest.playback, ?_, ?_⟩
    · rw [List.map_cons, run, hrest.inbox, hstep.inbox, Outcome.sent_andThen, List.map_append,
        List.append_assoc]
    · rw [List.map_cons, run, actsOf_append, apart_append, hstep.acts, hrest.acts,
        Outcome.acts_andThen]

end Player

/-! ## The main result -/

/-- In every run in which inputs are handled at once and ready states change in between: the
connection is as if only changes of ready states and looks at it had happened to it, by itself. And
playback is as if only reports of widgets, its ticks and what was asked for had happened to it, by
itself, where a text counts if its generation was current; all that was done is the same but the
announcements about the connection. Wherever the run ends, an input that is about the connection
leaves playback as it is, every other input leaves the connection as it is, what comes from another
generation changes nothing at all, and neither part is changed by a text that is no request. -/
theorem product_of_parts (P : Provider σ) (connector : Connector) (layout : Layout) (memory : σ)
    (happenings : List (Player.Happening σ)) :
    let (p, journal) := Player.run P connector (happenings.map Player.Happening.step)
      (Player.start connector layout memory)
    let link := Link.Op.run connector (happenings.filterMap Player.Happening.linkOp?)
      (Link.start connector)
    let o := Op.run P (Player.playbackOps connector happenings (Link.start connector))
      { layout, memory }
    p.link = link ∧ p.playback = o.playback ∧ p.inbox = o.sent.map .widget ∧
      apart (actsOf journal) = o.acts ∧
      ∀ input, let handled := p.handle P connector input
        (input.isOfLink = true → handled.1.playback = p.playback ∧ apart handled.2 = []) ∧
        (input.isOfLink = false → handled.1.link = p.link ∧ linkChanges handled.2 = []) ∧
        (∀ generation, input.generation? = some generation → generation ≠ p.link.generation →
          handled = (p, [])) ∧
        ∀ generation text, input = .message generation text → Request.parse? text = none →
          handled.1.playback = p.playback ∧ handled.1.link = p.link ∧ handled.2 = [] := by
  have hrun := Player.beside_run P connector happenings (Player.start connector layout memory)
  refine ⟨hrun.link, hrun.playback, hrun.inbox.trans (List.nil_append _), hrun.acts, ?_⟩
  intro input handled
  have hinput := Player.beside_handle P connector input
    (Player.run P connector (happenings.map Player.Happening.step)
      (Player.start connector layout memory)).1
  refine ⟨?_, ?_, fun generation hgeneration hne => Player.handle_of_ne hgeneration hne, ?_⟩
  · intro hlink
    rw [Player.op?_eq_none hlink] at hinput
    exact ⟨hinput.playback, hinput.acts⟩
  · intro hlink
    rw [Player.linkOp?_eq_none hlink] at hinput
    exact ⟨hinput.link, Player.linkChanges_handle hlink _⟩
  · rintro generation text rfl hparse
    exact Player.handle_of_unreadable hparse

end Jukebox
