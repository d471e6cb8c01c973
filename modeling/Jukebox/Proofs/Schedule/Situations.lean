import Jukebox.Proofs.Player.Draining
import Jukebox.Proofs.Player.News
import Jukebox.Proofs.Schedule.Moments

/-!
# Items that nothing plays

With widgets that play nothing there are two situations in which no report waits: nothing plays
(`DryRun.idle`), or the widget of one session plays and is to end at some time (`DryRun.during`).
Here is shown of each input from which of the two situations it leads to which, with everything that
it entails, and what is heard meanwhile (`news`).
-/

namespace Jukebox

/-! ## What is heard -/

/-- What an act says of the playing of items: whatever is announced but that the queue grew or that
the connection changed. -/
def Act.news? : Act → Option (Notice Session Nat)
  | .announce (.enqueued _ _) | .announce (.linkChanged _ _) => none
  | .announce notice => some notice
  | .create _ _ _ | .play _ | .drop _ => none

/-- What some acts say of the playing of items, in order. -/
abbrev news (acts : List Act) : List (Notice Session Nat) := acts.filterMap Act.news?

theorem news_append (acts more : List Act) : news (acts ++ more) = news acts ++ news more :=
  List.filterMap_append

theorem news_linkNews (connector : Connector) (input : Input) (link : Link) :
    news (Player.linkNews connector input link) = [] := by
  rw [Player.linkNews]
  split <;> rfl

/-- An input that does not make the player go on: neither a request to skip, nor a report of a
widget, nor a look at the queue. -/
def Input.Patient : Input → Prop
  | .message _ text => Request.parse? text ≠ some .skip
  | .opened _ | .closed _ | .failed _ _ | .healthTick => True
  | .widget _ | .playbackTick => False

instance : (input : Input) → Decidable input.Patient
  | .message _ _ => inferInstanceAs (Decidable (_ ≠ _))
  | .opened _ | .closed _ | .failed _ _ | .healthTick => inferInstanceAs (Decidable True)
  | .widget _ | .playbackTick => inferInstanceAs (Decidable False)

/-- A playback whose queue has grown. -/
def Playback.wait {σ : Type} (identifiers : List String) (p : Playback σ) : Playback σ :=
  { p with queue := ⟨p.queue.toList ++ identifiers⟩ }

@[simp] theorem Playback.wait_nil {σ : Type} (p : Playback σ) : p.wait [] = p := by
  rw [wait, List.append_nil]

namespace Player

variable {σ : Type} {P : Provider σ} {connector : Connector} {p : Player σ} {input : Input}

/-- What such an input does to playback: the queue grows by what is asked for. -/
theorem onPlayback_of_patient (h : input.Patient) (hfresh : p.isStale input = false) :
    (onPlayback P input p.playback).playback =
        p.playback.wait (input.asked? p.link.generation).toList ∧
      (onPlayback P input p.playback).sent = [] ∧
      news (onPlayback P input p.playback).acts = [] := by
  have hwait := p.playback.wait_nil
  cases input with
  | message generation text =>
    have hcurrent := (isStale_eq_false_iff rfl).1 hfresh
    rw [onPlayback, onText, Input.asked?, if_pos hcurrent]
    cases hparse : Request.parse? text with
    | none => exact ⟨hwait.symm, rfl, rfl⟩
    | some request =>
      cases request with
      | play identifier => exact ⟨rfl, rfl, rfl⟩
      | skip => exact absurd hparse h
  | opened | closed | failed | healthTick => exact ⟨hwait.symm, rfl, rfl⟩
  | widget | playbackTick => exact h.elim

/-- Nothing comes of such an input but that an identifier waits. -/
theorem handle_of_patient (P : Provider σ) (connector : Connector) (h : input.Patient) :
    (p.handle P connector input).1.playback =
        p.playback.wait (input.asked? p.link.generation).toList ∧
      (p.handle P connector input).1.inbox = p.inbox ∧
      news (p.handle P connector input).2 = [] := by
  cases hstale : p.isStale input with
  | true =>
    have hasked : enqueued (p.handle P connector input).2 = _ := enqueued_handle p input
    rw [handle_of_stale hstale] at hasked ⊢
    rw [← hasked]
    exact ⟨p.playback.wait_nil.symm, rfl, rfl⟩
  | false =>
    obtain ⟨hplayback, hsent, hnews⟩ := onPlayback_of_patient (P := P) h hstale
    rw [playback_handle hstale, inbox_handle hstale, acts_handle hstale, news_append,
      news_linkNews, hplayback, hsent, hnews]
    exact ⟨rfl, List.append_nil _, rfl⟩

end Player

/-! ## The two situations -/

namespace DryRun

/-- What both situations have in common. -/
structure Standing where
  layout : Layout
  /-- What waits, the next one first. -/
  waiting : List String
  /-- How many items have stopped. -/
  finished : Nat
  now : Nat
  duration : Nat

/-- Nothing plays. -/
def idle (c : Standing) : Playback Memory where
  layout := c.layout
  queue := ⟨c.waiting⟩
  nextSession := c.finished + 1
  memory := { duration := c.duration, now := c.now }

/-- An item plays and is to stop at some time. -/
def during (c : Standing) (identifier : String) (stop : Nat) : Playback Memory where
  layout := c.layout
  queue := ⟨c.waiting⟩
  playing := true
  mounted := some ⟨c.finished + 1, identifier⟩
  nextSession := c.finished + 2
  memory := { duration := c.duration, now := c.now, lives := [(c.finished + 1, .playing stop)] }

variable {c : Standing} {identifier : String} {stop time : Nat}

@[simp] theorem nextEnd?_idle : (idle c).memory.nextEnd? = none := rfl

@[simp] theorem nextEnd?_during : (during c identifier stop).memory.nextEnd? = some stop := rfl

theorem later_idle (c : Standing) (time : Nat) :
    (idle c).later time = idle { c with now := time } := rfl

theorem later_during (c : Standing) (identifier : String) (stop time : Nat) :
    (during c identifier stop).later time = during { c with now := time } identifier stop := rfl

theorem wait_idle (c : Standing) (identifiers : List String) :
    (idle c).wait identifiers = idle { c with waiting := c.waiting ++ identifiers } := rfl

theorem wait_during (c : Standing) (identifier : String) (stop : Nat)
    (identifiers : List String) :
    (during c identifier stop).wait identifiers =
      during { c with waiting := c.waiting ++ identifiers } identifier stop := rfl

end DryRun

/-! ## Everything that waits is handled -/

namespace Player

variable {σ : Type} {P : Provider σ} {connector : Connector} {p : Player σ} {input : Input}
  {playback : Playback σ} {heard : List (Notice Session Nat)} {turns : Nat}

/-- Handling all that waits, and what follows from it, takes a number of turns and leads to a
playback, and something is heard meanwhile. -/
def Comes (P : Provider σ) (connector : Connector) (turns : Nat) (p : Player σ)
    (playback : Playback σ) (heard : List (Notice Session Nat)) : Prop :=
  ∃ q acts, (∀ limit, p.drain P connector (limit + turns) = (q, acts, turns)) ∧
    q.inbox = [] ∧ q.playback = playback ∧ news acts = heard

namespace Comes

theorem nil (hinbox : p.inbox = []) (hplayback : p.playback = playback) :
    Comes P connector 0 p playback [] :=
  ⟨p, [], Drains.nil hinbox, hinbox, hplayback, rfl⟩

/-- The first input in line is handled, and then what waits after it. -/
theorem cons {inbox : List Input} (hinbox : p.inbox = input :: inbox)
    (hrest : Comes P connector turns (handle P connector input { p with inbox }).1 playback heard) :
    Comes P connector (turns + 1) p playback
      (news (handle P connector input { p with inbox }).2 ++ heard) := by
  obtain ⟨q, acts, hdrain, hempty, rfl, rfl⟩ := hrest
  exact ⟨q, _, Drains.cons hinbox hdrain, hempty, rfl, news_append _ acts⟩

/-- The same for an input that comes from no connection: what follows depends only on playback. -/
theorem cons_of_inner {inbox : List Input} {before : Playback σ} {o : Outcome σ}
    (hinbox : p.inbox = input :: inbox) (hbefore : p.playback = before)
    (hinner : input.generation? = none) (ho : onPlayback P input before = o)
    (hrest : ∀ q : Player σ, q.inbox = inbox ++ o.sent.map .widget → q.playback = o.playback →
      Comes P connector turns q playback heard) :
    Comes P connector (turns + 1) p playback (news o.acts ++ heard) := by
  subst hbefore ho
  have hfresh : Player.isStale { p with inbox } input = false := by simp [isStale, hinner]
  have hcons := cons hinbox (hrest (handle P connector input { p with inbox }).1
    (inbox_handle hfresh) (playback_handle hfresh))
  rwa [acts_handle hfresh, news_append, news_linkNews, List.nil_append] at hcons

theorem of_patient (h : input.Patient) (hinbox : p.inbox = [input]) :
    Comes P connector 1 p (p.playback.wait (input.asked? p.link.generation).toList) [] := by
  obtain ⟨hplayback, hempty, hnews⟩ :=
    handle_of_patient P connector (p := { p with inbox := [] }) h
  have hcons := cons hinbox (nil hempty hplayback)
  rwa [hnews] at hcons

end Comes

end Player

namespace DryRun

variable {c : Standing} {identifier : String} {p : Player Memory} (connector : Connector)

/-- The next item is mounted but does not play yet. -/
def mounting (c : Standing) (identifier : String) : Playback Memory :=
  { during c identifier c.now with
    memory := { (idle c).memory with lives := [(c.finished + 1, .waiting)] } }

/-- An item has stopped but is still mounted. -/
def stopped (c : Standing) (identifier : String) : Playback Memory :=
  { during c identifier c.now with
    memory := { (idle c).memory with lives := [(c.finished + 1, .gone)] } }

/-- A look at the queue while nothing plays: the next item is mounted. -/
theorem tick_idle (c : Standing) (identifier : String) :
    (idle { c with waiting := identifier :: c.waiting }).tick provider =
      { playback := mounting c identifier
        acts := [.create (c.finished + 1) { c.layout with identifier } true,
          .announce (.started (c.finished + 1) identifier)]
        sent := [⟨c.finished + 1, .ready⟩] } := rfl

/-- It is told to play when it has reported that it is ready. -/
theorem receive_mounting (c : Standing) (identifier : String) :
    (mounting c identifier).receive provider ⟨c.finished + 1, .ready⟩ =
      { playback := during c identifier (c.now + c.duration)
        acts := [.play ⟨c.finished + 1, identifier⟩]
        sent := [⟨c.finished + 1, .changed .playing⟩] } := by
  simp [mounting, during, idle, Playback.receive, Playback.playMounted, provider, Memory.life?,
    Memory.setLife]

/-- That it plays is no news. -/
theorem receive_during (c : Standing) (identifier : String) (stop : Nat) :
    (during c identifier stop).receive provider ⟨c.finished + 1, .changed .playing⟩ =
      (during c identifier stop).unchanged := by
  simp [during, Playback.receive]

/-- It is dropped when it has reported that it has ended. -/
theorem receive_stopped (c : Standing) (identifier : String) :
    (stopped c identifier).receive provider ⟨c.finished + 1, .changed .ended⟩ =
      { playback := idle { c with finished := c.finished + 1 }
        acts := [.drop ⟨c.finished + 1, identifier⟩,
          .announce (.ended (c.finished + 1) identifier)] } := by
  simp [stopped, during, idle, Playback.receive, Playback.endMounted, Playback.teardown,
    Playback.announce, Playback.checked, Outcome.andThen, provider]

/-- After a look at the queue while nothing plays the next item plays. -/
theorem comes_of_look (hinbox : p.inbox = [.playbackTick])
    (h : p.playback = idle { c with waiting := identifier :: c.waiting }) :
    p.Comes provider connector 3 (during c identifier (c.now + c.duration))
      [.started (c.finished + 1) identifier] := by
  refine .cons_of_inner hinbox h rfl (tick_idle c identifier) fun q hready hmounting => ?_
  refine .cons_of_inner hready hmounting rfl (receive_mounting c identifier)
    fun q hplaying hduring => ?_
  refine .cons_of_inner hplaying hduring rfl (receive_during c identifier _)
    fun q hempty hafter => ?_
  exact .nil hempty hafter

/-- A look at the queue changes nothing while an item plays, or while nothing waits. -/
theorem comes_of_idle_look (hinbox : p.inbox = [.playbackTick])
    (h : p.playback.queue.hasNext = false ∨ p.playback.playing = true) :
    p.Comes provider connector 1 p.playback [] := by
  have hlook : p.playback.tick provider = p.playback.unchanged := by
    refine if_neg ?_
    rcases h with h | h <;> simp [h]
  exact .cons_of_inner hinbox rfl rfl hlook fun q hempty hafter => .nil hempty hafter

/-- After the report that it has ended nothing plays. -/
theorem comes_of_stop (hinbox : p.inbox = [.widget ⟨c.finished + 1, .changed .ended⟩])
    (h : p.playback = stopped c identifier) :
    p.Comes provider connector 1 (idle { c with finished := c.finished + 1 })
      [.ended (c.finished + 1) identifier] :=
  .cons_of_inner hinbox h rfl (receive_stopped c identifier)
    fun _ hempty hafter => .nil hempty hafter

end DryRun

namespace Schedule

open DryRun

variable {s : Schedule} {playback : Playback Memory} {heard : List (Notice Session Nat)}
  {turns : Nat} {c : Standing} {identifier : String} {stop : Nat}

/-- Handling all that waits leads to a playback, and something is heard meanwhile. -/
structure Settles (s : Schedule) (playback : Playback Memory)
    (heard : List (Notice Session Nat)) : Prop where
  timers : s.settle.1.timers = s.timers
  inbox : s.settle.1.player.inbox = []
  playback : s.settle.1.player.playback = playback
  news : news s.settle.2 = heard

/-- There are turns enough. -/
theorem Settles.of_comes (h : s.player.Comes provider s.connector turns playback heard)
    (hturns : turns ≤ drainLimit s.player) : s.Settles playback heard := by
  obtain ⟨q, acts, hdrain, hinbox, rfl, rfl⟩ := h
  obtain ⟨more, hmore⟩ := Nat.exists_eq_add_of_le' hturns
  have hsettle : s.settle = ({ s with player := q }, acts) := by
    rw [settle, hmore, hdrain more]
  exact ⟨by rw [hsettle], by rw [hsettle]; exact hinbox, by rw [hsettle], by rw [hsettle]⟩

theorem le_drainLimit {input : Input} (hinbox : s.player.inbox = [input]) :
    3 ≤ drainLimit s.player := by
  rw [drainLimit, hinbox, Nat.add_assoc]
  exact Nat.le_add_right 3 _

theorem Settles.of_patient {input : Input} (h : input.Patient) (hinbox : s.player.inbox = [input]) :
    s.Settles (s.player.playback.wait (input.asked? s.player.link.generation).toList) [] :=
  .of_comes (.of_patient h hinbox) (Nat.le_trans (by decide) (le_drainLimit hinbox))

theorem Settles.of_look (hinbox : s.player.inbox = [.playbackTick])
    (h : s.player.playback = idle { c with waiting := identifier :: c.waiting }) :
    s.Settles (during c identifier (c.now + c.duration)) [.started (c.finished + 1) identifier] :=
  .of_comes (comes_of_look s.connector hinbox h) (le_drainLimit hinbox)

theorem Settles.of_idle_look (hinbox : s.player.inbox = [.playbackTick])
    (h : s.player.playback.queue.hasNext = false ∨ s.player.playback.playing = true) :
    s.Settles s.player.playback [] :=
  .of_comes (comes_of_idle_look s.connector hinbox h)
    (Nat.le_trans (by decide) (le_drainLimit hinbox))

/-- When the item that plays stops, nothing plays any more. -/
theorem Settles.of_stop (hinbox : s.player.inbox = [])
    (h : s.player.playback = during c identifier stop) :
    (s.reach stop).Settles (idle { c with finished := c.finished + 1, now := stop })
      [.ended (c.finished + 1) identifier] := by
  have hends : (during c identifier stop).memory.reach stop =
      ((stopped { c with now := stop } identifier).memory,
        [⟨c.finished + 1, .changed .ended⟩]) := by
    simp [during, stopped, idle, Memory.reach]
  have hplayback : (s.reach stop).player.playback =
      stopped { c with now := stop } identifier := by
    change { s.player.playback with memory := (s.player.playback.memory.reach stop).1 } = _
    rw [h, hends]
    rfl
  have hinbox : (s.reach stop).player.inbox = [.widget ⟨c.finished + 1, .changed .ended⟩] := by
    change s.player.inbox ++ (s.player.playback.memory.reach stop).2.map .widget = _
    rw [h, hends, hinbox]
    rfl
  have hcomes := comes_of_stop (c := { c with now := stop }) s.connector hinbox hplayback
  exact .of_comes hcomes (Nat.le_trans (by decide) (le_drainLimit hinbox))

end Schedule

end Jukebox
