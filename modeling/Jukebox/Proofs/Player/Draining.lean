import Jukebox.Proofs.Playback.Refusals
import Jukebox.Proofs.Player.Run
import Jukebox.Proofs.Widget.Lives
import Jukebox.Schedule

/-!
# Handling what waits comes to an end

To handle an input can bring new ones: a widget that is made says that it is ready, and one that
is told to play says that it does. The main result is `draining_ends`: with widgets that say each
of the two at most once, handling what waits comes to an end, and after so many turns at most.

Each turn takes one input out and is paid for by what it brings. An item that waits is worth two
turns, for the two reports of the widget that will be made for it; so is a text that asks for an
item. A mounted widget that has not played yet is worth one (`Player.worth`). That no operation on
playback brings more than that is `cost_receive` and the lemmas before it.
-/

namespace Jukebox

variable {σ : Type}

/-! ## Widgets that play once -/

/-- Every widget that is asked for is made, and says once that it is ready. Told to play it fails
without a word, or plays; that it plays it says the first time, and nothing later. `started` tells
from the memory whether the widget of a session has played. -/
structure Provider.PlaysOnce (P : Provider σ) (started : σ → Session → Bool) : Prop where
  made : ∀ memory session spec, (∃ name, (P.create memory session spec).result = .ok name) ∧
    (P.create memory session spec).sent = [⟨session, .ready⟩]
  fails : ∀ memory session e, (P.play memory session).result = .error e →
    (P.play memory session).sent = []
  plays : ∀ memory session, started memory session = false →
    (P.play memory session).result = .ok () →
      (P.play memory session).sent = [⟨session, .changed .playing⟩] ∧
        started (P.play memory session).memory session = true
  again : ∀ memory session, started memory session = true →
    (P.play memory session).result = .ok () →
      (P.play memory session).sent = [] ∧ started (P.play memory session).memory session = true
  dropped : ∀ memory session, (P.drop memory session).2 = []

/-- The widget of the session does not wait to be told to play. -/
def DryRun.started (m : DryRun.Memory) (session : Session) : Bool :=
  m.life? session != some .waiting

theorem DryRun.playsOnce_provider : DryRun.provider.PlaysOnce DryRun.started where
  made memory session spec := ⟨⟨spec.identifier, rfl⟩, rfl⟩
  fails memory session e h := by
    by_cases hlife : memory.life? session = some .waiting
    · rw [play_of_waiting hlife] at h
      cases h
    · rw [play_of_not_waiting hlife]
  plays memory session hstarted _ := by
    have hlife : memory.life? session = some .waiting := by simpa [started] using hstarted
    have hplays : (memory.setLife session (.playing (memory.now + memory.duration))).life? session =
        some (.playing (memory.now + memory.duration)) := lookup_set hlife _
    rw [play_of_waiting hlife]
    simp [started, hplays]
  again memory session hstarted _ := by
    have hlife : memory.life? session ≠ some .waiting := by simpa [started] using hstarted
    rw [play_of_not_waiting hlife]
    exact ⟨rfl, hstarted⟩
  dropped memory session := rfl

/-- The widget of the session does not wait to be told to play. -/
def External.started (m : External.Memory) (session : Session) : Bool :=
  match m.life? session with
  | some (.waiting _) => false
  | _ => true

theorem External.started_eq_false_iff {m : External.Memory} {session : Session} :
    External.started m session = false ↔ ∃ args, m.life? session = some (.waiting args) := by
  rw [started]
  split <;> simp_all

theorem External.playsOnce_provider
    (launch : String → List String → Except Host.LaunchError Host.Child) :
    (External.provider launch).PlaysOnce External.started where
  made memory session spec := ⟨⟨spec.identifier, rfl⟩, rfl⟩
  fails memory session e h := by
    by_cases hlife : ∃ args, memory.life? session = some (.waiting args)
    · obtain ⟨args, hlife⟩ := hlife
      cases hlaunch : launch memory.settings.command args with
      | ok child =>
        rw [play_of_launched hlife hlaunch] at h
        cases h
      | error cause => rw [play_of_not_launched hlife hlaunch]
    · rw [play_of_not_waiting (not_exists.1 hlife)]
  plays memory session hstarted h := by
    obtain ⟨args, hlife⟩ := started_eq_false_iff.1 hstarted
    cases hlaunch : launch memory.settings.command args with
    | ok child =>
      have hplays : (memory.setLife session (.running (memory.now + child.lasts) child.exit)).life?
          session = some (.running (memory.now + child.lasts) child.exit) := lookup_set hlife _
      rw [play_of_launched hlife hlaunch]
      simp [started, hplays]
    | error cause =>
      rw [play_of_not_launched hlife hlaunch] at h
      cases h
  again memory session hstarted _ := by
    have hlife : ∀ args, memory.life? session ≠ some (.waiting args) := fun args heq =>
      Bool.false_ne_true ((started_eq_false_iff.2 ⟨args, heq⟩).symm.trans hstarted)
    rw [play_of_not_waiting hlife]
    exact ⟨rfl, hstarted⟩
  dropped memory session := rfl

/-! ## What playback is worth -/

namespace Playback

/-- One turn for the mounted widget if it has not played yet. -/
def unplayed (started : σ → Session → Bool) (p : Playback σ) : Nat :=
  (p.mounted.map fun widget => (!started p.memory widget.session).toNat).getD 0

/-- Two turns for each item that waits, and one for a mounted widget that has not played yet. -/
def worth (started : σ → Session → Bool) (p : Playback σ) : Nat :=
  2 * p.queue.size + p.unplayed started

variable {P : Provider σ} {started : σ → Session → Bool} {p : Playback σ}

theorem unplayed_le_one (started : σ → Session → Bool) (p : Playback σ) :
    p.unplayed started ≤ 1 := by
  rw [unplayed]
  cases p.mounted with
  | none => exact Nat.zero_le 1
  | some widget => exact Bool.toNat_le _

theorem unplayed_of_unmounted (h : p.mounted = none) : p.unplayed started = 0 := by
  rw [unplayed, h]
  rfl

/-- What an operation brings and what playback is worth after it. -/
def cost (started : σ → Session → Bool) (o : Outcome σ) : Nat :=
  o.sent.length + o.playback.worth started

theorem sent_teardown (hP : P.PlaysOnce started) (p : Playback σ) : (p.teardown P).sent = [] := by
  rw [teardown]
  cases p.mounted with
  | none => rfl
  | some widget => exact hP.dropped _ _

/-- To go on costs two turns for the item that is taken out of the queue, and they are paid for. -/
theorem cost_advance (hP : P.PlaysOnce started) (p : Playback σ) :
    cost started (p.advance P) ≤ 2 * p.queue.size := by
  -- such a provider refuses nothing, so what is passed over is empty
  cases hqueue : p.queue.toList with
  | nil =>
    have hnone : p.queue.toList = ([] : List (String × PlayerError)).map Prod.fst := hqueue
    have hadvance := advance_of_none_accepted (P := P) hnone .nil
    rw [hadvance, cost, sent_teardown hP]
    simp [worth, unplayed, Queue.size, Queue.empty]
  | cons identifier others =>
    obtain ⟨⟨name, hresult⟩, hready⟩ :=
      hP.made (p.teardown P).playback.memory p.nextSession (p.spec identifier)
    have hfirst : p.queue.toList =
        ([] : List (String × PlayerError)).map Prod.fst ++ identifier :: others := hqueue
    have hadvance := advance_of_accepted hfirst .nil hresult
    have hsent : (p.advance P).sent.length = 1 := by
      rw [hadvance, sent_teardown hP]
      exact congrArg List.length hready
    have hrest : (p.advance P).playback.queue.size = others.length := by
      rw [hadvance]
      rfl
    have hunplayed := unplayed_le_one started (p.advance P).playback
    rw [cost, worth, hsent, hrest, Queue.size, hqueue, List.length_cons]
    omega

theorem cost_unchanged (started : σ → Session → Bool) (p : Playback σ) :
    cost started p.unchanged = p.worth started :=
  Nat.zero_add _

theorem cost_enqueue (started : σ → Session → Bool) (identifier : String) (p : Playback σ) :
    cost started (p.enqueue identifier) = p.worth started + 2 := by
  have hunplayed : (p.enqueue identifier).playback.unplayed started = p.unplayed started := rfl
  have hsize : (p.enqueue identifier).playback.queue.size = p.queue.size + 1 :=
    Queue.size_push p.queue identifier
  have hsent : (p.enqueue identifier).sent.length = 0 := rfl
  rw [cost, worth, worth, hunplayed, hsize, hsent]
  omega

theorem cost_skip (hP : P.PlaysOnce started) (p : Playback σ) :
    cost started (p.skip P) ≤ p.worth started := by
  rw [skip_eq]
  exact Nat.le_trans (cost_advance hP p) (Nat.le_add_right _ _)

theorem cost_tick (hP : P.PlaysOnce started) (p : Playback σ) :
    cost started (p.tick P) ≤ p.worth started := by
  rw [tick]
  split
  · exact Nat.le_trans (cost_advance hP p) (Nat.le_add_right _ _)
  · exact Nat.le_of_eq (cost_unchanged started p)

theorem cost_failMounted (hP : P.PlaysOnce started) (widget : Mounted) (reason : String)
    (p : Playback σ) : cost started (p.failMounted P widget reason) ≤ 2 * p.queue.size := by
  rw [failMounted_eq]
  exact cost_advance hP p

theorem cost_endMounted (hP : P.PlaysOnce started) (widget : Mounted) (p : Playback σ) :
    cost started (p.endMounted P widget) ≤ p.worth started := by
  have hsent : (p.endMounted P widget).sent = [] := by
    simp [endMounted, announce, checked, sent_teardown hP]
  obtain ⟨memory, sent, hended⟩ := endMounted_eq P widget p
  have hunplayed : (p.endMounted P widget).playback.unplayed started = 0 :=
    unplayed_of_unmounted (by rw [hended])
  have hqueue : (p.endMounted P widget).playback.queue = p.queue := by rw [hended]
  rw [cost, worth, worth, hsent, hunplayed, hqueue, List.length_nil]
  omega

/-- A widget that says that it plays has played from then on; one that fails has said nothing. -/
theorem cost_playMounted (hP : P.PlaysOnce started) {widget : Mounted}
    (hmounted : p.mounted = some widget) :
    cost started (p.playMounted P widget) ≤ p.worth started := by
  cases hresult : (P.play p.memory widget.session).result with
  | error e =>
    have hsilent := hP.fails _ _ e hresult
    have hfails := cost_failMounted hP widget e.message
      { p with memory := (P.play p.memory widget.session).memory }
    rw [playMounted_of_error hresult, cost, Outcome.sent_andThen, hsilent, List.nil_append]
    exact Nat.le_trans hfails (Nat.le_add_right _ _)
  | ok =>
    rw [playMounted_of_ok hresult]
    cases hstarted : started p.memory widget.session with
    | true =>
      obtain ⟨hsilent, hstill⟩ := hP.again _ _ hstarted hresult
      simp [cost, worth, unplayed, hmounted, hsilent, hstill]
    | false =>
      obtain ⟨hreport, hstarts⟩ := hP.plays _ _ hstarted hresult
      simp [cost, worth, unplayed, hmounted, hreport, hstarts, hstarted, Nat.add_comm]

theorem cost_receive (hP : P.PlaysOnce started) (callback : Callback) (p : Playback σ) :
    cost started (p.receive P callback) ≤ p.worth started := by
  have hpasses : cost started p.unchanged ≤ p.worth started :=
    Nat.le_of_eq (cost_unchanged started p)
  rw [receive]
  split
  · exact hpasses
  · rename_i widget hmounted
    split
    · split
      · exact cost_playMounted hP hmounted
      · exact cost_endMounted hP widget p
      · exact hpasses
      · exact Nat.le_trans (cost_failMounted hP widget _ p) (Nat.le_add_right _ _)
    · exact hpasses

end Playback

/-! ## What the player is worth -/

/-- The input is a text that asks for an item, on whatever connection it came. -/
def Input.asksForItem : Input → Bool
  | .message _ text =>
    match Request.parse? text with
    | some (.play _) => true
    | _ => false
  | _ => false

/-- How many texts that ask for an item are among the inputs. -/
abbrev asking (inputs : List Input) : Nat := inputs.countP Input.asksForItem

theorem asking_cons (input : Input) (inputs : List Input) :
    asking (input :: inputs) = asking inputs + input.asksForItem.toNat := by
  rw [asking, List.countP_cons]
  cases input.asksForItem <;> rfl

theorem asking_append_widgets (inputs : List Input) (sent : List Callback) :
    asking (inputs ++ sent.map .widget) = asking inputs := by
  have hnone : (sent.map Input.widget).countP Input.asksForItem = 0 := by
    simp [List.countP_eq_zero, Input.asksForItem]
  rw [asking, List.countP_append, hnone, Nat.add_zero]

namespace Player

open Playback (cost)

variable {P : Provider σ} {started : σ → Session → Bool} {connector : Connector} {p : Player σ}

/-- One turn for each input that waits, two more for one that asks for an item, and what playback is
worth. -/
def worth (started : σ → Session → Bool) (p : Player σ) : Nat :=
  p.inbox.length + 2 * asking p.inbox + p.playback.worth started

theorem worth_le (started : σ → Session → Bool) (p : Player σ) :
    p.worth started ≤ p.inbox.length + 2 * (p.playback.queue.size + asking p.inbox) + 1 := by
  have hunplayed := p.playback.unplayed_le_one started
  rw [worth, Playback.worth]
  omega

/-- What an input brings is paid for by what it asks for and by what playback was worth. -/
theorem cost_onPlayback (hP : P.PlaysOnce started) (input : Input) (playback : Playback σ) :
    cost started (onPlayback P input playback) ≤
      playback.worth started + 2 * input.asksForItem.toNat := by
  have hpasses : cost started playback.unchanged = playback.worth started :=
    Playback.cost_unchanged started playback
  cases input with
  | message generation text =>
    cases hparse : Request.parse? text with
    | none => simp [onPlayback, onText, Input.asksForItem, hparse, hpasses]
    | some request =>
      cases request with
      | play identifier =>
        simp [onPlayback, onText, Input.asksForItem, hparse, Playback.cost_enqueue]
      | skip =>
        simpa [onPlayback, onText, Input.asksForItem, hparse] using Playback.cost_skip hP playback
  | widget callback => exact Playback.cost_receive hP callback playback
  | playbackTick => exact Playback.cost_tick hP playback
  | opened | closed | failed | healthTick => exact Nat.le_of_eq hpasses

/-- Each turn makes the player worth less. -/
theorem worth_handle_lt (connector : Connector) (hP : P.PlaysOnce started) {input : Input}
    {inbox : List Input} (hinbox : p.inbox = input :: inbox) :
    (handle P connector input { p with inbox }).1.worth started < p.worth started := by
  cases hstale : isStale { p with inbox } input with
  | true =>
    rw [handle_of_stale hstale, worth, worth, hinbox, asking_cons, List.length_cons]
    simp only
    omega
  | false =>
    -- the input that is taken out pays for this turn and for its request, playback for the rest
    have hcost := cost_onPlayback hP input p.playback
    rw [worth, worth, playback_handle hstale, inbox_handle hstale, asking_append_widgets, hinbox,
      asking_cons, List.length_append, List.length_map, List.length_cons]
    rw [cost] at hcost
    simp only
    omega

/-! ## Turns -/

/-- Handling what waits takes so many turns and comes to a state and some acts: with a limit of as
many turns or more, whatever the limit. -/
def Drains (P : Provider σ) (connector : Connector) (turns : Nat) (p q : Player σ)
    (acts : List Act) : Prop :=
  ∀ limit, p.drain P connector (limit + turns) = (q, acts, turns)

theorem Drains.nil (hinbox : p.inbox = []) : Drains P connector 0 p p [] := by
  intro limit
  cases limit <;> simp [drain, handleNext?, hinbox]

/-- The first input in line is handled, and then what waits after it. -/
theorem Drains.cons {input : Input} {inbox : List Input} {turns : Nat} {q : Player σ}
    {acts : List Act} (hinbox : p.inbox = input :: inbox)
    (h : Drains P connector turns (handle P connector input { p with inbox }).1 q acts) :
    Drains P connector (turns + 1) p q
      ((handle P connector input { p with inbox }).2 ++ acts) := by
  intro limit
  rw [← Nat.add_assoc, drain, handleNext?, hinbox]
  simp only [h limit]

/-- There are no more turns than the player is worth. -/
theorem exists_drains (hP : P.PlaysOnce started) (connector : Connector) (p : Player σ) :
    ∃ turns, turns ≤ p.worth started ∧
      ∃ q acts, q.inbox = [] ∧ Drains P connector turns p q acts := by
  -- the induction is on the worth, which every turn lowers; the line itself may grow meanwhile
  induction hworth : p.worth started using Nat.strongRecOn generalizing p with
  | ind n ih =>
    subst hworth
    cases hinbox : p.inbox with
    | nil => exact ⟨0, Nat.zero_le _, p, [], hinbox, .nil hinbox⟩
    | cons input inbox =>
      have hless := worth_handle_lt connector hP hinbox
      obtain ⟨turns, hturns, q, acts, hempty, hdrains⟩ := ih _ hless _ rfl
      exact ⟨turns + 1, Nat.lt_of_le_of_lt hturns hless, q, _, hempty, .cons hinbox hdrains⟩

end Player

/-- In unattended playback nothing waits once what waits has been handled: the turns that are
allowed for it are enough. -/
theorem Schedule.inbox_settle (s : Schedule) : s.settle.1.player.inbox = [] := by
  obtain ⟨turns, hturns, q, acts, hempty, hdrains⟩ :=
    Player.exists_drains DryRun.playsOnce_provider s.connector s.player
  have hworth := s.player.worth_le DryRun.started
  have hasking : asking s.player.inbox ≤ s.player.inbox.length := List.countP_le_length
  have hlimit : turns ≤ drainLimit s.player := by
    rw [drainLimit]
    omega
  obtain ⟨limit, hlimit⟩ := Nat.exists_eq_add_of_le' hlimit
  rw [settle, hlimit, hdrains limit]
  exact hempty

/-! ## The main result -/

/-- With widgets that play once, such as those that play nothing and those that run a player,
however programs start: from any state of the player and whatever waits, handling all that waits
comes to an end, and then nothing waits any more. The turns it takes are at most as many as inputs
waited, two more for each item that was in the queue and for each text that asked for one, and
one. -/
theorem draining_ends (connector : Connector) :
    (∀ {σ : Type} (P : Provider σ) (started : σ → Session → Bool), P.PlaysOnce started →
      ∀ p : Player σ, ∃ turns,
        turns ≤ p.inbox.length + 2 * (p.playback.queue.size + asking p.inbox) + 1 ∧
          ∃ q acts, q.inbox = [] ∧
            ∀ limit, p.drain P connector (limit + turns) = (q, acts, turns)) ∧
      DryRun.provider.PlaysOnce DryRun.started ∧
      ∀ launch, (External.provider launch).PlaysOnce External.started := by
  refine ⟨fun P started hP p => ?_, DryRun.playsOnce_provider, External.playsOnce_provider⟩
  obtain ⟨turns, hturns, hdrains⟩ := Player.exists_drains hP connector p
  exact ⟨turns, Nat.le_trans hturns (Player.worth_le started p), hdrains⟩

/-- A widget that has not played is said to be ready twice, and then to skip is asked for: the
widget of the next item is made, and it says that it is ready and that it plays. -/
theorem drained_after_doubled_report :
    let connector : Connector := fun _ generation => ⟨generation, .opened⟩
    let memory : DryRun.Memory := { duration := 5, lives := [(1, .waiting)] }
    let p : Player DryRun.Memory :=
      { Player.start connector {} memory with
        playback :=
          { queue := ⟨["b"]⟩, playing := true, mounted := some ⟨1, "a"⟩, nextSession := 2, memory }
        inbox := [.widget ⟨1, .ready⟩, .widget ⟨1, .ready⟩, .message 1 "SKIP", .playbackTick] }
    DryRun.provider.PlaysOnce DryRun.started ∧
      (∃ turns, turns ≤ p.inbox.length + 2 * (p.playback.queue.size + asking p.inbox) + 1 ∧
        ∃ q acts, q.inbox = [] ∧
          ∀ limit, p.drain DryRun.provider connector (limit + turns) = (q, acts, turns)) ∧
      (p.drain DryRun.provider connector 10).2.2 = 7 := by
  intro connector memory p
  have hP := DryRun.playsOnce_provider
  exact ⟨hP, (draining_ends connector).1 DryRun.provider DryRun.started hP p, by decide⟩

end Jukebox
