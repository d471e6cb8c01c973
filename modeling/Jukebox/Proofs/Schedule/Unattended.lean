import Jukebox.Link.Task
import Jukebox.Proofs.Schedule.Stages

/-!
# The player left alone

The main result is `timetable_kept`. Whatever is asked for, whenever, and whatever becomes of the
connection meanwhile: as long as nobody asks to skip, a player with widgets that play nothing keeps
exactly to the timetable of what was asked for.
-/

namespace Jukebox

open DryRun

/-! ## How much is left to do -/

/-- How many ticks are left by a time, at most. -/
def Timer.left (time : Nat) (t : Timer) : Nat := if 0 < t.period then time + 1 - t.due else 0

/-- How many ends are left by a time, at most. -/
def Playback.left (time : Nat) (p : Playback Memory) : Nat :=
  match p.memory.nextEnd? with
  | some stop => time + 1 - stop
  | none => time - p.memory.now

/-- How much is left to do by a time, at most. -/
def Schedule.left (time : Nat) (s : Schedule) : Nat :=
  s.timers.health.left time + s.timers.playback.left time + s.player.playback.left time

theorem Timer.left_tick {t : Timer} {time : Nat} (hperiod : 0 < t.period) (hdue : t.due ≤ time) :
    t.tick.left time < t.left time := by
  rw [left, left, if_pos hperiod, if_pos (by exact hperiod)]
  change time + 1 - (t.due + t.period) < time + 1 - t.due
  omega

theorem Timer.left_le {t : Timer} {now : Nat} (h : t.UpTo (now + 1)) (ms : Nat) :
    t.left (now + ms) ≤ ms := by
  rw [left]
  split
  · rename_i hperiod
    have hdue := h hperiod
    omega
  · exact Nat.zero_le ms

theorem Timers.left_ticked {t : Timers} {time : Nat} {tick : Tick}
    (hperiod : 0 < (t.timer tick).period) (hdue : (t.timer tick).due ≤ time) :
    (t.ticked (t.timer tick).due tick).health.left time +
        (t.ticked (t.timer tick).due tick).playback.left time <
      t.health.left time + t.playback.left time := by
  cases tick with
  | health => exact Nat.add_lt_add_right (Timer.left_tick hperiod hdue) _
  | playback => exact Nat.add_lt_add_left (Timer.left_tick hperiod hdue) _

theorem Playback.left_later {p : Playback Memory} {due : Nat} (hle : p.memory.now ≤ due)
    (time : Nat) :
    (p.later due).left time ≤ p.left time := by
  have hends : (p.later due).memory.nextEnd? = p.memory.nextEnd? := rfl
  rw [left, left, hends]
  split
  · exact Nat.le_refl _
  · exact Nat.sub_le_sub_left hle time

namespace Schedule

variable {period duration time : Nat} {wishes : List Wish} {heard : Heard} {s : Schedule}

/-! ## One thing after the other -/

/-- The schedule goes by the timetable, and nothing waits to be handled. -/
structure OnTime (period duration : Nat) (wishes : List Wish) (heard : Heard) (s : Schedule) :
    Prop where
  inbox : s.player.inbox = []
  kept : Kept period duration wishes heard s.timers s.player.playback

theorem left_settle {playback : Playback Memory} {said : List (Notice Session Nat)}
    (h : s.Settles playback said) (time : Nat) :
    s.settle.1.left time =
      s.timers.health.left time + s.timers.playback.left time + playback.left time := by
  rw [left, h.timers, h.playback]

namespace OnTime

theorem settle {playback : Playback Memory} {said : List (Notice Session Nat)}
    (hsettles : s.Settles playback said)
    (hkept : Kept period duration wishes (heard ++ said.map (playback.memory.now, ·)) s.timers
      playback) :
    OnTime period duration wishes (heard ++ Schedule.heard (dated s.settle)) s.settle.1 := by
  rw [heard_dated, hsettles.news, hsettles.playback]
  exact ⟨hsettles.inbox, by rw [hsettles.timers, hsettles.playback]; exact hkept⟩

/-- A tick is handled: what it leads to by the timetable is what it leads to. -/
theorem tick (h : OnTime period duration wishes heard s) (hpos : 0 < duration) {tick : Tick}
    {due : Nat} (hperiod : 0 < (s.timers.timer tick).period)
    (hdue : (s.timers.timer tick).due = due) (hupTo : ∀ tick, (s.timers.timer tick).UpTo due)
    (hstop : ∀ stop ∈ s.player.playback.memory.nextEnd?, due < stop) :
    ∃ playback said, (s.onTick due tick).Settles playback said ∧
      Kept period duration wishes (heard ++ said.map (playback.memory.now, ·))
        (s.timers.ticked due tick) playback ∧
      playback.memory.now = due ∧ ∀ time, due ≤ time →
        playback.left time ≤ s.player.playback.left time := by
  have hnow : s.player.playback.memory.now ≤ due := hdue ▸ h.kept.upTo tick hperiod
  have hlater := h.kept.later hnow hupTo hstop
  have hleft := Playback.left_later hnow
  rw [onTick_of_lt tick hstop, h.inbox, List.nil_append]
  cases tick with
  | health =>
    have hpatient : Input.healthTick.Patient := trivial
    refine ⟨_, _, .of_patient hpatient rfl, ?_, rfl, fun time _ => ?_⟩
    · change Kept _ _ _ _ _ ((s.player.playback.later due).wait [])
      rw [Playback.wait_nil, List.map_nil, List.append_nil]
      exact hlater.health due
    · change ((s.player.playback.later due).wait []).left time ≤ _
      rw [Playback.wait_nil]
      exact hleft time
  | playback =>
    rcases hlater.look hpos hdue with ⟨hquiet, hkept⟩ | ⟨c, identifier, hplayback, hkept⟩
    · refine ⟨_, _, .of_idle_look rfl hquiet, ?_, rfl, fun time _ => hleft time⟩
      rw [List.map_nil, List.append_nil]
      exact hkept
    · have hc : c.now = due := congrArg (·.memory.now) hplayback.symm
      refine ⟨_, _, .of_look rfl hplayback, hkept, hc, fun time hle => ?_⟩
      -- the item that starts stops later than it starts
      have hlater : c.now < c.now + c.duration := hkept.stage.lt_stop _ rfl
      refine Nat.le_trans ?_ (hleft time)
      rw [hplayback]
      change time + 1 - (c.now + c.duration) ≤ time - c.now
      omega

/-- The next thing that is due is done on time, and brings the end nearer. -/
theorem step (h : OnTime period duration wishes heard s) (hperiod : 0 < period)
    (hoff : ¬ period ∣ duration) {r : Schedule × List Act} (hstep : s.step? time = some r) :
    OnTime period duration wishes (heard ++ Schedule.heard (dated r)) r.1 ∧
      r.1.player.playback.memory.now ≤ time ∧ r.1.left time < s.left time := by
  obtain ⟨due, hle, hupTo, ⟨hstop, rfl⟩ | ⟨tick, hstop, hticks, hdue, rfl⟩⟩ :=
    step?_cases h.kept.running hstep
  · obtain ⟨c, identifier, hplayback, hkept⟩ := h.kept.stop hperiod hoff hstop hupTo
    have hsettles := Settles.of_stop h.inbox hplayback
    refine ⟨.settle hsettles hkept, ?_, ?_⟩
    · rw [hsettles.playback]
      exact hle
    · rw [left_settle hsettles, left]
      refine Nat.add_lt_add_left ?_ _
      rw [hplayback]
      change time - due < time + 1 - due
      omega
  · have hpos : 0 < duration := Nat.pos_of_ne_zero fun hzero => hoff (hzero ▸ Nat.dvd_zero period)
    obtain ⟨playback, said, hsettles, hkept, hnow, hleft⟩ := h.tick hpos hticks hdue hupTo hstop
    refine ⟨.settle hsettles hkept, ?_, ?_⟩
    · rw [hsettles.playback, hnow]
      exact hle
    · rw [left_settle hsettles, left]
      subst hdue
      exact Nat.add_lt_add_of_lt_of_le (Timers.left_ticked hticks hle) (hleft time hle)

/-- Everything due by a time is done on time if there are turns enough, and then nothing is due. -/
theorem runUntil (h : OnTime period duration wishes heard s) (hperiod : 0 < period)
    (hoff : ¬ period ∣ duration) (hnow : s.player.playback.memory.now ≤ time) {fuel : Nat}
    (hfuel : s.left time ≤ fuel) :
    OnTime period duration wishes (heard ++ Schedule.heard (logUntil time fuel s))
        (Schedule.runUntil time fuel s).1 ∧
      (Schedule.runUntil time fuel s).1.player.playback.memory.now ≤ time ∧
      (Schedule.runUntil time fuel s).1.step? time = none := by
  induction fuel generalizing s heard with
  | zero =>
    rw [logUntil, Schedule.runUntil]
    refine ⟨by rwa [heard_nil, List.append_nil], hnow, ?_⟩
    cases hstep : s.step? time with
    | none => rfl
    | some r => exact absurd (h.step hperiod hoff hstep).2.2 (by omega)
  | succ fuel ih =>
    rw [logUntil, Schedule.runUntil]
    cases hstep : s.step? time with
    | none =>
      exact ⟨by rwa [heard_nil, List.append_nil], hnow, hstep⟩
    | some r =>
      obtain ⟨hnext, hreached, hleft⟩ := h.step hperiod hoff hstep
      have hrest := ih hnext hreached (by omega)
      rw [List.append_assoc, ← heard_append] at hrest
      exact hrest

end OnTime

/-- Everything that was due has been done. -/
structure AtRest (period duration : Nat) (wishes : List Wish) (heard : Heard) (s : Schedule) : Prop
    extends OnTime period duration wishes heard s where
  now : s.timers.now = s.player.playback.memory.now
  next : ∀ tick, (s.timers.timer tick).UpTo (s.player.playback.memory.now + 1)

namespace AtRest

theorem start (connector : Connector) (poll : PollSettings) (widget : WidgetSettings) :
    AtRest poll.playbackMs.toNat widget.dryRunMs.toNat [] []
      (Schedule.start connector poll widget) where
  inbox := rfl
  kept :=
    { running := rfl
      period_eq := rfl
      upTo := fun _ _ => Nat.zero_le _
      dvd_due := ⟨1, (Nat.zero_add _).trans (Nat.mul_one _).symm⟩
      due_le := Nat.le_refl _
      asked := by simp
      stage :=
        show Stage _ _ _ _ _ _ (idle (standing (.ofSettings widget) [] [] 0 _)) from
          .rest rfl (Nat.le_refl 0) (by simp) rfl }
  now := rfl
  next
    | .health => fun hperiod => Nat.add_le_add_left hperiod 0
    | .playback => fun hperiod => Nat.add_le_add_left hperiod 0

/-- In each millisecond there is at most one tick of each timer and one end. -/
theorem left_le (h : AtRest period duration wishes heard s) (ms : Nat) :
    s.left (s.timers.now + ms) ≤ 3 * ms := by
  have hhealth := Timer.left_le (h.next .health) ms
  have hplayback := Timer.left_le (h.next .playback) ms
  have hends : s.player.playback.left (s.player.playback.memory.now + ms) ≤ ms := by
    rw [Playback.left]
    split
    · rename_i stop hstop
      have hlater := h.kept.stage.lt_stop stop hstop
      omega
    · omega
  rw [left, h.now]
  simp only [Timers.timer] at hhealth hplayback
  omega

/-- Time passes, and everything that becomes due is done on time. -/
theorem elapse (h : AtRest period duration wishes heard s) (hperiod : 0 < period)
    (hoff : ¬ period ∣ duration) (ms : Nat) :
    AtRest period duration wishes (heard ++ Schedule.heard (s.elapseLog ms)) (s.elapse ms).1 := by
  have hstart : s.player.playback.memory.now ≤ s.timers.now + ms := by
    rw [h.now]
    exact Nat.le_add_right _ ms
  obtain ⟨hdone, hnow, hnone⟩ := h.runUntil hperiod hoff hstart
    (Nat.le_add_right_of_le (k := 2) (h.left_le ms))
  obtain ⟨hends, hticks⟩ := step?_eq_none hdone.kept.running hnone
  have helapse : (s.elapse ms).1 = _ :=
    reach_of_lt (s := { (Schedule.runUntil (s.timers.now + ms) (3 * ms + 2) s).1 with
      timers := { (Schedule.runUntil (s.timers.now + ms) (3 * ms + 2) s).1.timers with
        now := s.timers.now + ms } }) hends
  rw [helapse]
  have hkept := hdone.kept.later hnow (fun tick => (hticks tick).le (Nat.le_succ _)) hends
  refine ⟨⟨hdone.inbox, hkept.setNow _⟩, rfl, fun tick => ?_⟩
  rw [Timers.timer_now]
  exact hticks tick

/-- An input that does not make the player go on is handled. -/
theorem handle (h : AtRest period duration wishes heard s) (hperiod : 0 < period)
    (hoff : ¬ period ∣ duration) {input : Input} (hinput : input.Patient) :
    AtRest period duration (wishes ++ (Event.handle input).asked s)
      (heard ++ Schedule.heard (s.handleLog input)) (s.handle input).1 := by
  have hlt : s.player.playback.memory.now < s.timers.playback.due :=
    h.next .playback (h.kept.period_eq ▸ hperiod)
  have hmore : ∀ wish ∈ (Event.handle input).asked s,
      wish.asked = s.player.playback.memory.now := by
    intro wish hmem
    rw [Event.asked, Option.mem_toList, Option.map_eq_some_iff] at hmem
    obtain ⟨identifier, -, rfl⟩ := hmem
    exact h.now
  have hidentifiers : ((Event.handle input).asked s).map Wish.identifier =
      (input.asked? s.player.link.generation).toList := by
    rw [Event.asked]
    cases input.asked? s.player.link.generation <;> rfl
  have hinbox : (s.player.post input).inbox = [input] := by
    rw [Player.post, h.inbox, List.nil_append]
  have hkept := h.kept.wait hlt hmore
  rw [hidentifiers] at hkept
  have hsettles : Schedule.Settles { s with player := s.player.post input } _ _ :=
    .of_patient hinput hinbox
  have hontime : OnTime period duration (wishes ++ (Event.handle input).asked s) _ _ :=
    .settle hsettles (by rw [List.map_nil, List.append_nil]; exact hkept)
  have hrest := AtRest.mk hontime (by rw [hsettles.timers, hsettles.playback]; exact h.now)
    (by rw [hsettles.timers, hsettles.playback]; exact h.next)
  have helapsed := hrest.elapse hperiod hoff 0
  rw [List.append_assoc, ← heard_append] at helapsed
  exact helapsed

theorem apply (h : AtRest period duration wishes heard s) (hperiod : 0 < period)
    (hoff : ¬ period ∣ duration) {event : Event} (hevent : event.Patient) :
    AtRest period duration (wishes ++ event.asked s) (heard ++ Schedule.heard (event.apply s).2)
      (event.apply s).1 := by
  cases event with
  | elapse ms =>
    rw [Event.asked, List.append_nil]
    exact h.elapse hperiod hoff ms
  | handle input => exact h.handle hperiod hoff hevent
  | setReadyState generation state =>
    rw [Event.asked, List.append_nil, Event.apply, heard_nil, List.append_nil]
    exact ⟨⟨h.inbox, h.kept⟩, h.now, h.next⟩

theorem run (h : AtRest period duration wishes heard s) (hperiod : 0 < period)
    (hoff : ¬ period ∣ duration) {events : List Event} (hevents : ∀ event ∈ events, event.Patient) :
    AtRest period duration (wishes ++ asked events s)
      (heard ++ Schedule.heard (Schedule.run events s).2) (Schedule.run events s).1 := by
  induction events generalizing s wishes heard with
  | nil =>
    rw [asked, Schedule.run, heard_nil, List.append_nil, List.append_nil]
    exact h
  | cons event events ih =>
    obtain ⟨hevent, hevents⟩ := List.forall_mem_cons.1 hevents
    have hrest := ih (h.apply hperiod hoff hevent) hevents
    rw [List.append_assoc, List.append_assoc, ← heard_append] at hrest
    exact hrest

end AtRest

end Schedule

/-! ## The main result -/

/-- As long as nobody asks to skip, a player with widgets that play nothing keeps to the timetable
of what was asked for, provided that items do not last for a whole number of periods. An item starts
at the first look at the queue after it was asked for and the one before it has stopped, and stops
when its duration has passed: each start and each stop is announced at its time, in the order in
which items were asked for, and nothing else is announced of the playing of items. At any time the
item that is on is mounted, in the session that is its number, and plays; if none is on, nothing is
mounted and nothing plays; and the items that are still to start wait in the queue. All this holds
whatever connections report and however often they are replaced. -/
theorem timetable_kept (connector : Connector) (poll : PollSettings) (widget : WidgetSettings)
    (hperiod : 0 < poll.playbackMs) (hoff : ¬ poll.playbackMs.toNat ∣ widget.dryRunMs.toNat)
    (events : List Schedule.Event) (hevents : ∀ event ∈ events, event.Patient) :
    let start := Schedule.start connector poll widget
    let ran := Schedule.run events start
    let items := timetable poll.playbackMs.toNat widget.dryRunMs.toNat 0
      (Schedule.asked events start)
    let now := ran.1.timers.now
    let playback := ran.1.player.playback
    Schedule.heard ran.2 = (announced 1 items).filter (·.1 ≤ now) ∧
      (∀ mounted, playback.mounted = some mounted ↔ ∃ k item, items[k]? = some item ∧
        item.On now ∧ mounted = ⟨k + 1, item.identifier⟩) ∧
      (playback.playing = true ↔ ∃ item ∈ items, item.On now) ∧
      playback.queue.toList =
        (items.filter fun item => now < item.start).map Item.identifier := by
  intro start ran items now playback
  have hpositive : 0 < poll.playbackMs.toNat := UInt64.lt_iff_toNat_lt.1 hperiod
  have hrest := (Schedule.AtRest.start connector poll widget).run hpositive hoff hevents
  rw [List.nil_append, List.nil_append] at hrest
  have hlt : playback.memory.now < ran.1.timers.playback.due :=
    hrest.next .playback (hrest.kept.period_eq ▸ hpositive)
  obtain ⟨finished, current, ahead, hparted, hheard, hmounted, hplaying, hqueue⟩ :=
    hrest.kept.stage.parted hpositive hlt
  have hnow : now = playback.memory.now := hrest.now
  rw [hnow]
  refine ⟨?_, fun mounted => ?_, ?_, ?_⟩
  · exact hheard.trans (hparted.filter_announced 1).symm
  · rw [hparted.on_iff fun k item => mounted = ⟨k + 1, item.identifier⟩, hmounted,
      Option.map_eq_some_iff]
    exact exists_congr fun item => and_congr_right fun _ => eq_comm
  · have hon := hparted.on_iff fun _ _ => True
    rw [hplaying, Option.isSome_iff_exists]
    constructor
    · rintro ⟨item, hitem⟩
      obtain ⟨k, item, hk, hnow, -⟩ := hon.2 ⟨item, hitem, trivial⟩
      exact ⟨item, List.mem_of_getElem? hk, hnow⟩
    · rintro ⟨item, hmem, hnow⟩
      obtain ⟨k, hk⟩ := List.mem_iff_getElem?.1 hmem
      obtain ⟨item, hitem, -⟩ := hon.1 ⟨k, item, hk, hnow, trivial⟩
      exact ⟨item, hitem⟩
  · exact hqueue.trans (congrArg _ hparted.filter_lt_start.symm)

/-- Looks at the queue every 4 milliseconds, and items of 6. Two are asked for at once, and one
later on the next connection, after the first one has closed. -/
theorem third_on_second_connection :
    let poll : PollSettings := { healthMs := 5, playbackMs := 4 }
    let widget : WidgetSettings := { dryRunMs := 6 }
    let events : List Schedule.Event :=
      [.elapse 3, .handle (.message 1 "PLAY a"), .handle (.message 1 "PLAY b"),
        .setReadyState 1 .closed, .elapse 9, .handle (.message 2 "PLAY c"), .elapse 10]
    let start := Schedule.start Link.dialer poll widget
    0 < poll.playbackMs ∧ ¬ poll.playbackMs.toNat ∣ widget.dryRunMs.toNat ∧
      (∀ event ∈ events, event.Patient) ∧
      timetable poll.playbackMs.toNat widget.dryRunMs.toNat 0 (Schedule.asked events start) =
        [⟨"a", 4, 6⟩, ⟨"b", 12, 6⟩, ⟨"c", 20, 6⟩] ∧
      (Schedule.run events start).1.timers.now = 22 ∧
      Schedule.heard (Schedule.run events start).2 = [(4, .started 1 "a"), (10, .ended 1 "a"),
        (12, .started 2 "b"), (18, .ended 2 "b"), (20, .started 3 "c")] ∧
      (Schedule.run events start).1.player.playback.mounted = some ⟨3, "c"⟩ := by
  intro poll widget events
  have hperiod : 0 < poll.playbackMs := by decide
  have hoff : ¬ poll.playbackMs.toNat ∣ widget.dryRunMs.toNat := by decide
  have hevents : ∀ event ∈ events, event.Patient := by decide
  have hitems : timetable poll.playbackMs.toNat widget.dryRunMs.toNat 0
      (Schedule.asked events (.start Link.dialer poll widget)) =
        [⟨"a", 4, 6⟩, ⟨"b", 12, 6⟩, ⟨"c", 20, 6⟩] := by decide
  have hnow : (Schedule.run events (.start Link.dialer poll widget)).1.timers.now = 22 := by decide
  obtain ⟨hheard, hmounted, -, -⟩ :=
    timetable_kept Link.dialer poll widget hperiod hoff events hevents
  simp only [hitems, hnow] at hheard hmounted
  refine ⟨hperiod, hoff, hevents, hitems, hnow, hheard.trans (by decide), ?_⟩
  exact (hmounted _).2 ⟨2, ⟨"c", 20, 6⟩, by decide, by decide, rfl⟩

end Jukebox
