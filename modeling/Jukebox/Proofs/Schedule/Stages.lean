import Jukebox.Proofs.Schedule.Log

/-!
# Keeping to the timetable

`Kept` ties the clock, the look at the queue that is due, the item that plays and the queue to the
timetable of what was asked for so far. It is kept when the item that plays stops (`Kept.stop`), at
a look at the connection (`Kept.health`), at a look at the queue (`Kept.look`), and when something
more is asked for (`Kept.wait`).
-/

namespace Jukebox

open DryRun

/-- The item of a wish that follows others. -/
def Wish.itemAfter (period duration : Nat) (past : List Wish) (wish : Wish) : Item :=
  wish.item period duration (freed period duration 0 past)

/-- How things stand when some wishes are past and others wait. -/
def standing (layout : Layout) (past waiting : List Wish) (now duration : Nat) : Standing where
  layout
  waiting := waiting.map Wish.identifier
  finished := past.length
  now
  duration

theorem standing_wait (layout : Layout) (past waiting more : List Wish) (now duration : Nat) :
    { standing layout past waiting now duration with
      waiting := (standing layout past waiting now duration).waiting ++
        more.map Wish.identifier } = standing layout past (waiting ++ more) now duration := by
  simp [standing]

theorem standing_stop (layout : Layout) (past waiting : List Wish) (wish : Wish)
    (now duration time : Nat) :
    { standing layout past waiting now duration with
      finished := (standing layout past waiting now duration).finished + 1
      now := time } = standing layout (past ++ [wish]) waiting time duration := by
  simp [standing]

/-- How far a timetable has come by a time, given when the next look is due. -/
inductive Stage (period duration : Nat) (wishes : List Wish) (heard : Heard) (due now : Nat) :
    Playback Memory → Prop
  /-- Some items have stopped, and the next one is to start at the next look. -/
  | rest {layout : Layout} {past waiting : List Wish}
      (split : wishes = past ++ waiting)
      (finished : freed period duration 0 past ≤ now)
      (next : ∀ wish ∈ waiting.head?, (wish.itemAfter period duration past).start = due)
      (said : heard = announced 1 (timetable period duration 0 past)) :
      Stage period duration wishes heard due now
        (DryRun.idle (standing layout past waiting now duration))
  /-- Some items have stopped, and the next one is on. -/
  | play {layout : Layout} {past waiting : List Wish} {wish : Wish}
      (split : wishes = past ++ wish :: waiting)
      (on : (wish.itemAfter period duration past).On now)
      (said : heard = announced 1 (timetable period duration 0 past) ++
        [((wish.itemAfter period duration past).start,
          .started (past.length + 1) wish.identifier)]) :
      Stage period duration wishes heard due now
        (DryRun.during (standing layout past waiting now duration) wish.identifier
          (wish.itemAfter period duration past).stop)

namespace Stage

variable {period duration due now : Nat} {wishes : List Wish} {heard : Heard}
  {playback : Playback Memory}

/-- It becomes later, but not so late that an item stops. -/
theorem later (h : Stage period duration wishes heard due now playback) {time : Nat}
    (hle : now ≤ time) (hstop : ∀ stop ∈ playback.memory.nextEnd?, time < stop) :
    Stage period duration wishes heard due time (playback.later time) := by
  cases h with
  | rest split finished next said =>
    rw [later_idle]
    exact .rest split (Nat.le_trans finished hle) next said
  | play split on said =>
    rw [later_during]
    exact .play split ⟨Nat.le_trans on.1 hle, hstop _ nextEnd?_during⟩ said

/-- More is asked for. -/
theorem wait (h : Stage period duration wishes heard due now playback) (hdvd : period ∣ due)
    (hlt : now < due) (hle : due ≤ now + period) {more : List Wish}
    (hmore : ∀ wish ∈ more, wish.asked = now) :
    Stage period duration (wishes ++ more) heard due now
      (playback.wait (more.map Wish.identifier)) := by
  cases h with
  | rest split finished next said =>
    rw [wait_idle, standing_wait]
    refine .rest (by rw [split, List.append_assoc]) finished (fun wish hmem => ?_) said
    rename_i waiting
    cases waiting with
    | cons first waiting => exact next wish hmem
    | nil =>
      -- what is asked for while nothing waits starts at the next look
      have hasked := hmore wish (List.mem_of_mem_head? hmem)
      rw [Wish.itemAfter, Wish.item, hasked, Nat.max_eq_left finished]
      exact nextLook_eq hdvd hlt hle
  | play split on said =>
    rw [wait_during, standing_wait]
    exact .play (by rw [split, List.append_assoc, List.cons_append]) on said

/-- The item that is on stops later. -/
theorem lt_stop (h : Stage period duration wishes heard due now playback) :
    ∀ stop ∈ playback.memory.nextEnd?, now < stop := by
  intro stop hstop
  cases h with
  | rest split finished next said =>
    rw [nextEnd?_idle] at hstop
    cases hstop
  | play split on said =>
    rw [nextEnd?_during, Option.mem_some_iff] at hstop
    exact hstop ▸ on.2

/-- The item that is on stops between two looks, and the next one is to start at the next look. -/
theorem stop (h : Stage period duration wishes heard due now playback)
    (hoff : ¬ period ∣ duration) (hdvd : period ∣ due) (hle : due ≤ now + period)
    (hasked : ∀ wish ∈ wishes, wish.asked ≤ now) {time : Nat} (htime : time ≤ due)
    (hstop : playback.memory.nextEnd? = some time) :
    ∃ c identifier, playback = during c identifier time ∧
      Stage period duration wishes (heard ++ [(time, .ended (c.finished + 1) identifier)]) due time
        (idle { c with finished := c.finished + 1, now := time }) := by
  cases h with
  | rest split finished next said =>
    rw [nextEnd?_idle] at hstop
    cases hstop
  | @play layout past waiting wish split on said =>
    rw [nextEnd?_during, Option.some.injEq] at hstop
    subst hstop
    refine ⟨standing layout past waiting now duration, wish.identifier, rfl, ?_⟩
    -- no item stops at a look, since it started at one
    have hbetween : (wish.itemAfter period duration past).stop < due := by
      refine Nat.lt_of_le_of_ne htime fun heq => hoff ?_
      rw [← heq, Item.stop] at hdvd
      exact (Nat.dvd_add_right (dvd_nextLook period _)).1 hdvd
    have hstopped : freed period duration 0 (past ++ [wish]) =
        (wish.itemAfter period duration past).stop := freed_append 0 past [wish]
    rw [standing_stop layout past waiting wish]
    refine .rest (by rw [split, List.append_assoc]; rfl) (Nat.le_of_eq hstopped)
      (fun later hmem => ?_) ?_
    · -- what waits was asked for before the stop
      have hbefore : later.asked ≤ (wish.itemAfter period duration past).stop := by
        refine Nat.le_trans (hasked later ?_) (Nat.le_of_lt on.2)
        rw [split]
        exact List.mem_append_right _ (List.mem_cons_of_mem _ (List.mem_of_mem_head? hmem))
      rw [Wish.itemAfter, Wish.item, hstopped, Nat.max_eq_right hbefore]
      refine nextLook_eq hdvd hbetween (Nat.le_trans hle ?_)
      exact Nat.add_le_add_right (Nat.le_of_lt on.2) period
    · rw [said, timetable_append, announced_append, length_timetable, List.append_assoc,
        Nat.add_comm 1]
      rfl

/-- At a look nothing happens unless the next item is to start. -/
theorem look (h : Stage period duration wishes heard due due playback)
    (hpos : 0 < duration) (due' : Nat) :
    ((playback.queue.hasNext = false ∨ playback.playing = true) ∧
      Stage period duration wishes heard due' due playback) ∨
    ∃ c identifier, playback = idle { c with waiting := identifier :: c.waiting } ∧
      Stage period duration wishes (heard ++ [(c.now, .started (c.finished + 1) identifier)])
        due' due (during c identifier (c.now + c.duration)) := by
  cases h with
  | @rest layout past waiting split finished next said =>
    cases waiting with
    | nil => exact .inl ⟨.inl rfl, .rest split finished (by simp) said⟩
    | cons wish waiting =>
      right
      have hstart : (wish.itemAfter period duration past).start = due := next wish rfl
      refine ⟨standing layout past waiting due duration, wish.identifier, rfl, ?_⟩
      have hstop : (wish.itemAfter period duration past).stop = due + duration := by
        rw [Item.stop, hstart]
        rfl
      have hon : (wish.itemAfter period duration past).On due :=
        ⟨Nat.le_of_eq hstart, hstop ▸ Nat.lt_add_of_pos_right hpos⟩
      change Stage _ _ _ _ _ _ (during _ _ (due + duration))
      rw [← hstop]
      refine .play split hon ?_
      rw [said, hstart]
      rfl
  | play split on said => exact .inl ⟨.inr rfl, .play split on said⟩

/-- What it means to have come so far: what has stopped and what is on has been heard of, what is on
plays, and what is ahead waits. -/
theorem parted (h : Stage period duration wishes heard due now playback) (hperiod : 0 < period)
    (hlt : now < due) :
    ∃ finished current ahead,
      Parted now (timetable period duration 0 wishes) finished current ahead ∧
      heard = announced 1 finished ++ (current.map fun item =>
        (item.start, .started (1 + finished.length) item.identifier)).toList ∧
      playback.mounted = current.map (fun item => ⟨finished.length + 1, item.identifier⟩) ∧
      playback.playing = current.isSome ∧
      playback.queue.toList = ahead.map Item.identifier := by
  cases h with
  | @rest layout past waiting split finished next said =>
    refine ⟨timetable period duration 0 past, none,
      timetable period duration (freed period duration 0 past) waiting, ⟨?_, ?_, by simp, ?_⟩, ?_,
      rfl, rfl, (map_identifier_timetable _ waiting).symm⟩
    · rw [split, timetable_append]
      rfl
    · exact fun item hmem => Nat.le_trans (stop_le_freed hperiod hmem) finished
    · intro item hmem
      refine lt_start_of_head hperiod (fun wish hwish => ?_) hmem
      exact Nat.lt_of_lt_of_eq hlt (next wish hwish).symm
    · rw [said]
      exact (List.append_nil _).symm
  | @play layout past waiting wish split on said =>
    refine ⟨timetable period duration 0 past, some (wish.itemAfter period duration past),
      timetable period duration (wish.itemAfter period duration past).stop waiting,
      ⟨?_, ?_, ?_, ?_⟩, ?_, ?_, rfl, (map_identifier_timetable _ waiting).symm⟩
    · rw [split, timetable_append]
      rfl
    · intro item hmem
      have hstart : freed period duration 0 past < (wish.itemAfter period duration past).start :=
        wish.lt_start_item hperiod
      exact Nat.le_trans (stop_le_freed hperiod hmem) (Nat.le_trans (Nat.le_of_lt hstart) on.1)
    · rintro item ⟨⟩
      exact on
    · exact fun item hmem => lt_start_of_mem hperiod (Nat.le_of_lt on.2) hmem
    · rw [said, length_timetable, Nat.add_comm 1]
      rfl
    · rw [length_timetable]
      rfl

end Stage

/-- The clock, the timers and the playback go by the timetable of what was asked for, and what was
heard is what the timetable says. -/
structure Kept (period duration : Nat) (wishes : List Wish) (heard : Heard) (timers : Timers)
    (playback : Playback Memory) : Prop where
  running : timers.running = true
  period_eq : timers.playback.period = period
  upTo : ∀ tick, (timers.timer tick).UpTo playback.memory.now
  dvd_due : period ∣ timers.playback.due
  due_le : timers.playback.due ≤ playback.memory.now + period
  asked : ∀ wish ∈ wishes, wish.asked ≤ playback.memory.now
  stage : Stage period duration wishes heard timers.playback.due playback.memory.now playback

namespace Kept

variable {period duration : Nat} {wishes : List Wish} {heard : Heard} {timers : Timers}
  {playback : Playback Memory}

/-- The item that is on stops. -/
theorem stop (h : Kept period duration wishes heard timers playback) (hpos : 0 < period)
    (hoff : ¬ period ∣ duration) {time : Nat} (hstop : playback.memory.nextEnd? = some time)
    (hupTo : ∀ tick, (timers.timer tick).UpTo time) :
    ∃ c identifier, playback = during c identifier time ∧
      Kept period duration wishes (heard ++ [(time, .ended (c.finished + 1) identifier)]) timers
        (idle { c with finished := c.finished + 1, now := time }) := by
  have hdue : time ≤ timers.playback.due := hupTo .playback (h.period_eq ▸ hpos)
  obtain ⟨c, identifier, hplayback, hstage⟩ :=
    h.stage.stop hoff h.dvd_due h.due_le h.asked hdue hstop
  have hnow : playback.memory.now ≤ time := Nat.le_of_lt (h.stage.lt_stop time hstop)
  exact ⟨c, identifier, hplayback, h.running, h.period_eq, hupTo, h.dvd_due,
    Nat.le_trans h.due_le (Nat.add_le_add_right hnow _),
    fun wish hmem => Nat.le_trans (h.asked wish hmem) hnow, hstage⟩

/-- Time passes until a timer ticks. -/
theorem later (h : Kept period duration wishes heard timers playback) {due : Nat}
    (hle : playback.memory.now ≤ due) (hupTo : ∀ tick, (timers.timer tick).UpTo due)
    (hstop : ∀ stop ∈ playback.memory.nextEnd?, due < stop) :
    Kept period duration wishes heard timers (playback.later due) where
  running := h.running
  period_eq := h.period_eq
  upTo := hupTo
  dvd_due := h.dvd_due
  due_le := Nat.le_trans h.due_le (Nat.add_le_add_right hle _)
  asked wish hmem := Nat.le_trans (h.asked wish hmem) hle
  stage := h.stage.later hle hstop

/-- What the timers take for the present time does not matter. -/
theorem setNow (h : Kept period duration wishes heard timers playback) (now : Nat) :
    Kept period duration wishes heard { timers with now } playback where
  running := h.running
  period_eq := h.period_eq
  upTo tick := by
    rw [Timers.timer_now]
    exact h.upTo tick
  dvd_due := h.dvd_due
  due_le := h.due_le
  asked := h.asked
  stage := h.stage

/-- The timer that looks at the connection ticks. -/
theorem health (h : Kept period duration wishes heard timers playback) (due : Nat) :
    Kept period duration wishes heard (timers.ticked due .health) playback where
  running := h.running
  period_eq := h.period_eq
  upTo
    | .health => fun hperiod => Nat.le_add_right_of_le (h.upTo .health hperiod)
    | .playback => h.upTo .playback
  dvd_due := h.dvd_due
  due_le := h.due_le
  asked := h.asked
  stage := h.stage

/-- The timer that looks at the queue ticks: nothing happens unless the next item is to start. -/
theorem look (h : Kept period duration wishes heard timers playback) (hpos : 0 < duration)
    (hdue : timers.playback.due = playback.memory.now) :
    ((playback.queue.hasNext = false ∨ playback.playing = true) ∧
      Kept period duration wishes heard (timers.ticked playback.memory.now .playback) playback) ∨
    ∃ c identifier, playback = idle { c with waiting := identifier :: c.waiting } ∧
      Kept period duration wishes (heard ++ [(c.now, .started (c.finished + 1) identifier)])
        (timers.ticked playback.memory.now .playback)
        (during c identifier (c.now + c.duration)) := by
  have hstage := h.stage
  rw [hdue] at hstage
  have hupTo (tick : Tick) :
      ((timers.ticked playback.memory.now .playback).timer tick).UpTo playback.memory.now := by
    cases tick with
    | health => exact h.upTo .health
    | playback => exact fun hperiod => Nat.le_add_right_of_le (h.upTo .playback hperiod)
  have hdvd : period ∣ timers.playback.due + timers.playback.period :=
    Nat.dvd_add h.dvd_due (h.period_eq ▸ Nat.dvd_refl _)
  have hle : timers.playback.due + timers.playback.period ≤ playback.memory.now + period :=
    Nat.le_of_eq (by rw [hdue, h.period_eq])
  rcases hstage.look hpos (timers.playback.due + timers.playback.period) with
    ⟨hquiet, hstage⟩ | ⟨c, identifier, hplayback, hstage⟩
  · exact .inl ⟨hquiet, h.running, h.period_eq, hupTo, hdvd, hle, h.asked, hstage⟩
  · refine .inr ⟨c, identifier, hplayback, ?_⟩
    have hnow : playback.memory.now = c.now := congrArg (·.memory.now) hplayback
    have hasked := h.asked
    rw [hnow] at hupTo hle hasked hstage ⊢
    exact ⟨h.running, h.period_eq, hupTo, hdvd, hle, hasked, hstage⟩

/-- More is asked for, between two looks. -/
theorem wait (h : Kept period duration wishes heard timers playback)
    (hlt : playback.memory.now < timers.playback.due) {more : List Wish}
    (hmore : ∀ wish ∈ more, wish.asked = playback.memory.now) :
    Kept period duration (wishes ++ more) heard timers
      (playback.wait (more.map Wish.identifier)) where
  running := h.running
  period_eq := h.period_eq
  upTo := h.upTo
  dvd_due := h.dvd_due
  due_le := h.due_le
  asked := List.forall_mem_append.2 ⟨h.asked, fun wish hmem => Nat.le_of_eq (hmore wish hmem)⟩
  stage := h.stage.wait h.dvd_due hlt h.due_le hmore

end Kept

end Jukebox
