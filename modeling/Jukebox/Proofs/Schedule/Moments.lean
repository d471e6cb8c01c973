import Jukebox.Schedule

/-!
# What is done next

A player left alone does something whenever an item ends or a timer ticks. `Schedule.step?_cases`
says which of them is next: it is due, and nothing else was due before it. When nothing is left to
do, nothing is due (`Schedule.step?_eq_none`).
-/

namespace Jukebox

/-! ## Ends -/

/-- Nothing ends before the next end. -/
theorem DryRun.Memory.reach_of_lt {m : Memory} {time : Nat}
    (h : ∀ stop ∈ m.nextEnd?, time < stop) : m.reach time = ({ m with now := time }, []) := by
  have hends : ∀ entry ∈ m.lives, ∀ due, entry.2 = .playing due → ¬ due ≤ time := by
    rintro ⟨session, life⟩ hmem due rfl
    rw [Nat.not_le]
    cases hfirst : m.nextEnd? with
    | none =>
      have hnone := List.filterMap_eq_nil_iff.1 (List.min?_eq_none_iff.1 hfirst) _ hmem
      cases hnone
    | some first =>
      have hleast := (List.min?_eq_some_iff.1 hfirst).2 due (List.mem_filterMap.2 ⟨_, hmem, rfl⟩)
      exact Nat.lt_of_lt_of_le (h first hfirst) hleast
  rw [reach, Prod.mk.injEq, List.filterMap_eq_nil_iff]
  refine ⟨congrArg (Memory.mk m.duration time) ?_, ?_⟩
  · refine (List.map_congr_left fun entry hmem => ?_).trans (List.map_id m.lives)
    obtain ⟨session, life⟩ := entry
    cases life with
    | playing due => simp [hends _ hmem due rfl]
    | waiting | gone => rfl
  · rintro ⟨session, life⟩ hmem
    cases life with
    | playing due => simp [hends _ hmem due rfl]
    | waiting | gone => rfl

/-- A playback at a later time. -/
def Playback.later (time : Nat) (p : Playback DryRun.Memory) : Playback DryRun.Memory :=
  { p with memory := { p.memory with now := time } }

/-- It becomes later, and nothing else happens. -/
theorem Schedule.reach_of_lt {s : Schedule} {time : Nat}
    (h : ∀ stop ∈ s.player.playback.memory.nextEnd?, time < stop) :
    s.reach time =
      { s with player := { s.player with playback := s.player.playback.later time } } := by
  rw [reach, DryRun.Memory.reach_of_lt h]
  simp [Playback.later]

/-! ## Ticks -/

/-- The timer has not ticked before a time. -/
def Timer.UpTo (time : Nat) (t : Timer) : Prop := 0 < t.period → time ≤ t.due

theorem Timer.UpTo.le {t : Timer} {time due : Nat} (h : t.UpTo time) (hle : due ≤ time) :
    t.UpTo due :=
  fun hperiod => Nat.le_trans hle (h hperiod)

theorem Timer.isDue_eq_true_iff {t : Timer} {time : Nat} :
    t.isDue time = true ↔ 0 < t.period ∧ t.due ≤ time := by
  simp [isDue]

theorem Timer.upTo_of_isDue_eq_false {t : Timer} {time : Nat} (h : t.isDue time = false) :
    t.UpTo (time + 1) := by
  intro hperiod
  refine Nat.lt_of_not_le fun hdue => ?_
  rw [isDue_eq_true_iff.2 ⟨hperiod, hdue⟩] at h
  cases h

namespace Timers

variable {t t' : Timers} {time due : Nat} {tick : Tick}

/-- The timer of a tick. -/
def timer (t : Timers) : Tick → Timer
  | .health => t.health
  | .playback => t.playback

theorem timer_now (t : Timers) (now : Nat) (tick : Tick) :
    ({ t with now } : Timers).timer tick = t.timer tick := by
  cases tick <;> rfl

/-- The timers after a tick. -/
def ticked (due : Nat) (t : Timers) : Tick → Timers
  | .health => { t with now := due, health := t.health.tick }
  | .playback => { t with now := due, playback := t.playback.tick }

/-- If no tick is due by a time, both timers are set to later. -/
theorem next?_eq_none (hrunning : t.running = true) (h : t.next? time = none) (tick : Tick) :
    (t.timer tick).UpTo (time + 1) := by
  simp only [next?, hrunning, if_true] at h
  split at h
  · cases h
  · cases h
  · cases h
  · rename_i hhealth hplayback
    cases tick with
    | health => exact Timer.upTo_of_isDue_eq_false hhealth
    | playback => exact Timer.upTo_of_isDue_eq_false hplayback

/-- The tick that is next is due, and no other was before it. -/
theorem next?_eq_some (h : t.next? time = some (due, tick, t')) :
    due ≤ time ∧ 0 < (t.timer tick).period ∧ (t.timer tick).due = due ∧ t' = t.ticked due tick ∧
      ∀ tick, (t.timer tick).UpTo due := by
  simp only [next?] at h
  split at h
  · split at h
    · -- both are due, and the earlier one goes first
      rename_i hhealth hplayback
      rw [Timer.isDue_eq_true_iff] at hhealth hplayback
      split at h
      · rename_i hle
        cases h
        exact ⟨hhealth.2, hhealth.1, rfl, rfl, Tick.rec (fun _ => Nat.le_refl _) fun _ => hle⟩
      · rename_i hlt
        cases h
        exact ⟨hplayback.2, hplayback.1, rfl, rfl,
          Tick.rec (fun _ => Nat.le_of_not_le hlt) fun _ => Nat.le_refl _⟩
    · rename_i hhealth hplayback
      rw [Timer.isDue_eq_true_iff] at hhealth
      have hlater := Timer.upTo_of_isDue_eq_false hplayback
      cases h
      exact ⟨hhealth.2, hhealth.1, rfl, rfl,
        Tick.rec (fun _ => Nat.le_refl _) (hlater.le (Nat.le_succ_of_le hhealth.2))⟩
    · rename_i hhealth hplayback
      rw [Timer.isDue_eq_true_iff] at hplayback
      have hlater := Timer.upTo_of_isDue_eq_false hhealth
      cases h
      exact ⟨hplayback.2, hplayback.1, rfl, rfl,
        Tick.rec (hlater.le (Nat.le_succ_of_le hplayback.2)) fun _ => Nat.le_refl _⟩
    · cases h
  · cases h

end Timers

/-! ## What is next -/

namespace Schedule

/-- The input that a tick is. -/
def tickInput : Tick → Input
  | .health => .healthTick
  | .playback => .playbackTick

/-- The player after a tick has joined the line. -/
def onTick (due : Nat) (tick : Tick) (s : Schedule) : Schedule :=
  let s := { s with timers := s.timers.ticked due tick }.reach due
  { s with player := s.player.post (tickInput tick) }

variable {s : Schedule} {time : Nat}

/-- After a tick before the next end it is later, and the tick waits. -/
theorem onTick_of_lt {due : Nat} (tick : Tick)
    (h : ∀ stop ∈ s.player.playback.memory.nextEnd?, due < stop) :
    s.onTick due tick =
      { s with
        timers := s.timers.ticked due tick
        player := { s.player with
          playback := s.player.playback.later due
          inbox := s.player.inbox ++ [tickInput tick] } } := by
  have hreach : Schedule.reach { s with timers := s.timers.ticked due tick } due = _ :=
    reach_of_lt h
  rw [onTick, hreach]
  rfl

/-- Nothing is due by a time: neither an end nor a tick. -/
theorem step?_eq_none (hrunning : s.timers.running = true) (h : s.step? time = none) :
    (∀ stop ∈ s.player.playback.memory.nextEnd?, time < stop) ∧
      ∀ tick, (s.timers.timer tick).UpTo (time + 1) := by
  rw [step?] at h
  split at h
  · rename_i hend htick
    refine ⟨fun stop hstop => ?_, Timers.next?_eq_none hrunning htick⟩
    rw [Option.filter_eq_none_iff] at hend
    simpa using hend stop hstop
  · cases h
  · cases h
  · split at h <;> cases h

/-- What is done next is due, and nothing else was before it. -/
theorem step?_cases (hrunning : s.timers.running = true) {r : Schedule × List Act}
    (h : s.step? time = some r) :
    ∃ due ≤ time, (∀ tick, (s.timers.timer tick).UpTo due) ∧
      ((s.player.playback.memory.nextEnd? = some due ∧ r = (s.reach due).settle) ∨
        ∃ tick, (∀ stop ∈ s.player.playback.memory.nextEnd?, due < stop) ∧
          0 < (s.timers.timer tick).period ∧ (s.timers.timer tick).due = due ∧
          r = (s.onTick due tick).settle) := by
  -- an end that is next is the first of all ends
  have hfirst {due : Nat} (hend : s.player.playback.memory.nextEnd?.filter (· ≤ time) = some due) :
      s.player.playback.memory.nextEnd? = some due ∧ due ≤ time := by
    simpa [Option.filter_eq_some_iff] using hend
  have honTick {due : Nat} {tick : Tick} {timers : Timers}
      (htick : s.timers.next? time = some (due, tick, timers)) :
      step?.onTick s due tick timers = (s.onTick due tick).settle := by
    rw [(Timers.next?_eq_some htick).2.2.2.1]
    cases tick <;> rfl
  rw [step?] at h
  split at h
  · cases h
  · rename_i due hend htick
    obtain ⟨hend, hle⟩ := hfirst hend
    cases h
    exact ⟨due, hle, fun tick => (Timers.next?_eq_none hrunning htick tick).le
      (Nat.le_succ_of_le hle), .inl ⟨hend, rfl⟩⟩
  · rename_i due tick timers hend htick
    obtain ⟨hle, hperiod, hdue, -, hothers⟩ := Timers.next?_eq_some htick
    cases h
    refine ⟨due, hle, hothers, .inr ⟨tick, fun stop hstop => ?_, hperiod, hdue, honTick htick⟩⟩
    rw [Option.filter_eq_none_iff] at hend
    have hlater := hend stop hstop
    exact Nat.lt_of_le_of_lt hle (by simpa using hlater)
  · rename_i stop due tick timers hend htick
    obtain ⟨hle, hperiod, hdue, -, hothers⟩ := Timers.next?_eq_some htick
    obtain ⟨hend, hstop⟩ := hfirst hend
    split at h
    · rename_i hfirst
      cases h
      exact ⟨stop, hstop, fun tick => (hothers tick).le hfirst, .inl ⟨hend, rfl⟩⟩
    · rename_i hlater
      cases h
      refine ⟨due, hle, hothers, .inr ⟨tick, fun stop' hstop' => ?_, hperiod, hdue,
        honTick htick⟩⟩
      rw [hend] at hstop'
      cases hstop'
      exact Nat.lt_of_not_le hlater

end Schedule

end Jukebox
