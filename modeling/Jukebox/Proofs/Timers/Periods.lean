import Jukebox.Proofs.Schedule.Moments
import Jukebox.Timers.Task

/-!
# Ticks by the clock

How often a timer has ticked can be read off the clock: as often as its period fits in the time that
has passed. The main result is `ticks_once_per_period`: this is so for both timers at once, however
the time is split, and what is seen of a stretch of time is the difference between its ends; from
the moment at which the timers are stopped or nobody takes their ticks any more there are none.

`Step.byClock` is the timers as the clock has them, with nothing in them but the time that has
passed. The tasks behind the timers do what it says (`TimerTasks.follows`), and so do both timers
seen as one (`Timers.follows`), where the work is to see that there are turns enough for all ticks
that are due. Runs are compared once, for whatever follows the clock (`Follows.run`).
-/

namespace Jukebox

/-! ## One timer -/

/-- The ticks that a longer time brings are no more than the milliseconds that it is longer. -/
theorem div_add_le {period : Nat} (hperiod : 0 < period) (time ms : Nat) :
    (time + ms) / period ≤ time / period + ms := by
  calc (time + ms) / period
      ≤ (time + ms * period) / period :=
        Nat.div_le_div_right (Nat.add_le_add_left (Nat.le_mul_of_pos_right ms hperiod) time)
    _ = time / period + ms := Nat.add_mul_div_right time ms hperiod

namespace Timer

/-- The timer of a period after so many ticks. -/
def after (period ticks : Nat) : Timer := ⟨period, (ticks + 1) * period⟩

theorem set_zero (period : Nat) : set period 0 = after period 0 := by
  simp [set, after]

theorem tick_after (period ticks : Nat) : (after period ticks).tick = after period (ticks + 1) := by
  simp [tick, after, Nat.add_mul]

/-- A tick is due as long as there were fewer than the period fits in the time. -/
theorem isDue_after {period : Nat} (hperiod : 0 < period) (ticks time : Nat) :
    (after period ticks).isDue time = true ↔ ticks < time / period := by
  rw [isDue_eq_true_iff]
  exact (and_iff_right hperiod).trans (Nat.le_div_iff_mul_le hperiod).symm

end Timer

/-! ## One task -/

namespace TimerTask

variable {t : TimerTask} {period ticks time : Nat}

/-- Until a time the task delivers what is due by then. -/
theorem reach_after (hperiod : 0 < period) (hticks : ticks ≤ time / period) (delivered : Nat) :
    reach true time ⟨.after period ticks, false⟩ delivered =
      (⟨.after period (time / period), false⟩, delivered + (time / period - ticks)) := by
  induction hleft : time / period - ticks generalizing ticks delivered with
  | zero =>
    have hall : ticks = time / period := Nat.le_antisymm hticks (Nat.le_of_sub_eq_zero hleft)
    have hdue : ¬ (Timer.after period (time / period)).isDue time = true := by
      rw [Timer.isDue_after hperiod]
      exact Nat.lt_irrefl _
    rw [hall, reach]
    simp [hdue]
  | succ left ih =>
    have hlt : ticks < time / period := by omega
    have hdue := (Timer.isDue_after hperiod ticks time).2 hlt
    rw [reach]
    simp only [hdue, Bool.false_eq_true, if_false, if_true, Timer.tick_after]
    rw [ih hlt (delivered + 1) (by omega)]
    simp only [Prod.mk.injEq, true_and]
    omega

theorem reach_of_ended (h : t.ended = true) (taken : Bool) (time delivered : Nat) :
    reach taken time t delivered = (t, delivered) := by
  rw [reach, if_pos h]

/-- A tick that nobody takes is not delivered. -/
theorem reach_untaken (t : TimerTask) (time delivered : Nat) :
    (reach false time t delivered).2 = delivered := by
  rw [reach]
  split
  · rfl
  · split <;> rfl

end TimerTask

/-! ## The clock -/

/-- The period of the timer of a tick. -/
def PollSettings.period (poll : PollSettings) : Tick → Nat
  | .health => poll.healthMs.toNat
  | .playback => poll.playbackMs.toNat

namespace Timers

/-- What can happen to timers. -/
inductive Step
  /-- Time passes. -/
  | elapse (ms : Nat)
  /-- The timers are stopped. -/
  | stop
  /-- Nobody takes their ticks any more. -/
  | abandon
  deriving Repr, DecidableEq

/-- The ticks due from one time, which is excluded, to another. -/
def dueBetween (poll : PollSettings) (since time : Nat) : Counts where
  health := time / poll.healthMs.toNat - since / poll.healthMs.toNat
  playback := time / poll.playbackMs.toNat - since / poll.playbackMs.toNat

/-- All ticks that were counted. -/
def total : List Counts → Counts
  | [] => {}
  | counts :: seen =>
    ⟨counts.health + (total seen).health, counts.playback + (total seen).playback⟩

theorem dueBetween_self (poll : PollSettings) (time : Nat) : dueBetween poll time time = {} := by
  simp [dueBetween]

/-- What is due in two stretches of time is due in both together. -/
theorem dueBetween_add (poll : PollSettings) (time ms more : Nat) :
    dueBetween poll time (time + ms + more) =
      ⟨(dueBetween poll time (time + ms)).health +
          (dueBetween poll (time + ms) (time + ms + more)).health,
        (dueBetween poll time (time + ms)).playback +
          (dueBetween poll (time + ms) (time + ms + more)).playback⟩ := by
  have hsum (period : Nat) : (time + ms) / period - time / period +
      ((time + ms + more) / period - (time + ms) / period) =
        (time + ms + more) / period - time / period := by
    rw [Nat.add_comm]
    exact Nat.sub_add_sub_cancel (Nat.div_le_div_right (Nat.le_add_right _ _))
      (Nat.div_le_div_right (Nat.le_add_right _ _))
  simp only [dueBetween, hsum]

namespace Step

/-- There are no ticks after the step. -/
def ends : Step → Bool
  | elapse _ => false
  | stop | abandon => true

/-- How long there were ticks: the time that passes before the first step that ends them. -/
def lasting : List Step → Nat
  | [] => 0
  | elapse ms :: steps => ms + lasting steps
  | stop :: _ | abandon :: _ => 0

/-- What steps do one after the other, and the ticks counted in each. -/
def run {α : Type} (apply : Step → α → α × Counts) : List Step → α → α × List Counts
  | [], t => (t, [])
  | step :: steps, t =>
    let (t, counts) := apply step t
    let (t, seen) := run apply steps t
    (t, counts :: seen)

theorem total_run_cons {α : Type} (apply : Step → α → α × Counts) (step : Step) (steps : List Step)
    (t : α) :
    total (run apply (step :: steps) t).2 =
      ⟨(apply step t).2.health + (total (run apply steps (apply step t).1).2).health,
        (apply step t).2.playback + (total (run apply steps (apply step t).1).2).playback⟩ :=
  rfl

/-- What a step does by the clock, which shows the time that has passed while there are ticks. -/
def byClock (poll : PollSettings) : Step → Option Nat → Option Nat × Counts
  | elapse ms, some time => (some (time + ms), dueBetween poll time (time + ms))
  | elapse _, none | stop, _ | abandon, _ => (none, {})

variable {poll : PollSettings}

theorem total_run_none (steps : List Step) :
    (run (byClock poll) steps none).1 = none ∧ total (run (byClock poll) steps none).2 = {} := by
  induction steps with
  | nil => exact ⟨rfl, rfl⟩
  | cons step steps ih =>
    have hstep : byClock poll step none = (none, {}) := by cases step <;> rfl
    rw [total_run_cons, hstep, ih.2]
    exact ⟨by simp only [run, hstep, ih.1], rfl⟩

/-- The clock goes on until the ticks end. -/
theorem clock_run (steps : List Step) (time : Nat) :
    (run (byClock poll) steps (some time)).1 =
      if steps.any ends then none else some (time + lasting steps) := by
  induction steps generalizing time with
  | nil => rfl
  | cons step steps ih =>
    cases step with
    | elapse ms => simp [run, byClock, ends, lasting, ih, Nat.add_assoc]
    | stop | abandon => simp [run, byClock, ends, (total_run_none steps).1]

/-- The ticks of all steps are those that are due while there are ticks. -/
theorem total_run (steps : List Step) (time : Nat) :
    total (run (byClock poll) steps (some time)).2 =
      dueBetween poll time (time + lasting steps) := by
  induction steps generalizing time with
  | nil => simp [run, total, lasting, dueBetween]
  | cons step steps ih =>
    cases step with
    | elapse ms => rw [total_run_cons, byClock, ih, lasting, ← Nat.add_assoc, dueBetween_add]
    | stop | abandon =>
      rw [total_run_cons, byClock, (total_run_none steps).2]
      exact (dueBetween_self poll time).symm

end Step

/-! ## Timers that follow the clock -/

/-- Timers do what the clock says: `stands` is what can be said of them where the clock stands. -/
def Follows {α : Type} (poll : PollSettings) (apply : Step → α → α × Counts)
    (stands : Option Nat → α → Prop) : Prop :=
  ∀ step clock t, stands clock t →
    (apply step t).2 = (step.byClock poll clock).2 ∧
      stands (step.byClock poll clock).1 (apply step t).1

/-- What follows the clock in each step follows it all the way. -/
theorem Follows.run {α : Type} {poll : PollSettings} {apply : Step → α → α × Counts}
    {stands : Option Nat → α → Prop} (h : Follows poll apply stands) (steps : List Step)
    (clock : Option Nat) {t : α} (ht : stands clock t) :
    (Step.run apply steps t).2 = (Step.run (Step.byClock poll) steps clock).2 ∧
      stands (Step.run (Step.byClock poll) steps clock).1 (Step.run apply steps t).1 := by
  induction steps generalizing clock t with
  | nil => exact ⟨rfl, ht⟩
  | cons step steps ih =>
    obtain ⟨hcounts, hstands⟩ := h step clock t ht
    obtain ⟨hseen, hend⟩ := ih _ hstands
    exact ⟨by simp only [Step.run, hcounts, hseen], hend⟩

end Timers

/-! ## The tasks -/

namespace TimerTasks

open Timers (Step Counts Follows dueBetween)

variable {poll : PollSettings}

/-- What a step does to the tasks. -/
def apply : Step → TimerTasks → TimerTasks × Counts
  | .elapse ms, t => t.elapse ms
  | .stop, t => (t.stop, {})
  | .abandon, t => (t.abandon, {})

/-- The tasks at a time, with all ticks delivered that were due by then. -/
def ticking (poll : PollSettings) (time : Nat) : TimerTasks where
  now := time
  health := ⟨.after poll.healthMs.toNat (time / poll.healthMs.toNat), false⟩
  playback := ⟨.after poll.playbackMs.toNat (time / poll.playbackMs.toNat), false⟩

/-- Nothing can be delivered: nobody takes it, or both tasks have ended. -/
def Silent (t : TimerTasks) : Prop :=
  t.taken = false ∨ t.health.ended = true ∧ t.playback.ended = true

/-- Where the tasks stand by the clock. -/
def Stands (poll : PollSettings) : Option Nat → TimerTasks → Prop
  | some time, t => t = ticking poll time
  | none, t => t.Silent

theorem start_eq (poll : PollSettings) : start poll = ticking poll 0 := by
  simp [start, ticking, Timer.set_zero]

theorem elapse_ticking (hhealth : 0 < poll.healthMs.toNat) (hplayback : 0 < poll.playbackMs.toNat)
    (time ms : Nat) : (ticking poll time).elapse ms =
      (ticking poll (time + ms), dueBetween poll time (time + ms)) := by
  have hlater (period : Nat) : time / period ≤ (time + ms) / period :=
    Nat.div_le_div_right (Nat.le_add_right time ms)
  simp [elapse, ticking, TimerTask.reach_after hhealth (hlater _),
    TimerTask.reach_after hplayback (hlater _), dueBetween]

theorem Silent.elapse {t : TimerTasks} (h : t.Silent) (ms : Nat) :
    (t.elapse ms).2 = {} ∧ (t.elapse ms).1.Silent := by
  rcases h with huntaken | ⟨hhealth, hplayback⟩
  · refine ⟨?_, .inl huntaken⟩
    simp [TimerTasks.elapse, huntaken, TimerTask.reach_untaken]
  · rw [TimerTasks.elapse, TimerTask.reach_of_ended hhealth, TimerTask.reach_of_ended hplayback]
    exact ⟨rfl, .inr ⟨hhealth, hplayback⟩⟩

theorem follows (hhealth : 0 < poll.healthMs.toNat) (hplayback : 0 < poll.playbackMs.toNat) :
    Follows poll apply (Stands poll) := by
  intro step clock t ht
  cases step with
  | elapse ms =>
    cases clock with
    | some time =>
      cases ht
      exact ⟨congrArg Prod.snd (elapse_ticking hhealth hplayback time ms),
        congrArg Prod.fst (elapse_ticking hhealth hplayback time ms)⟩
    | none => exact Silent.elapse ht ms
  | stop => exact ⟨rfl, .inr ⟨rfl, rfl⟩⟩
  | abandon => exact ⟨rfl, .inl rfl⟩

end TimerTasks

/-! ## Both timers as one -/

namespace Timers

variable {poll : PollSettings}

/-- What a step does to the timers. -/
def apply : Step → Timers → Timers × Counts
  | .elapse ms, t => t.elapse ms
  | .stop, t | .abandon, t => (t.stop, {})

/-- The timers at a time, after so many ticks. -/
def after (poll : PollSettings) (now : Nat) (ticks : Counts) : Timers where
  now
  health := .after poll.healthMs.toNat ticks.health
  playback := .after poll.playbackMs.toNat ticks.playback

/-- All ticks that are due by a time. -/
def allDue (poll : PollSettings) (time : Nat) : Counts where
  health := time / poll.healthMs.toNat
  playback := time / poll.playbackMs.toNat

/-- Where the timers stand by the clock. -/
def Stands (poll : PollSettings) : Option Nat → Timers → Prop
  | some time, t => t = after poll time (allDue poll time)
  | none, t => t.running = false

theorem start_eq (poll : PollSettings) : start poll = after poll 0 (allDue poll 0) := by
  simp [start, after, allDue, Timer.set_zero]

/-- How often a timer ticked. -/
def Counts.of (counts : Counts) : Tick → Nat
  | .health => counts.health
  | .playback => counts.playback

theorem Counts.eq_of_of {counts other : Counts} (h : ∀ tick, counts.of tick = other.of tick) :
    counts = other := by
  rw [Counts.mk.injEq counts.health counts.playback other.health other.playback]
  exact ⟨h .health, h .playback⟩

theorem Counts.of_add (counts : Counts) (tick other : Tick) :
    (counts.add tick).of other = counts.of other + if other = tick then 1 else 0 := by
  cases tick <;> cases other <;> rfl

theorem Counts.sum_add (counts : Counts) (tick : Tick) :
    (counts.add tick).health + (counts.add tick).playback =
      counts.health + counts.playback + 1 := by
  cases tick with
  | health => exact Nat.add_right_comm _ _ _
  | playback => rfl

theorem timer_after (poll : PollSettings) (now : Nat) (ticks : Counts) (tick : Tick) :
    (after poll now ticks).timer tick = .after (poll.period tick) (ticks.of tick) := by
  cases tick <;> rfl

theorem ticked_after (poll : PollSettings) (now due : Nat) (ticks : Counts) (tick : Tick) :
    (after poll now ticks).ticked due tick = after poll due (ticks.add tick) := by
  cases tick <;> simp [ticked, after, Counts.add, Timer.tick_after]

theorem of_allDue (poll : PollSettings) (time : Nat) (tick : Tick) :
    (allDue poll time).of tick = time / poll.period tick := by
  cases tick <;> rfl

theorem of_dueBetween (poll : PollSettings) (since time : Nat) (tick : Tick) :
    (dueBetween poll since time).of tick =
      (allDue poll time).of tick - (allDue poll since).of tick := by
  cases tick <;> rfl

/-- A tick that is next is one of those that are due by the clock. -/
theorem of_lt_of_next? (hpos : ∀ tick, 0 < poll.period tick) {now time due : Nat} {ticks : Counts}
    {tick : Tick} {t : Timers} (h : (after poll now ticks).next? time = some (due, tick, t)) :
    ticks.of tick < (allDue poll time).of tick := by
  obtain ⟨hle, hperiod, hdue, -⟩ := next?_eq_some h
  rw [of_allDue, ← Timer.isDue_after (hpos tick), Timer.isDue_eq_true_iff, ← timer_after poll now]
  exact ⟨hperiod, hdue ▸ hle⟩

/-- If no tick is next, all that are due by the clock have been counted. -/
theorem of_eq_of_next?_eq_none (hpos : ∀ tick, 0 < poll.period tick) {now time : Nat}
    {ticks : Counts} (hle : ∀ tick, ticks.of tick ≤ (allDue poll time).of tick)
    (h : (after poll now ticks).next? time = none) : ticks = allDue poll time := by
  refine Counts.eq_of_of fun tick => Nat.le_antisymm (hle tick) (Nat.le_of_not_lt fun hlt => ?_)
  have hlater := next?_eq_none rfl h tick
  rw [of_allDue, ← Timer.isDue_after (hpos tick), Timer.isDue_eq_true_iff,
    ← timer_after poll now] at hlt
  exact Nat.not_le_of_lt (hlater hlt.1) hlt.2

theorem elapse_of_stopped {t : Timers} (h : t.running = false) (ms : Nat) :
    (t.elapse ms).2 = {} ∧ (t.elapse ms).1.running = false := by
  have hcount (fuel : Nat) : countUntil (t.now + ms) fuel t {} = (t, {}) := by
    cases fuel <;> simp [countUntil, next?, h]
  rw [elapse]
  simp [hcount, h]

/-- If there are turns for all ticks that are due by a time, all of them are counted. -/
theorem countUntil_after (hpos : ∀ tick, 0 < poll.period tick) {time fuel : Nat} {ticks : Counts}
    (hle : ∀ tick, ticks.of tick ≤ (allDue poll time).of tick)
    (hfuel : (allDue poll time).health + (allDue poll time).playback ≤
      ticks.health + ticks.playback + fuel) (now : Nat) (counts : Counts) :
    ∃ last counted, countUntil time fuel (after poll now ticks) counts =
        (after poll last (allDue poll time), counted) ∧
      ∀ tick, counted.of tick + ticks.of tick = counts.of tick + (allDue poll time).of tick := by
  induction fuel generalizing ticks now counts with
  | zero =>
    have hall : ticks = allDue poll time := by
      have hhealth : ticks.health ≤ (allDue poll time).health := hle .health
      have hplayback : ticks.playback ≤ (allDue poll time).playback := hle .playback
      have hhealth' : (allDue poll time).health ≤ ticks.health := by omega
      have hplayback' : (allDue poll time).playback ≤ ticks.playback := by omega
      exact Counts.eq_of_of (Tick.rec (Nat.le_antisymm hhealth hhealth')
        (Nat.le_antisymm hplayback hplayback'))
    exact ⟨now, counts, by rw [countUntil, hall], fun tick => by rw [hall]⟩
  | succ fuel ih =>
    rw [countUntil]
    cases hnext : (after poll now ticks).next? time with
    | none =>
      have hall := of_eq_of_next?_eq_none hpos hle hnext
      exact ⟨now, counts, by rw [hall], fun tick => by rw [hall]⟩
    | some next =>
      obtain ⟨due, tick, t⟩ := next
      obtain ⟨-, -, -, rfl, -⟩ := next?_eq_some hnext
      have hlt := of_lt_of_next? hpos hnext
      have hle' (other : Tick) : (ticks.add tick).of other ≤ (allDue poll time).of other := by
        have hother := hle other
        rw [Counts.of_add]
        split
        · rename_i heq
          rw [heq]
          exact hlt
        · exact hother
      obtain ⟨last, counted, hrest, hcounted⟩ :=
        ih hle' (by rw [Counts.sum_add]; omega) due (counts.add tick)
      refine ⟨last, counted, by simp only [ticked_after, hrest], fun other => ?_⟩
      have hother := hcounted other
      rw [Counts.of_add, Counts.of_add] at hother
      omega

theorem elapse_after (hpos : ∀ tick, 0 < poll.period tick) (time ms : Nat) :
    (after poll time (allDue poll time)).elapse ms =
      (after poll (time + ms) (allDue poll (time + ms)), dueBetween poll time (time + ms)) := by
  have hlater (tick : Tick) : (allDue poll time).of tick ≤ (allDue poll (time + ms)).of tick := by
    rw [of_allDue, of_allDue]
    exact Nat.div_le_div_right (Nat.le_add_right time ms)
  have hhealth : (allDue poll (time + ms)).health ≤ (allDue poll time).health + ms :=
    div_add_le (hpos .health) time ms
  have hplayback : (allDue poll (time + ms)).playback ≤ (allDue poll time).playback + ms :=
    div_add_le (hpos .playback) time ms
  have hfuel : (allDue poll (time + ms)).health + (allDue poll (time + ms)).playback ≤
      (allDue poll time).health + (allDue poll time).playback + 2 * ms := by omega
  obtain ⟨last, counted, hcount, hcounted⟩ := countUntil_after hpos hlater hfuel time {}
  have hdue : counted = dueBetween poll time (time + ms) := by
    refine Counts.eq_of_of fun tick => ?_
    have htick := hcounted tick
    have hzero : ({} : Counts).of tick = 0 := by cases tick <;> rfl
    rw [of_dueBetween]
    omega
  have hnow : (after poll time (allDue poll time)).now = time := rfl
  rw [elapse]
  simp only [hnow, hcount, hdue]
  rfl

theorem follows (hpos : ∀ tick, 0 < poll.period tick) : Follows poll apply (Stands poll) := by
  intro step clock t ht
  cases step with
  | elapse ms =>
    cases clock with
    | some time =>
      cases ht
      exact ⟨congrArg Prod.snd (elapse_after hpos time ms),
        congrArg Prod.fst (elapse_after hpos time ms)⟩
    | none => exact elapse_of_stopped ht ms
  | stop | abandon => exact ⟨rfl, rfl⟩

/-! ## The main result -/

/-- For every positive period of the two timers and whatever happens to them: all ticks delivered
together are as many as the periods fit in the time for which there were ticks. That is all the time
that has passed, and none of what passes after the timers were stopped or nobody takes their ticks
any more. However much time passes next, the ticks delivered meanwhile are the difference between
its ends, and none once there are no more ticks. Both timers seen as one tick alike in each step. -/
theorem ticks_once_per_period (poll : PollSettings) (hhealth : 0 < poll.healthMs)
    (hplayback : 0 < poll.playbackMs) (steps : List Step) :
    let r := Step.run TimerTasks.apply steps (TimerTasks.start poll)
    let time := Step.lasting steps
    total r.2 = ⟨time / poll.healthMs.toNat, time / poll.playbackMs.toNat⟩ ∧
      (∀ ms, (r.1.elapse ms).2 =
        if steps.any Step.ends then {}
        else ⟨(time + ms) / poll.healthMs.toNat - time / poll.healthMs.toNat,
          (time + ms) / poll.playbackMs.toNat - time / poll.playbackMs.toNat⟩) ∧
      (Step.run Timers.apply steps (Timers.start poll)).2 = r.2 := by
  have hpos : ∀ tick, 0 < poll.period tick :=
    Tick.rec (UInt64.lt_iff_toNat_lt.1 hhealth) (UInt64.lt_iff_toNat_lt.1 hplayback)
  have htasks := TimerTasks.follows (hpos .health) (hpos .playback)
  obtain ⟨hseen, hstands⟩ := htasks.run steps (some 0) (TimerTasks.start_eq poll)
  obtain ⟨hsame, -⟩ := (follows hpos).run steps (some 0) (start_eq poll)
  refine ⟨?_, fun ms => ?_, hsame.trans hseen.symm⟩
  · rw [hseen, Step.total_run, Nat.zero_add]
    simp [dueBetween]
  · have hnext := (htasks (.elapse ms) _ _ hstands).1
    rw [Step.clock_run, Nat.zero_add] at hnext
    rw [TimerTasks.apply] at hnext
    rw [hnext]
    split <;> rfl

/-- In twenty-one milliseconds there are three ticks every seven and seven every three, the last of
both at the end of them; when nobody takes them any more there are none. -/
theorem ticks_until_abandoned :
    let poll : PollSettings := { healthMs := 7, playbackMs := 3 }
    let steps : List Step := [.elapse 0, .elapse 6, .elapse 1, .elapse 14, .abandon, .elapse 100]
    let r := Step.run TimerTasks.apply steps (TimerTasks.start poll)
    0 < poll.healthMs ∧ 0 < poll.playbackMs ∧ total r.2 = ⟨3, 7⟩ ∧ (r.1.elapse 100).2 = {} := by
  intro poll steps r
  have hhealth : 0 < poll.healthMs := by decide
  have hplayback : 0 < poll.playbackMs := by decide
  obtain ⟨htotal, hnext, -⟩ := ticks_once_per_period poll hhealth hplayback steps
  exact ⟨hhealth, hplayback, htotal.trans (by decide), (hnext 100).trans (by decide)⟩

end Timers

end Jukebox
