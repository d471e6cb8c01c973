import Jukebox.Proofs.Playback.Refusals
import Jukebox.Proofs.Playback.Widgets

/-!
# Standstills

Playback stands still when nothing plays although something waits. A tick ends every standstill,
and a second tick right after it finds nothing to do. The main result is `tick_ends_standstill`:
in every run a standstill comes about only when an item is put in the queue while nothing plays,
or when the mounted widget ends, and lasts only until playback next looks for an item.

What one operation does is `stalled_apply`; along a run it is followed from the last operation
backwards.
-/

namespace Jukebox

variable {σ : Type}

/-- Nothing plays although something waits. -/
def Playback.Stalled (p : Playback σ) : Prop :=
  p.playing = false ∧ p.queue.toList ≠ []

namespace Op

/-- The operation makes playback look for the next item: a tick, a skip, going on, or a failure of
the mounted widget, which reports it or cannot play. -/
def Seeks (P : Provider σ) (p : Playback σ) : Op σ → Prop
  | skip | tick | advance => True
  | receive callback => p.mounted.map Mounted.session = some callback.session ∧
    ((∃ reason, callback.report = .failed reason) ∨
      callback.report = .ready ∧ ∃ e, (P.play p.memory callback.session).result = .error e)
  | enqueue _ | stop | meanwhile _ => False

/-- The operation can leave playback at a standstill: an item is put in the queue while nothing
plays, or the mounted widget ends. -/
def Stalls (p : Playback σ) : Op σ → Prop
  | enqueue _ => p.playing = false
  | receive callback => p.mounted.map Mounted.session = some callback.session ∧
    callback.report = .changed .ended
  | skip | tick | advance | stop | meanwhile _ => False

end Op

/-! ## One operation -/

namespace Playback

variable {P : Provider σ} {p : Playback σ}

theorem not_stalled_advance (P : Provider σ) (p : Playback σ) :
    ¬ (p.advance P).playback.Stalled := by
  obtain ⟨refused, said, after, hrefuses, hqueue | ⟨identifier, others, name, hqueue, haccepted⟩⟩ :=
    exists_refuses P p.layout (p.teardown P).playback.memory p.nextSession p.queue.toList
  · rw [advance_of_none_accepted hqueue hrefuses]
    simp [Stalled]
  · rw [advance_of_accepted hqueue hrefuses haccepted]
    simp [Stalled]

/-- A tick looks for the next item at a standstill, and else does nothing. -/
theorem tick_of_stalled (h : p.Stalled) : p.tick P = p.advance P := by
  have hnext : p.queue.hasNext = true :=
    eq_true_of_ne_false (mt Queue.hasNext_eq_false_iff.1 h.2)
  rw [tick, hnext, h.1]
  rfl

theorem tick_of_not_stalled (h : ¬ p.Stalled) : p.tick P = p.unchanged := by
  rw [tick, if_neg]
  rw [Bool.and_eq_true, Bool.not_eq_true']
  exact fun hcond => h ⟨hcond.2, mt Queue.hasNext_eq_false_iff.2 (by simp [hcond.1])⟩

theorem not_stalled_tick (P : Provider σ) (p : Playback σ) : ¬ (p.tick P).playback.Stalled := by
  by_cases h : p.Stalled
  · rw [tick_of_stalled h]
    exact not_stalled_advance P p
  · rw [tick_of_not_stalled h]
    exact h

theorem not_stalled_failMounted (P : Provider σ) (p : Playback σ) (widget : Mounted)
    (reason : String) : ¬ (p.failMounted P widget reason).playback.Stalled := by
  rw [failMounted_eq]
  exact not_stalled_advance P p

/-- A report that leaves playback at a standstill is that of its end, or playback stood still before
and does not look for the next item. -/
theorem stalled_receive {callback : Callback} (h : (p.receive P callback).playback.Stalled) :
    (Op.receive callback : Op σ).Stalls p ∨
      p.Stalled ∧ ¬ (Op.receive callback : Op σ).Seeks P p := by
  by_cases hown : p.mounted.map Mounted.session = some callback.session
  · obtain ⟨widget, hmounted, hsession⟩ := Option.map_eq_some_iff.1 hown
    obtain ⟨session, report⟩ := callback
    simp only at hsession
    subst hsession
    cases report with
    | failed reason =>
      rw [receive_failed hmounted] at h
      exact absurd h (not_stalled_failMounted P p widget reason)
    | changed state =>
      by_cases hended : state = .ended
      · exact .inl ⟨hown, congrArg Report.changed hended⟩
      · rw [receive_changed hmounted hended] at h
        exact .inr ⟨h, by simp [Op.Seeks]⟩
    | ready =>
      rw [receive_ready hmounted] at h
      cases hresult : (P.play p.memory widget.session).result with
      | ok =>
        rw [playMounted_of_ok hresult] at h
        exact .inr ⟨h, by simp [Op.Seeks, hresult]⟩
      | error e =>
        rw [playMounted_of_error hresult] at h
        exact absurd h (not_stalled_failMounted P _ widget e.message)
  · rw [receive_of_ne P hown] at h
    exact .inr ⟨h, fun hseeks => hown hseeks.1⟩

end Playback

namespace Op

variable {P : Provider σ} {p : Playback σ}

theorem stalled_apply {op : Op σ} (hstop : op ≠ .stop) (h : (op.apply P p).playback.Stalled) :
    op.Stalls p ∨ p.Stalled ∧ ¬ op.Seeks P p := by
  cases op with
  | enqueue identifier => exact .inl h.1
  | skip =>
    rw [apply, Playback.skip_eq] at h
    exact absurd h (Playback.not_stalled_advance P p)
  | tick => exact absurd h (Playback.not_stalled_tick P p)
  | advance => exact absurd h (Playback.not_stalled_advance P p)
  | receive callback => exact Playback.stalled_receive h
  | stop => exact absurd rfl hstop
  | meanwhile memory => exact .inr ⟨h, id⟩

/-! ## A whole run -/

/-- Of what was done after the run `before`, nothing made playback look for the next item. -/
def Unsought (P : Provider σ) (before since : List (Op σ)) (p : Playback σ) : Prop :=
  Throughout (fun earlier op => ¬ op.Seeks P (run P (before ++ earlier) p).playback) since

/-- A standstill where a run ends has come about in the run, and playback has not looked for the
next item since. -/
theorem exists_stalls_of_stalled {ops : List (Op σ)} (hstop : ∀ op ∈ ops, op ≠ .stop)
    (hp : ¬ p.Stalled) (h : (run P ops p).playback.Stalled) :
    ∃ before op since, ops = before ++ op :: since ∧ op.Stalls (run P before p).playback ∧
      Unsought P (before ++ [op]) since p := by
  -- the induction takes off the last operation: it has led to the standstill or found one
  induction ops using List.reverseRecOn with
  | nil => exact absurd h hp
  | append_singleton ops last ih =>
    rw [run_append, Outcome.playback_andThen, run_singleton] at h
    obtain ⟨hothers, hlast⟩ := List.forall_mem_append.1 hstop
    rcases stalled_apply (hlast last List.mem_cons_self) h with hstalls | ⟨hbefore, hseeks⟩
    · exact ⟨ops, last, [], rfl, hstalls, .nil⟩
    · obtain ⟨before, op, since, rfl, hstalls, hunsought⟩ := ih hothers hbefore
      refine ⟨before, op, since ++ [last], by simp, hstalls, hunsought.concat ?_⟩
      rwa [List.append_assoc, List.singleton_append]

end Op

/-! ## The main result -/

/-- Wherever a run leads, whatever the provider answers: after a tick a widget is mounted and
plays, or nothing waits. A second tick, whatever became of the provider meanwhile, does nothing.
If nothing plays although something waits, and playback was not stopped, then an item was put in
the queue while nothing played or the mounted widget has ended, and playback has not looked for
the next item since: there was no tick, no skip, no going on and no failure of the mounted widget.
The next tick ends that. -/
theorem tick_ends_standstill (P : Provider σ) (layout : Layout) (memory : σ) (ops : List (Op σ)) :
    let start : Playback σ := { layout, memory }
    let p := (Op.run P ops start).playback
    let q := (p.tick P).playback
    (q.playing = true ∧ q.mounted.isSome = true ∨ q.queue.toList = []) ∧
      (∀ memory, let q' := { q with memory }
        q'.tick P = q'.unchanged) ∧
      ((∀ op ∈ ops, op ≠ .stop) → p.playing = false → p.queue.toList ≠ [] →
        p.tick P = p.advance P ∧
          ∃ before op since, ops = before ++ op :: since ∧
            op.Stalls (Op.run P before start).playback ∧
            ∀ earlier other later, since = earlier ++ other :: later →
              ¬ other.Seeks P (Op.run P (before ++ op :: earlier) start).playback) := by
  intro start p q
  have hsettled : Settled ([] ++ (Op.run P (ops ++ [.tick]) start).acts)
      (Op.run P (ops ++ [.tick]) start).playback :=
    Op.run_leads (apply_leads P) (ops ++ [.tick]) [] start ⟨.nil, rfl⟩
  have hflag : q.playing = q.mounted.isSome := by
    rw [Op.run_append, Outcome.playback_andThen, Op.run_singleton] at hsettled
    exact hsettled.2
  have hmoves : ¬ q.Stalled := p.not_stalled_tick P
  refine ⟨?_, fun memory => Playback.tick_of_not_stalled (p := { q with memory }) hmoves, ?_⟩
  · cases hplaying : q.playing with
    | true => exact .inl ⟨rfl, hflag ▸ hplaying⟩
    | false => exact .inr (not_not.1 fun hqueue => hmoves ⟨hplaying, hqueue⟩)
  · intro hstop hidle hqueue
    refine ⟨Playback.tick_of_stalled ⟨hidle, hqueue⟩, ?_⟩
    obtain ⟨before, op, since, hsplit, hstalls, hunsought⟩ := Op.exists_stalls_of_stalled hstop
      (p := start) (by simp [start, Playback.Stalled, Queue.empty]) ⟨hidle, hqueue⟩
    refine ⟨before, op, since, hsplit, hstalls, fun earlier other later hsince => ?_⟩
    have hseeks : ¬ other.Seeks P (Op.run P (before ++ [op] ++ earlier) start).playback :=
      hunsought earlier other later hsince
    rwa [List.append_assoc, List.singleton_append] at hseeks

/-- The first item has ended, and the second one waits for a tick. -/
theorem second_waits_for_tick :
    let start : Playback DryRun.Memory := { memory := { duration := 5 } }
    let ops : List (Op DryRun.Memory) :=
      [.enqueue "a", .tick, .enqueue "b", .receive ⟨1, .changed .ended⟩]
    let p := (Op.run DryRun.provider ops start).playback
    (∀ op ∈ ops, op ≠ .stop) ∧ p.playing = false ∧ p.queue.toList ≠ [] ∧
      p.tick DryRun.provider = p.advance DryRun.provider ∧
      (p.tick DryRun.provider).playback.mounted = some ⟨2, "b"⟩ := by
  intro start ops p
  have hstop : ∀ op ∈ ops, op ≠ .stop := by simp [ops]
  have hresult := (tick_ends_standstill DryRun.provider {} { duration := 5 } ops).2.2 hstop
    (by decide) (by decide)
  exact ⟨hstop, by decide, by decide, hresult.1, by decide⟩

end Jukebox
