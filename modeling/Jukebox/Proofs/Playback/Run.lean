import Jukebox.Proofs.Playback.Invariant

/-!
# Runs of playback

A run is any list of operations in any order. Between them the provider may go on by itself: time
passes, and its memory changes.
-/

namespace Jukebox

variable {σ : Type}

/-- An operation on playback, or what goes on between operations. -/
inductive Op (σ : Type)
  | enqueue (identifier : String)
  | skip
  | tick
  | advance
  | receive (callback : Callback)
  | stop
  /-- The provider goes on by itself. -/
  | meanwhile (memory : σ)

namespace Op

/-- Does the operation. -/
def apply (P : Provider σ) : Op σ → Playback σ → Outcome σ
  | enqueue identifier => Playback.enqueue identifier
  | skip => Playback.skip P
  | tick => Playback.tick P
  | advance => Playback.advance P
  | receive callback => Playback.receive P callback
  | stop => Playback.stop P
  | meanwhile memory => fun p => { playback := { p with memory } }

/-- Does the operations one after the other. -/
def run (P : Provider σ) : List (Op σ) → Playback σ → Outcome σ
  | [] => Playback.unchanged
  | op :: ops => fun p => (op.apply P p).andThen (run P ops)

@[simp] theorem andThen_unchanged (o : Outcome σ) : o.andThen Playback.unchanged = o := by
  simp [Outcome.andThen, Playback.unchanged]

@[simp] theorem run_singleton (P : Provider σ) (op : Op σ) (p : Playback σ) :
    run P [op] p = op.apply P p :=
  andThen_unchanged _

theorem run_append (P : Provider σ) (ops more : List (Op σ)) (p : Playback σ) :
    run P (ops ++ more) p = (run P ops p).andThen (run P more) := by
  induction ops generalizing p with
  | nil => simp [run, Playback.unchanged, Outcome.andThen]
  | cons op ops ih => simp [run, ih, Outcome.andThen, List.append_assoc, Bool.and_assoc]

/-- What every operation preserves is preserved by a run. -/
theorem run_leads {P : Provider σ} {steady : Fact σ}
    (h : ∀ op : Op σ, Leads steady (op.apply P) steady) (ops : List (Op σ)) :
    Leads steady (run P ops) steady := by
  induction ops with
  | nil => exact Leads.unchanged
  | cons op ops ih => exact Leads.andThen (h op) ih

/-! ## Assertions

The assertions hold wherever an operation starts from: before a widget is mounted the one before is
dropped, and where an operation asserts what the playing flag says, it has just set it.
-/

open Playback

theorem sound_settle (P : Provider σ) (waiting : List String) (p : Playback σ) :
    (p.settle P waiting).sound = true := by
  induction waiting generalizing p with
  | nil =>
    obtain ⟨memory, sent, hidle⟩ := goIdle_eq P p
    rw [Playback.settle, hidle]
  | cons identifier others ih =>
    rw [Playback.settle]
    rcases attempt_cases P identifier others p with
      ⟨memory, sent, name, -, heq⟩ | ⟨memory, sent, reason, heq⟩
    · rw [heq]
      rfl
    · rw [heq]
      exact ih _

theorem sound_advance (P : Provider σ) (p : Playback σ) : (p.advance P).sound = true :=
  sound_settle P _ p

theorem sound_failMounted (P : Provider σ) (widget : Mounted) (reason : String) (p : Playback σ) :
    (p.failMounted P widget reason).sound = true :=
  sound_advance P p

theorem sound_receive (P : Provider σ) (callback : Callback) (p : Playback σ) :
    (p.receive P callback).sound = true := by
  rw [Playback.receive]
  split
  · rfl
  · rename_i widget _
    split
    · split
      · simp only [playMounted]
        split
        · rfl
        · exact sound_failMounted P widget _ _
      · obtain ⟨memory, sent, hended⟩ := endMounted_eq P widget p
        rw [hended]
      · rfl
      · exact sound_failMounted P widget _ p
    · rfl

theorem sound_stop (P : Provider σ) (p : Playback σ) : (p.stop P).sound = true := by
  obtain ⟨memory, sent, hdown⟩ := teardown_eq P p
  rw [Playback.stop, hdown]
  rfl

theorem sound_apply (P : Provider σ) (op : Op σ) (p : Playback σ) :
    (op.apply P p).sound = true := by
  cases op with
  | enqueue | meanwhile => rfl
  | skip | advance => exact sound_advance P _
  | tick =>
    rw [apply, Playback.tick]
    split
    · exact sound_advance P p
    · rfl
  | receive callback => exact sound_receive P callback p
  | stop => exact sound_stop P p

theorem sound_run (P : Provider σ) (ops : List (Op σ)) (p : Playback σ) :
    (run P ops p).sound = true := by
  induction ops generalizing p with
  | nil => rfl
  | cons op ops ih => simp [run, sound_apply, ih]

end Op

end Jukebox
