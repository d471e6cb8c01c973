import Jukebox.Proofs.Playback.Run

/-!
# Trails

A trail is a history of acts as playback can leave it behind: a widget is mounted only where none
is, in a session that was not used before, and what is told to play or dropped is the mounted one.
`Op.trail_run` shows that every run leaves a trail, so what is true of sessions and widgets along
all trails is proved by induction on them, with one case for each kind of act.
-/

namespace Jukebox

variable {σ : Type}

/-- A history of acts, the widget that is mounted after it, and the session of the next one. -/
inductive Trail : List Act → Option Mounted → Session → Prop
  | nil : Trail [] none 1
  | announce {acts mounted next} (h : Trail acts mounted next) (notice : Notice Session Nat) :
    Trail (acts ++ [.announce notice]) mounted next
  | play {acts widget next} (h : Trail acts (some widget) next) :
    Trail (acts ++ [.play widget]) (some widget) next
  | drop {acts widget next} (h : Trail acts (some widget) next) :
    Trail (acts ++ [.drop widget]) none next
  | accepted {acts next} (h : Trail acts none next) (spec : WidgetSpec) (name : String) :
    Trail (acts ++ [.create next spec true]) (some ⟨next, name⟩) (next + 1)
  | refused {acts next} (h : Trail acts none next) (spec : WidgetSpec) :
    Trail (acts ++ [.create next spec false]) none (next + 1)

namespace Trail

/-- The mounted widget is dropped, if there is one. -/
theorem drops {acts : List Act} {p : Playback σ} {next : Session}
    (h : Trail acts p.mounted next) : Trail (acts ++ p.drops) none next := by
  rw [Playback.drops]
  cases hmounted : p.mounted with
  | none =>
    rw [hmounted] at h
    simpa using h
  | some widget =>
    rw [hmounted] at h
    exact h.drop

end Trail

/-- Playback has left a trail, and it stands where the trail ends. -/
def Trailing (acts : List Act) (p : Playback σ) : Prop := Trail acts p.mounted p.nextSession

theorem invariant_trailing (P : Provider σ) : Invariant P Trailing Trailing where
  moving_of_idle h _ := h
  skipRequested h := h.announce _
  errored _ h _ := h.announce _
  accepted {acts p identifier others name} _ h _ _ := by
    have haccepted := (h.drops.accepted (p.spec identifier) name).announce
      (.started p.nextSession name)
    simpa [Trailing] using haccepted
  refused {acts p identifier others} reason _ h _ := by
    have hrefused := (h.drops.refused (p.spec identifier)).announce
      (.errored none identifier reason)
    simpa [Trailing] using hrefused
  idle _ h _ := by simpa [Trailing] using h.drops.announce .idle
  played {acts p widget} _ h hmounted := by
    rw [Trailing, hmounted] at h
    simpa [Trailing, hmounted] using h.play
  ended {acts p widget} _ h _ := by
    simpa [Trailing] using h.drops.announce (.ended widget.session widget.identifier)

namespace Op

theorem trailing_apply (P : Provider σ) (op : Op σ) :
    Leads Trailing (op.apply P) Trailing := by
  have inv := invariant_trailing P
  cases op with
  | enqueue identifier => exact fun acts p h => h.announce _
  | skip => exact inv.skip
  | tick => exact inv.tick
  | advance => exact inv.advance
  | receive callback => exact inv.receive callback
  | stop =>
    intro acts p h
    obtain ⟨memory, sent, hdown⟩ := Playback.teardown_eq P p
    rw [apply, Playback.stop, hdown]
    simpa [Outcome.andThen, Playback.unchanged, Trailing] using h.drops
  | meanwhile memory =>
    intro acts p h
    simpa [apply, Trailing] using h

theorem trail_run (P : Provider σ) (layout : Layout) (memory : σ) (ops : List (Op σ)) :
    Trailing (run P ops { layout, memory }).acts (run P ops { layout, memory }).playback :=
  run_leads (trailing_apply P) ops [] { layout, memory } .nil

end Op

end Jukebox
