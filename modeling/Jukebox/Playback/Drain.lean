import Jukebox.Playback.Basic

/-!
# Handling what waits

Reports wait in line until they are handled, and those sent meanwhile join the end of the line. The
line need not ever run empty, so the number of reports to handle is limited.
-/

namespace Jukebox

/-- Playback after some of the waiting reports were handled. -/
structure Drained (σ : Type) where
  playback : Playback σ
  acts : List Act
  /-- The reports that still wait. -/
  waiting : List Callback
  /-- How many reports were handled. -/
  handled : Nat

/-- Handles at most `limit` waiting reports in their order. -/
def Playback.drain {σ : Type} (P : Provider σ) :
    (limit : Nat) → List Callback → Playback σ → Drained σ
  | 0, waiting, p => ⟨p, [], waiting, 0⟩
  | _ + 1, [], p => ⟨p, [], [], 0⟩
  | limit + 1, callback :: waiting, p =>
    let o := p.receive P callback
    let d := drain P limit (waiting ++ o.sent) o.playback
    { d with acts := o.acts ++ d.acts, handled := d.handled + 1 }

end Jukebox
