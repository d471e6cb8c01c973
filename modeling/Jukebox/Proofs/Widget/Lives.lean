import Jukebox.Widget.DryRun
import Jukebox.Widget.External
import Mathlib.Data.List.Basic

/-!
# Widgets side by side

A provider keeps its widgets in a list, each with its session. What it does with one of them
leaves the others alone, so the list is looked at through the entries of one session
(`entriesOf`), and what is sent through the reports of one session (`saidBy`).
-/

namespace Jukebox

/-- What is listed for a session, in order. -/
def entriesOf {α : Type} (session : Session) (lives : List (Session × α)) : List α :=
  lives.filterMap fun entry => if entry.1 = session then some entry.2 else none

/-- What is reported of a session, in order. -/
def saidBy (session : Session) (sent : List Callback) : List Report :=
  sent.filterMap fun callback =>
    if callback.session = session then some callback.report else none

section Entries

variable {α : Type} {session : Session} {lives : List (Session × α)}

@[simp] theorem entriesOf_nil : entriesOf session ([] : List (Session × α)) = [] := rfl

theorem entriesOf_cons_self (life : α) :
    entriesOf session ((session, life) :: lives) = life :: entriesOf session lives := by
  simp [entriesOf]

theorem entriesOf_cons_of_ne {other : Session} (h : other ≠ session) (life : α) :
    entriesOf session ((other, life) :: lives) = entriesOf session lives := by
  simp [entriesOf, h]

/-- What is found for a session is what is listed first. -/
theorem lookup_eq_head?_entriesOf : lives.lookup session = (entriesOf session lives).head? := by
  induction lives with
  | nil => rfl
  | cons entry lives ih =>
    obtain ⟨other, life⟩ := entry
    by_cases h : other = session
    · subst h
      simp [entriesOf_cons_self]
    · rw [entriesOf_cons_of_ne h, ← ih, List.lookup_cons]
      simp [beq_false_of_ne (Ne.symm h)]

theorem entriesOf_eq_nil (h : session ∉ lives.map Prod.fst) : entriesOf session lives = [] := by
  rw [entriesOf, List.filterMap_eq_nil_iff]
  intro entry hmem
  refine if_neg ?_
  rintro rfl
  exact h (List.mem_map_of_mem hmem)

theorem entriesOf_concat_self (life : α) :
    entriesOf session (lives ++ [(session, life)]) = entriesOf session lives ++ [life] := by
  simp [entriesOf, List.filterMap_append]

/-- Where the widgets of a session come to a point of their lives, all of them do. -/
theorem entriesOf_set (life : α) :
    entriesOf session
        (lives.map fun entry => if entry.1 = session then (session, life) else entry) =
      (entriesOf session lives).map fun _ => life := by
  rw [entriesOf, entriesOf, List.filterMap_map, List.map_filterMap]
  refine List.filterMap_congr fun entry _ => ?_
  by_cases h : entry.1 = session <;> simp [h]

theorem entriesOf_map (next : α → α) :
    entriesOf session (lives.map fun entry => (entry.1, next entry.2)) =
      (entriesOf session lives).map next := by
  rw [entriesOf, entriesOf, List.filterMap_map, List.map_filterMap]
  refine List.filterMap_congr fun entry _ => ?_
  by_cases h : entry.1 = session <;> simp [h]

theorem entriesOf_without :
    entriesOf session (lives.filter fun entry => entry.1 != session) = [] := by
  refine entriesOf_eq_nil ?_
  simp

/-- Of all that is reported of the lives, what is reported of a session is what its own lives have
to say. -/
theorem saidBy_filterMap (report? : α → Option Report) :
    saidBy session (lives.filterMap fun entry =>
        (report? entry.2).map fun report => ⟨entry.1, report⟩) =
      (entriesOf session lives).filterMap report? := by
  rw [saidBy, entriesOf, List.filterMap_filterMap, List.filterMap_filterMap]
  refine List.filterMap_congr fun entry _ => ?_
  by_cases h : entry.1 = session <;> cases hreport : report? entry.2 <;> simp [h, hreport]

/-- Where a life is found for a session, another one put in its place is found afterwards. -/
theorem lookup_set {life : α} (h : lives.lookup session = some life) (next : α) :
    (lives.map fun entry => if entry.1 = session then (session, next) else entry).lookup session =
      some next := by
  rw [lookup_eq_head?_entriesOf] at h ⊢
  rw [entriesOf_set, List.head?_map, h]
  rfl

end Entries

/-! ## Being told to play -/

namespace DryRun

variable {m : Memory} {session : Session}

theorem play_of_waiting (h : m.life? session = some .waiting) :
    provider.play m session =
      { memory := m.setLife session (.playing (m.now + m.duration))
        sent := [⟨session, .changed .playing⟩]
        result := .ok () } := by
  simp only [provider, h]

theorem play_of_not_waiting (h : m.life? session ≠ some .waiting) :
    provider.play m session = { memory := m, result := .ok () } := by
  simp only [provider]

end DryRun

namespace External

open Host

variable {launch : String → List String → Except LaunchError Child} {m : Memory}
  {session : Session} {args : List String}

theorem play_of_launched {child : Child} (h : m.life? session = some (.waiting args))
    (hlaunch : launch m.settings.command args = .ok child) :
    (provider launch).play m session =
      { memory := m.setLife session (.running (m.now + child.lasts) child.exit)
        sent := [⟨session, .changed .playing⟩]
        result := .ok () } := by
  simp only [provider, h, hlaunch]

theorem play_of_not_launched {e : LaunchError} (h : m.life? session = some (.waiting args))
    (hlaunch : launch m.settings.command args = .error e) :
    (provider launch).play m session =
      { memory := m
        result := .error (.widget s!"failed to spawn {m.settings.command}: {e.message}") } := by
  simp only [provider, h, hlaunch]

theorem play_of_not_waiting (h : ∀ args, m.life? session ≠ some (.waiting args)) :
    (provider launch).play m session = { memory := m, result := .ok () } := by
  simp only [provider]

end External

end Jukebox
