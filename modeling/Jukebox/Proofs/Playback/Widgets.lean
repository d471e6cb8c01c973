import Jukebox.Proofs.History
import Jukebox.Proofs.Playback.Run

/-!
# The life of widgets

A widget is alive from the moment the provider hands it over until it is dropped. The main result is
`one_widget_at_a_time`: in every run at most one widget is alive at any moment, a new one is asked
for only while none is, only the living one is told to play, and each is dropped exactly once.
Between operations the playing flag tells whether there is one.

The invariant is `Tended`: what is mounted is exactly what was made and not dropped. It does not
speak of the playing flag, so it also holds in the midst of an operation.
-/

namespace Jukebox

variable {σ : Type}

/-! ## What is alive -/

/-- The session of the widget that an act makes, if it makes one. -/
@[simp] def Act.created? : Act → Option Session
  | create session _ true => some session
  | _ => none

/-- The session of the widget that an act drops, if it drops one. -/
@[simp] def Act.dropped? : Act → Option Session
  | drop widget => some widget.session
  | _ => none

/-- The sessions of the widgets that were made, in order. -/
abbrev created (acts : List Act) : List Session := acts.filterMap Act.created?

/-- The sessions of the widgets that were dropped, in order. -/
abbrev dropped (acts : List Act) : List Session := acts.filterMap Act.dropped?

/-- The sessions of the widgets that were made and have not been dropped. -/
def alive (acts : List Act) : List Session :=
  (created acts).filter fun session => session ∉ dropped acts

/-- What may be done while the widgets of some sessions are alive: a widget may be asked for while
there is none, and the only one there is may be told to play or dropped. -/
def Act.Fits (alive : List Session) : Act → Prop
  | create .. => alive = []
  | play widget | drop widget => alive = [widget.session]
  | announce _ => True

/-- After some acts at most one widget is alive, and the next act fits it. -/
def Tidy (acts : List Act) (next : Act) : Prop :=
  (alive acts).length ≤ 1 ∧ next.Fits (alive acts)

/-- When what was made is what was dropped and then something else, that is what is alive. -/
theorem alive_eq {acts : List Act} {rest : List Session} (h : created acts = dropped acts ++ rest)
    (hnodup : (created acts).Nodup) : alive acts = rest := by
  rw [h, List.nodup_append] at hnodup
  have hdropped : (dropped acts).filter (fun session => session ∉ dropped acts) = [] := by
    rw [List.filter_eq_nil_iff]
    intro session hmem
    simpa using hmem
  have hrest : rest.filter (fun session => session ∉ dropped acts) = rest := by
    rw [List.filter_eq_self]
    intro session hmem
    simpa using fun hmem' => hnodup.2.2 session hmem' session hmem rfl
  rw [alive, h, List.filter_append, hdropped, hrest, List.nil_append]

/-! ## The invariant -/

/-- Everything done so far was tidy, what is mounted is what was made and not dropped, and no
session was used twice or will be. -/
structure Tended (acts : List Act) (mounted : Option Mounted) (nextSession : Session) : Prop where
  tidy : Throughout Tidy acts
  balance : created acts = dropped acts ++ (mounted.map Mounted.session).toList
  nodup : (created acts).Nodup
  fresh : ∀ session ∈ created acts, session < nextSession

namespace Tended

variable {acts : List Act} {mounted : Option Mounted} {nextSession : Session}

theorem nil : Tended [] none nextSession where
  tidy := .nil
  balance := rfl
  nodup := List.nodup_nil
  fresh := by simp

theorem alive_eq (h : Tended acts mounted nextSession) :
    alive acts = (mounted.map Mounted.session).toList :=
  Jukebox.alive_eq h.balance h.nodup

theorem length_alive_le (h : Tended acts mounted nextSession) : (alive acts).length ≤ 1 := by
  rw [h.alive_eq]
  cases mounted <;> simp

/-- The history goes on with an act that fits. -/
theorem throughout_concat (h : Tended acts mounted nextSession) {next : Act}
    (hfits : next.Fits (mounted.map Mounted.session).toList) : Throughout Tidy (acts ++ [next]) :=
  h.tidy.concat ⟨h.length_alive_le, h.alive_eq ▸ hfits⟩

theorem announce (h : Tended acts mounted nextSession) (notice : Notice Session Nat) :
    Tended (acts ++ [.announce notice]) mounted nextSession where
  tidy := h.throughout_concat trivial
  balance := by simpa using h.balance
  nodup := by simpa using h.nodup
  fresh := by simpa using h.fresh

theorem play {widget : Mounted} (h : Tended acts (some widget) nextSession) :
    Tended (acts ++ [.play widget]) (some widget) nextSession where
  tidy := h.throughout_concat rfl
  balance := by simpa using h.balance
  nodup := by simpa using h.nodup
  fresh := by simpa using h.fresh

/-- The mounted widget is dropped, if there is one. -/
theorem drops (h : Tended acts mounted nextSession) :
    Tended (acts ++ (mounted.map Act.drop).toList) none nextSession := by
  cases mounted with
  | none => simpa using h
  | some widget =>
    refine ⟨h.throughout_concat rfl, ?_, ?_, ?_⟩
    · simpa using h.balance
    · simpa using h.nodup
    · simpa using h.fresh

/-- The provider accepts, and the widget is mounted in a session of its own. -/
theorem accepted (h : Tended acts none nextSession) (spec : WidgetSpec) (name : String) :
    Tended (acts ++ [.create nextSession spec true]) (some ⟨nextSession, name⟩)
      (nextSession + 1) := by
  have hnew : nextSession ∉ created acts := fun hmem => Nat.lt_irrefl _ (h.fresh _ hmem)
  refine ⟨h.throughout_concat rfl, ?_, ?_, ?_⟩
  · simpa using h.balance
  · -- sessions are counted up, so the new one is none of the old ones
    rw [created, List.filterMap_append, List.nodup_append]
    refine ⟨h.nodup, List.pairwise_singleton _ _, fun session hmem new hmem' heq => hnew ?_⟩
    rwa [← List.mem_singleton.1 hmem', ← heq]
  · intro session hmem
    simp only [List.filterMap_append, filterMap_cons_eq_append, Act.created?, Option.toList_some,
      List.filterMap_nil, List.append_nil, List.mem_append, List.mem_singleton] at hmem
    rcases hmem with hmem | rfl
    · exact Nat.lt_succ_of_lt (h.fresh session hmem)
    · exact Nat.lt_succ_self session

/-- The provider refuses, and the session is used up. -/
theorem refused (h : Tended acts none nextSession) (spec : WidgetSpec) :
    Tended (acts ++ [.create nextSession spec false]) none (nextSession + 1) where
  tidy := h.throughout_concat rfl
  balance := by simpa using h.balance
  nodup := by simpa using h.nodup
  fresh := by
    intro session hmem
    exact Nat.lt_succ_of_lt (h.fresh session (by simpa using hmem))

end Tended

/-- What is known between operations: playback is tended, and the playing flag tells the truth. -/
def Settled (acts : List Act) (p : Playback σ) : Prop :=
  Tended acts p.mounted p.nextSession ∧ p.playing = p.mounted.isSome

theorem invariant_settled (P : Provider σ) :
    Invariant P Settled fun acts p => Tended acts p.mounted p.nextSession where
  moving_of_idle h _ := h.1
  skipRequested h := h.1.announce _
  errored _ h _ := h.1.announce _
  accepted _ h _ _ := by
    refine ⟨?_, rfl⟩
    simpa [Playback.drops] using (h.drops.accepted _ _).announce _
  refused _ _ h _ := by
    simpa [Playback.drops] using (h.drops.refused _).announce _
  idle _ h _ := by
    refine ⟨?_, rfl⟩
    simpa [Playback.drops] using h.drops.announce _
  played {acts p widget} _ h hmounted := by
    have htended := h.1
    rw [hmounted] at htended
    exact ⟨by simpa [hmounted] using htended.play, h.2⟩
  ended _ h _ := by
    refine ⟨?_, rfl⟩
    simpa [Playback.drops] using h.1.drops.announce _

theorem stop_leads (P : Provider σ) : Leads Settled (Playback.stop P) Settled := by
  intro acts p h
  obtain ⟨memory, sent, hdown⟩ := Playback.teardown_eq P p
  rw [Playback.stop, hdown]
  refine ⟨?_, rfl⟩
  simpa [Outcome.andThen, Playback.unchanged, Playback.drops] using h.1.drops

theorem apply_leads (P : Provider σ) (op : Op σ) : Leads Settled (op.apply P) Settled := by
  have inv := invariant_settled P
  cases op with
  | enqueue identifier => exact fun acts p h => ⟨h.1.announce _, h.2⟩
  | skip => exact inv.skip
  | tick => exact inv.tick
  | advance => exact fun acts p h => inv.advance acts p h.1
  | receive callback => exact inv.receive callback
  | stop => exact stop_leads P
  | meanwhile memory =>
    intro acts p h
    simpa [Op.apply, Settled] using h

/-! ## The main result -/

/-- In every run, whatever the provider answers: where the run ends the playing flag tells whether a
widget is mounted, and no assertion failed on the way. At every moment of the run, and of the
teardown that ends it, at most one widget is alive; while one is asked for none is; what is told to
play or dropped is the one that is alive; and by the end each widget that was made has been dropped
once. -/
theorem one_widget_at_a_time (P : Provider σ) (layout : Layout) (memory : σ) (ops : List (Op σ)) :
    let o := Op.run P ops { layout, memory }
    let acts := o.acts ++ (o.playback.teardown P).acts
    o.playback.playing = o.playback.mounted.isSome ∧
      o.sound = true ∧
      (∀ before after, acts = before ++ after → (alive before).length ≤ 1) ∧
      (∀ before session spec accepted after,
        acts = before ++ .create session spec accepted :: after → alive before = []) ∧
      (∀ before widget after, acts = before ++ .play widget :: after →
        alive before = [widget.session]) ∧
      (∀ before widget after, acts = before ++ .drop widget :: after →
        alive before = [widget.session]) ∧
      (created acts).Nodup ∧ dropped acts = created acts := by
  intro o acts
  have hrun : Settled ([] ++ o.acts) o.playback :=
    Op.run_leads (apply_leads P) ops [] { layout, memory } ⟨.nil, rfl⟩
  rw [List.nil_append] at hrun
  -- after the last teardown nothing is mounted, so all that was made was dropped
  have hend : Tended acts none o.playback.nextSession := by
    obtain ⟨memory, sent, hdown⟩ := Playback.teardown_eq P o.playback
    have hdrops := hrun.1.drops
    simp only [acts, hdown]
    exact hdrops
  refine ⟨hrun.2, Op.sound_run P ops _, ?_, ?_, ?_, ?_, hend.nodup, ?_⟩
  · -- the end of the run is no place in front of an act, so it is a case of its own
    intro before after hsplit
    cases after with
    | nil => exact (hsplit.trans (List.append_nil before)) ▸ hend.length_alive_le
    | cons act after => exact (hend.tidy before act after hsplit).1
  · exact fun before session spec accepted after hsplit => (hend.tidy before _ after hsplit).2
  · exact fun before widget after hsplit => (hend.tidy before _ after hsplit).2
  · exact fun before widget after hsplit => (hend.tidy before _ after hsplit).2
  · simpa using hend.balance.symm

end Jukebox
