import Jukebox.Proofs.Widget.Lives

/-!
# The course of a widget

What is heard of a widget, whatever is done with it and in whatever order: it is told to play,
time passes, it is dropped. The main result is `widgets_take_their_course`, for widgets that play
nothing and for those that run a player: it says what is heard after any uses and how telling it
to play is answered (`Course`).

Both kinds follow one machine that knows only the phase a widget has come to (`Phase.use`). Once
that is shown of each single use (`Handle.Follows`), runs are compared by one induction, and the
rest is about the machine.
-/

namespace Jukebox

/-! ## What is done with a widget -/

/-- Something done with a widget. What telling it to play leads to may be different each time, so it
is told with something given. -/
inductive Use (α : Type)
  | play (given : α)
  | wait (ms : Nat)
  | drop

/-- A way to use the widget of a session in a memory. -/
structure Handle (α σ : Type) where
  play : α → σ → Answer σ Unit
  wait : Nat → σ → σ × List Callback
  drop : σ → σ × List Callback

/-- What a widget does once it plays: how long, and what it reports at the end. -/
structure Showing where
  lasts : Nat
  last : Report

section Uses

variable {α σ τ β : Type}

/-- Uses one after the other. -/
def Use.run (use : Use α → σ → σ × List β) : List (Use α) → σ → σ × List β
  | [], s => (s, [])
  | u :: uses, s => ((run use uses (use u s).1).1, (use u s).2 ++ (run use uses (use u s).1).2)

/-- The time that passes. -/
def Use.elapsed : List (Use α) → Nat
  | [] => 0
  | .wait ms :: uses => ms + elapsed uses
  | .play _ :: uses | .drop :: uses => elapsed uses

/-- Nothing that is given makes the widget play. -/
def Use.Fruitless (starts : α → Except PlayerError Showing) (uses : List (Use α)) : Prop :=
  ∀ given, .play given ∈ uses → ∀ showing, starts given ≠ .ok showing

theorem Use.run_append (use : Use α → σ → σ × List β) (before after : List (Use α)) (s : σ) :
    run use (before ++ after) s =
      ((run use after (run use before s).1).1,
        (run use before s).2 ++ (run use after (run use before s).1).2) := by
  induction before generalizing s with
  | nil => rfl
  | cons u before ih => simp [run, ih]

theorem Use.exists_wait {uses : List (Use α)} (h : 0 < elapsed uses) : ∃ ms, .wait ms ∈ uses := by
  induction uses with
  | nil => exact absurd h (Nat.lt_irrefl 0)
  | cons u uses ih =>
    cases u with
    | wait ms => exact ⟨ms, List.mem_cons_self⟩
    | play | drop => exact (ih h).imp fun ms => List.mem_cons_of_mem _

/-- One use of a widget. -/
def Handle.use (handle : Handle α σ) : Use α → σ → σ × List Callback
  | .play given, s => ((handle.play given s).memory, (handle.play given s).sent)
  | .wait ms, s => handle.wait ms s
  | .drop, s => handle.drop s

/-- The memory after some uses of a widget that was made. -/
def Handle.after (handle : Handle α σ) (made : Answer σ String) (uses : List (Use α)) : σ :=
  (Use.run handle.use uses made.memory).1

/-- What is heard of a session from the making of its widget on. -/
def Handle.heard (handle : Handle α σ) (session : Session) (made : Answer σ String)
    (uses : List (Use α)) : List Report :=
  saidBy session (made.sent ++ (Use.run handle.use uses made.memory).2)

end Uses

/-! ## Phases -/

/-- How far a widget has come, in the eyes of whoever uses it. -/
inductive Phase
  | waiting
  /-- It plays, and there is some time left until its last report. -/
  | playing (left : Nat) (last : Report)
  | finished
  | dropped

namespace Phase

variable {α : Type} {starts : α → Except PlayerError Showing} {uses before after : List (Use α)}
  {left : Nat} {last : Report} {phase : Phase}

/-- What a use does to a widget, and what it reports. -/
def use (starts : α → Except PlayerError Showing) : Use α → Phase → Phase × List Report
  | .play given, waiting =>
    match starts given with
    | .ok showing => (playing showing.lasts showing.last, [.changed .playing])
    | .error _ => (waiting, [])
  | .wait ms, playing left last =>
    if left ≤ ms then (finished, [last]) else (playing (left - ms) last, [])
  | .drop, _ => (dropped, [])
  | .play _, phase | .wait _, phase => (phase, [])

theorem run_dropped (uses : List (Use α)) : Use.run (use starts) uses dropped = (dropped, []) := by
  induction uses with
  | nil => rfl
  | cons u uses ih => cases u <;> simp [Use.run, use, ih]

theorem said_finished (uses : List (Use α)) : (Use.run (use starts) uses finished).2 = [] := by
  induction uses with
  | nil => rfl
  | cons u uses ih => cases u <;> simp [Use.run, use, ih, run_dropped]

/-- A widget that plays has nothing more to report than its last. -/
theorem said_playing (uses : List (Use α)) :
    (Use.run (use starts) uses (playing left last)).2 <+: [last] := by
  induction uses generalizing left with
  | nil => exact List.nil_prefix
  | cons u uses ih =>
    cases u with
    | play given => exact ih
    | drop => simp [Use.run, use, run_dropped]
    | wait ms =>
      by_cases hdue : left ≤ ms
      · simp [Use.run, use, hdue, said_finished]
      · simpa [Use.run, use, hdue] using ih

/-- Whatever is heard of a widget that waits, it is that it plays and then its last report. -/
theorem said_waiting (h : (Use.run (use starts) uses waiting).2 ≠ []) :
    ∃ given showing, .play given ∈ uses ∧ starts given = .ok showing ∧
      (Use.run (use starts) uses waiting).2 <+: [.changed .playing, showing.last] := by
  induction uses with
  | nil => exact absurd rfl h
  | cons u uses ih =>
    have hlater (hrun : Use.run (use starts) (u :: uses) waiting =
        Use.run (use starts) uses waiting) :
        ∃ given showing, .play given ∈ u :: uses ∧ starts given = .ok showing ∧
          (Use.run (use starts) (u :: uses) waiting).2 <+: [.changed .playing, showing.last] := by
      rw [hrun] at h ⊢
      obtain ⟨given, showing, hmem, hsaid⟩ := ih h
      exact ⟨given, showing, List.mem_cons_of_mem u hmem, hsaid⟩
    cases u with
    | wait ms => exact hlater rfl
    | drop => simp [Use.run, use, run_dropped] at h
    | play given =>
      cases hstarts : starts given with
      | error e => exact hlater (by simp [Use.run, use, hstarts])
      | ok showing =>
        refine ⟨given, showing, List.mem_cons_self, hstarts, ?_⟩
        simpa [Use.run, use, hstarts] using said_playing uses

/-! ### Uses without a drop -/

theorem run_fruitless (hdrop : .drop ∉ uses) (h : Use.Fruitless starts uses) :
    Use.run (use starts) uses waiting = (waiting, []) := by
  induction uses with
  | nil => rfl
  | cons u uses ih =>
    have hrest := ih (List.not_mem_of_not_mem_cons hdrop)
      (fun given hmem => h given (List.mem_cons_of_mem u hmem))
    cases u with
    | wait ms => exact hrest
    | drop => exact absurd List.mem_cons_self hdrop
    | play given =>
      cases hstarts : starts given with
      | error e => simp [Use.run, use, hstarts, hrest]
      | ok showing => exact absurd hstarts (h given List.mem_cons_self showing)

theorem run_finished (hdrop : .drop ∉ uses) :
    Use.run (use starts) uses finished = (finished, []) := by
  induction uses with
  | nil => rfl
  | cons u uses ih =>
    have hrest := ih (List.not_mem_of_not_mem_cons hdrop)
    cases u with
    | play | wait => exact hrest
    | drop => exact absurd List.mem_cons_self hdrop

theorem run_playing_on (hdrop : .drop ∉ uses)
    (h : (∃ ms, .wait ms ∈ uses) → Use.elapsed uses < left) :
    Use.run (use starts) uses (playing left last) =
      (playing (left - Use.elapsed uses) last, []) := by
  induction uses generalizing left with
  | nil => rfl
  | cons u uses ih =>
    have hrest : .drop ∉ uses := List.not_mem_of_not_mem_cons hdrop
    cases u with
    | play given => exact ih hrest fun ⟨ms, hmem⟩ => h ⟨ms, List.mem_cons_of_mem _ hmem⟩
    | drop => exact absurd List.mem_cons_self hdrop
    | wait ms =>
      have hleft : ms + Use.elapsed uses < left := h ⟨ms, List.mem_cons_self⟩
      have hdue : ¬ left ≤ ms := by omega
      have hon : Use.run (use starts) uses (playing (left - ms) last) =
          (playing (left - ms - Use.elapsed uses) last, []) := ih hrest fun _ => by omega
      simp [Use.run, use, hdue, hon, Use.elapsed, Nat.sub_sub]

/-- The time that is left may be none, but it still has to pass. -/
theorem run_playing_out (hdrop : .drop ∉ uses) (hwait : ∃ ms, .wait ms ∈ uses)
    (h : left ≤ Use.elapsed uses) :
    Use.run (use starts) uses (playing left last) = (finished, [last]) := by
  induction uses generalizing left with
  | nil => simp at hwait
  | cons u uses ih =>
    have hrest : .drop ∉ uses := List.not_mem_of_not_mem_cons hdrop
    cases u with
    | play given => exact ih hrest (by simpa using hwait) h
    | drop => exact absurd List.mem_cons_self hdrop
    | wait ms =>
      by_cases hdue : left ≤ ms
      · simp [Use.run, use, hdue, run_finished hrest]
      · -- some time is left, so it has to pass in a later wait
        have hleft : left ≤ ms + Use.elapsed uses := h
        have hout : Use.run (use starts) uses (playing (left - ms) last) = (finished, [last]) :=
          ih hrest (Use.exists_wait (by omega)) (by omega)
        simp [Use.run, use, hdue, hout]

/-! ### Uses after which nothing can start -/

theorem run_ne_waiting (h : phase ≠ waiting) : (Use.run (use starts) uses phase).1 ≠ waiting := by
  induction uses generalizing phase with
  | nil => exact h
  | cons u uses ih =>
    refine ih ?_
    cases u with
    | drop => exact Phase.noConfusion
    | play given => cases phase <;> simp_all [use]
    | wait ms =>
      cases phase with
      | playing left last => rw [use]; split <;> exact Phase.noConfusion
      | waiting => exact absurd rfl h
      | finished | dropped => exact h

theorem run_ne_waiting_of_mem {u : Use α} (hmem : u ∈ uses)
    (hu : ∀ phase, (use starts u phase).1 ≠ waiting) :
    (Use.run (use starts) uses phase).1 ≠ waiting := by
  obtain ⟨before, after, rfl⟩ := List.append_of_mem hmem
  rw [Use.run_append, Use.run]
  exact run_ne_waiting (hu _)

theorem use_play_ne_waiting {given : α} {showing : Showing} (h : starts given = .ok showing)
    (phase : Phase) : (use starts (.play given) phase).1 ≠ waiting := by
  cases phase <;> simp [use, h]

theorem run_drop (before after : List (Use α)) (phase : Phase) :
    Use.run (use starts) (before ++ .drop :: after) phase =
      (dropped, (Use.run (use starts) before phase).2) := by
  rw [Use.run_append, Use.run, use, run_dropped, List.append_nil, List.append_nil]

end Phase

/-! ## The course -/

/-- The course that the widget of a session takes once it was made, whatever is done with it. -/
structure Course {α σ : Type} (session : Session) (handle : Handle α σ)
    (starts : α → Except PlayerError Showing) (made : Answer σ String) : Prop where
  /-- What was heard of it, up to some point: that it is ready, that it plays, its last report. -/
  inOrder : ∀ uses, handle.heard session made uses = [.ready] ∨
    ∃ given showing, .play given ∈ uses ∧ starts given = .ok showing ∧
      handle.heard session made uses <+: [.ready, .changed .playing, showing.last]
  /-- Nothing else is heard while nothing makes it play. -/
  silent : ∀ uses, .drop ∉ uses → Use.Fruitless starts uses →
    handle.heard session made uses = [.ready]
  /-- The first time something makes it play, it plays, and goes on until its time is over. -/
  playsOn : ∀ before given showing after, .drop ∉ before → Use.Fruitless starts before →
    starts given = .ok showing → .drop ∉ after →
    ((∃ ms, .wait ms ∈ after) → Use.elapsed after < showing.lasts) →
    handle.heard session made (before ++ .play given :: after) = [.ready, .changed .playing]
  /-- Then it makes its last report, and after that none. -/
  ends : ∀ before given showing after, .drop ∉ before → Use.Fruitless starts before →
    starts given = .ok showing → .drop ∉ after →
    (∃ ms, .wait ms ∈ after) → showing.lasts ≤ Use.elapsed after →
    handle.heard session made (before ++ .play given :: after) =
      [.ready, .changed .playing, showing.last]
  /-- Once it was dropped nothing more is heard of it. -/
  quiet : ∀ before after, handle.heard session made (before ++ .drop :: after) =
    handle.heard session made before
  /-- What fails to make it play changes nothing, and the failure is the answer. -/
  fails : ∀ uses given e, .drop ∉ uses → Use.Fruitless starts uses → starts given = .error e →
    handle.play given (handle.after made uses) =
      { memory := handle.after made uses, result := .error e }
  /-- What makes it play is answered so, and it says that it plays. -/
  plays : ∀ uses given showing, .drop ∉ uses → Use.Fruitless starts uses →
    starts given = .ok showing →
    (handle.play given (handle.after made uses)).sent = [⟨session, .changed .playing⟩] ∧
      (handle.play given (handle.after made uses)).result = .ok ()
  /-- Told to play once more, or after it was dropped, it does as asked and changes nothing. -/
  again : ∀ uses given, .drop ∈ uses ∨ ¬ Use.Fruitless starts uses →
    handle.play given (handle.after made uses) =
      { memory := handle.after made uses, result := .ok () }

/-- In the eyes of whoever uses the widget of a session it is in one of the phases, and each use
takes it from one to the next. -/
structure Handle.Follows {α σ : Type} (handle : Handle α σ) (session : Session)
    (starts : α → Except PlayerError Showing) (isAt : σ → Phase → Prop) : Prop where
  plays : ∀ {s given showing}, isAt s .waiting → starts given = .ok showing →
    isAt (handle.play given s).memory (.playing showing.lasts showing.last) ∧
      (handle.play given s).sent = [⟨session, .changed .playing⟩] ∧
      (handle.play given s).result = .ok ()
  fails : ∀ {s given e}, isAt s .waiting → starts given = .error e →
    handle.play given s = { memory := s, result := .error e }
  again : ∀ {s phase}, isAt s phase → phase ≠ .waiting → ∀ given,
    handle.play given s = { memory := s, result := .ok () }
  waits : ∀ {s phase}, isAt s phase → ∀ ms,
    isAt (handle.wait ms s).1 (Phase.use starts (.wait ms) phase).1 ∧
      saidBy session (handle.wait ms s).2 = (Phase.use starts (.wait ms) phase).2
  drops : ∀ {s phase}, isAt s phase → isAt (handle.drop s).1 .dropped ∧ (handle.drop s).2 = []

theorem saidBy_append (session : Session) (sent more : List Callback) :
    saidBy session (sent ++ more) = saidBy session sent ++ saidBy session more :=
  List.filterMap_append

namespace Handle.Follows

variable {α σ : Type} {handle : Handle α σ} {session : Session}
  {starts : α → Except PlayerError Showing} {isAt : σ → Phase → Prop} {made : Answer σ String}

theorem use (h : handle.Follows session starts isAt) {s : σ} {phase : Phase} (hs : isAt s phase)
    (u : Use α) :
    isAt (handle.use u s).1 (Phase.use starts u phase).1 ∧
      saidBy session (handle.use u s).2 = (Phase.use starts u phase).2 := by
  cases u with
  | wait ms => exact h.waits hs ms
  | drop =>
    obtain ⟨hdropped, hsilent⟩ := h.drops hs
    exact ⟨hdropped, by rw [Handle.use, hsilent]; rfl⟩
  | play given =>
    by_cases hwaiting : phase = .waiting
    · subst hwaiting
      cases hstarts : starts given with
      | ok showing =>
        obtain ⟨hplays, hreport, -⟩ := h.plays hs hstarts
        simp [Handle.use, Phase.use, hstarts, hplays, hreport, saidBy]
      | error e => simp [Handle.use, Phase.use, hstarts, h.fails hs hstarts, hs, saidBy]
    · have hpasses : Phase.use starts (.play given) phase = (phase, []) := by
        cases phase with
        | waiting => exact absurd rfl hwaiting
        | playing | finished | dropped => rfl
      rw [Handle.use, h.again hs hwaiting given, hpasses]
      exact ⟨hs, rfl⟩

theorem run (h : handle.Follows session starts isAt) {s : σ} {phase : Phase} (hs : isAt s phase)
    (uses : List (Use α)) :
    isAt (Use.run handle.use uses s).1 (Use.run (Phase.use starts) uses phase).1 ∧
      saidBy session (Use.run handle.use uses s).2 =
        (Use.run (Phase.use starts) uses phase).2 := by
  induction uses generalizing s phase with
  | nil => exact ⟨hs, rfl⟩
  | cons u uses ih =>
    obtain ⟨hnext, hsaid⟩ := h.use hs u
    obtain ⟨hlast, hmore⟩ := ih hnext
    exact ⟨hlast, by rw [Use.run, Use.run, saidBy_append, hsaid, hmore]⟩

/-- A widget that says that it is ready when it is made, and waits then, takes its course. -/
theorem course (h : handle.Follows session starts isAt) (hwaits : isAt made.memory .waiting)
    (hready : made.sent = [⟨session, .ready⟩]) : Course session handle starts made := by
  have hheard (uses : List (Use α)) : handle.heard session made uses =
      .ready :: (Use.run (Phase.use starts) uses .waiting).2 := by
    rw [heard, saidBy_append, (h.run hwaits uses).2, hready]
    simp [saidBy]
  have hafter (uses : List (Use α)) := (h.run hwaits uses).1
  -- up to the first showing nothing happens, so the rest is the run of a widget that plays
  have hfirst {before : List (Use α)} {given : α} {showing : Showing} (after : List (Use α))
      (hdrop : .drop ∉ before) (hfruitless : Use.Fruitless starts before)
      (hstarts : starts given = .ok showing) :
      (Use.run (Phase.use starts) (before ++ .play given :: after) .waiting).2 =
        .changed .playing ::
          (Use.run (Phase.use starts) after (.playing showing.lasts showing.last)).2 := by
    simp [Use.run_append, Phase.run_fruitless hdrop hfruitless, Use.run, Phase.use, hstarts]
  refine
    { inOrder := fun uses => ?_
      silent := fun uses hdrop hfruitless => ?_
      playsOn := fun before given showing after hdrop hfruitless hstarts hlive hon => ?_
      ends := fun before given showing after hdrop hfruitless hstarts hlive hwait hout => ?_
      quiet := fun before after => ?_
      fails := fun uses given e hdrop hfruitless hstarts => ?_
      plays := fun uses given showing hdrop hfruitless hstarts => ?_
      again := fun uses given hgone => ?_ }
  · rw [hheard]
    by_cases hsaid : (Use.run (Phase.use starts) uses .waiting).2 = []
    · exact .inl (by rw [hsaid])
    · obtain ⟨given, showing, hmem, hstarts, hprefix⟩ := Phase.said_waiting hsaid
      exact .inr ⟨given, showing, hmem, hstarts, (List.prefix_cons_inj _).2 hprefix⟩
  · rw [hheard, Phase.run_fruitless hdrop hfruitless]
  · rw [hheard, hfirst after hdrop hfruitless hstarts, Phase.run_playing_on hlive hon]
  · rw [hheard, hfirst after hdrop hfruitless hstarts, Phase.run_playing_out hlive hwait hout]
  · rw [hheard, hheard, Phase.run_drop]
  · have hwaiting := hafter uses
    rw [Phase.run_fruitless hdrop hfruitless] at hwaiting
    exact h.fails hwaiting hstarts
  · have hwaiting := hafter uses
    rw [Phase.run_fruitless hdrop hfruitless] at hwaiting
    exact (h.plays hwaiting hstarts).2
  · refine h.again (hafter uses) ?_ given
    rcases hgone with hmem | hfruitful
    · exact Phase.run_ne_waiting_of_mem hmem fun phase => Phase.noConfusion
    · simp only [Use.Fruitless, not_forall, not_not] at hfruitful
      obtain ⟨earlier, hmem, showing, hstarts⟩ := hfruitful
      exact Phase.run_ne_waiting_of_mem hmem (Phase.use_play_ne_waiting hstarts)

end Handle.Follows

/-! ## Widgets that play nothing -/

namespace DryRun

variable {session : Session} {m : Memory} {phase : Phase}

/-- The widget of a session. -/
def handle (session : Session) : Handle Unit Memory where
  play _ m := provider.play m session
  wait ms m := m.reach (m.now + ms)
  drop m := provider.drop m session

/-- The widget of the session is in a phase. -/
inductive IsAt (session : Session) (m : Memory) : Phase → Prop
  | waiting (h : entriesOf session m.lives = [.waiting]) : IsAt session m .waiting
  | playing {left : Nat} (h : entriesOf session m.lives = [.playing (m.now + left)]) :
    IsAt session m (.playing left (.changed .ended))
  | finished (h : entriesOf session m.lives = [.gone]) : IsAt session m .finished
  | dropped (h : entriesOf session m.lives = []) : IsAt session m .dropped

theorem entriesOf_reach (session : Session) (m : Memory) (time : Nat) :
    entriesOf session (m.reach time).1.lives = (entriesOf session m.lives).map fun
      | .playing due => if due ≤ time then .gone else .playing due
      | life => life := by
  rw [← entriesOf_map]
  refine congrArg (entriesOf session) (List.map_congr_left fun ⟨other, life⟩ _ => ?_)
  cases life <;> simp

theorem saidBy_reach (session : Session) (m : Memory) (time : Nat) :
    saidBy session (m.reach time).2 = (entriesOf session m.lives).filterMap fun
      | .playing due => if due ≤ time then some (.changed .ended) else none
      | _ => none := by
  rw [← saidBy_filterMap]
  refine congrArg (saidBy session) (List.filterMap_congr fun ⟨other, life⟩ _ => ?_)
  cases life with
  | playing due => by_cases hdue : due ≤ time <;> simp [hdue]
  | waiting | gone => rfl

theorem life?_eq_waiting_iff (h : IsAt session m phase) :
    m.life? session = some .waiting ↔ phase = .waiting := by
  rw [Memory.life?, lookup_eq_head?_entriesOf]
  cases h with
  | waiting h | playing h | finished h | dropped h => simp [h]

theorem IsAt.reach (h : IsAt session m phase) (starts : Unit → Except PlayerError Showing)
    (ms : Nat) :
    IsAt session (m.reach (m.now + ms)).1 (Phase.use starts (.wait ms) phase).1 ∧
      saidBy session (m.reach (m.now + ms)).2 = (Phase.use starts (.wait ms) phase).2 := by
  have hlives := entriesOf_reach session m (m.now + ms)
  rw [saidBy_reach]
  cases h with
  | waiting h => exact ⟨.waiting (by simpa [h] using hlives), by simp [h, Phase.use]⟩
  | finished h => exact ⟨.finished (by simpa [h] using hlives), by simp [h, Phase.use]⟩
  | dropped h => exact ⟨.dropped (by simpa [h] using hlives), by simp [h, Phase.use]⟩
  | @playing left h =>
    by_cases hdue : left ≤ ms
    · rw [Phase.use, if_pos hdue]
      exact ⟨.finished (by simpa [h, hdue] using hlives), by simp [h, hdue]⟩
    · -- when it is to end stays the same, while there is less time until then
      have hleft : m.now + ms + (left - ms) = m.now + left := by omega
      have hplaying : entriesOf session (m.reach (m.now + ms)).1.lives =
          [.playing (m.now + ms + (left - ms))] := by
        simpa [h, hdue, hleft] using hlives
      rw [Phase.use, if_neg hdue]
      exact ⟨.playing hplaying, by simp [h, hdue]⟩

theorem follows (session : Session) (duration : Nat) :
    (handle session).Follows session (fun _ => .ok ⟨duration, .changed .ended⟩)
      fun m phase => m.duration = duration ∧ IsAt session m phase where
  plays := by
    rintro m given showing ⟨rfl, hwaiting⟩ hstarts
    cases hstarts
    have hplay : (handle session).play given m = _ :=
      play_of_waiting ((life?_eq_waiting_iff hwaiting).2 rfl)
    obtain ⟨hentries⟩ := hwaiting
    have hplaying : entriesOf session (m.setLife session (.playing (m.now + m.duration))).lives =
        [.playing (m.now + m.duration)] := by
      rw [Memory.setLife, entriesOf_set, hentries]
      rfl
    rw [hplay]
    exact ⟨⟨rfl, .playing hplaying⟩, rfl, rfl⟩
  fails _ hstarts := by cases hstarts
  again h hphase _ := play_of_not_waiting fun hlife => hphase ((life?_eq_waiting_iff h.2).1 hlife)
  waits h ms := ⟨⟨h.1, (h.2.reach _ ms).1⟩, (h.2.reach _ ms).2⟩
  drops h := ⟨⟨h.1, .dropped entriesOf_without⟩, rfl⟩

end DryRun

/-! ## Widgets that run a player -/

namespace External

open Host

variable {session : Session} {m : Memory} {args : List String} {phase : Phase}

/-- A way to start programs. It may start one at one time and fail to at another. -/
abbrev Launch := String → List String → Except LaunchError Child

/-- The widget of a session. Each time it is told to play, programs start in a way of their own. -/
def handle (session : Session) : Handle Launch Memory where
  play launch m := (provider launch).play m session
  wait ms m := m.reach (m.now + ms)
  drop m := (provider Host.launch).drop m session

/-- What starting the player with some arguments leads to. -/
def starts (command : String) (args : List String) (launch : Launch) :
    Except PlayerError Showing :=
  match launch command args with
  | .ok child => .ok ⟨child.lasts, exitReport child.exit⟩
  | .error e => .error (.widget s!"failed to spawn {command}: {e.message}")

/-- The widget of the session is in a phase; as long as it waits it keeps its arguments. -/
inductive IsAt (session : Session) (args : List String) (m : Memory) : Phase → Prop
  | waiting (h : entriesOf session m.lives = [.waiting args]) : IsAt session args m .waiting
  | running {left : Nat} {exit : Exit}
    (h : entriesOf session m.lives = [.running (m.now + left) exit]) :
    IsAt session args m (.playing left (exitReport exit))
  | gone (h : entriesOf session m.lives = [.gone]) : IsAt session args m .finished
  | dropped (h : entriesOf session m.lives = []) : IsAt session args m .dropped

theorem entriesOf_reach (session : Session) (m : Memory) (time : Nat) :
    entriesOf session (m.reach time).1.lives = (entriesOf session m.lives).map fun
      | .running due exit => if due ≤ time then .gone else .running due exit
      | life => life := by
  rw [← entriesOf_map]
  refine congrArg (entriesOf session) (List.map_congr_left fun ⟨other, life⟩ _ => ?_)
  cases life with
  | running due exit => by_cases hdue : due ≤ time <;> simp [hdue]
  | waiting | gone => rfl

theorem saidBy_reach (session : Session) (m : Memory) (time : Nat) :
    saidBy session (m.reach time).2 = (entriesOf session m.lives).filterMap fun
      | .running due exit => if due ≤ time then some (exitReport exit) else none
      | _ => none := by
  rw [← saidBy_filterMap]
  refine congrArg (saidBy session) (List.filterMap_congr fun ⟨other, life⟩ _ => ?_)
  cases life with
  | running due exit => by_cases hdue : due ≤ time <;> simp [hdue]
  | waiting | gone => rfl

theorem IsAt.life?_of_waiting (h : IsAt session args m .waiting) :
    m.life? session = some (.waiting args) := by
  obtain ⟨hentries⟩ := h
  rw [Memory.life?, lookup_eq_head?_entriesOf, hentries]
  rfl

theorem IsAt.life?_ne_waiting (h : IsAt session args m phase) (hphase : phase ≠ .waiting)
    (others : List String) : m.life? session ≠ some (.waiting others) := by
  rw [Memory.life?, lookup_eq_head?_entriesOf]
  cases h with
  | waiting => exact absurd rfl hphase
  | running h | gone h | dropped h => simp [h]

theorem IsAt.reach (h : IsAt session args m phase) (starts : Launch → Except PlayerError Showing)
    (ms : Nat) :
    IsAt session args (m.reach (m.now + ms)).1 (Phase.use starts (.wait ms) phase).1 ∧
      saidBy session (m.reach (m.now + ms)).2 = (Phase.use starts (.wait ms) phase).2 := by
  have hlives := entriesOf_reach session m (m.now + ms)
  rw [saidBy_reach]
  cases h with
  | waiting h => exact ⟨.waiting (by simpa [h] using hlives), by simp [h, Phase.use]⟩
  | gone h => exact ⟨.gone (by simpa [h] using hlives), by simp [h, Phase.use]⟩
  | dropped h => exact ⟨.dropped (by simpa [h] using hlives), by simp [h, Phase.use]⟩
  | @running left exit h =>
    by_cases hdue : left ≤ ms
    · rw [Phase.use, if_pos hdue]
      exact ⟨.gone (by simpa [h, hdue] using hlives), by simp [h, hdue]⟩
    · -- when it is to end stays the same, while there is less time until then
      have hleft : m.now + ms + (left - ms) = m.now + left := by omega
      have hrunning : entriesOf session (m.reach (m.now + ms)).1.lives =
          [.running (m.now + ms + (left - ms)) exit] := by
        simpa [h, hdue, hleft] using hlives
      rw [Phase.use, if_neg hdue]
      exact ⟨.running hrunning, by simp [h, hdue]⟩

theorem follows (session : Session) (settings : WidgetSettings) (args : List String) :
    (handle session).Follows session (starts settings.command args)
      fun m phase => m.settings = settings ∧ IsAt session args m phase where
  plays := by
    rintro m launch showing ⟨rfl, hwaiting⟩ hstarts
    have hlife := hwaiting.life?_of_waiting
    obtain ⟨hentries⟩ := hwaiting
    cases hlaunch : launch m.settings.command args with
    | error e => simp [starts, hlaunch] at hstarts
    | ok child =>
      have hplay : (handle session).play launch m = _ := play_of_launched hlife hlaunch
      obtain rfl : (⟨child.lasts, exitReport child.exit⟩ : Showing) = showing := by
        simpa [starts, hlaunch] using hstarts
      have hrunning : entriesOf session
          (m.setLife session (.running (m.now + child.lasts) child.exit)).lives =
            [.running (m.now + child.lasts) child.exit] := by
        rw [Memory.setLife, entriesOf_set, hentries]
        rfl
      rw [hplay]
      exact ⟨⟨rfl, .running hrunning⟩, rfl, rfl⟩
  fails := by
    rintro m launch e ⟨rfl, hwaiting⟩ hstarts
    have hlife := hwaiting.life?_of_waiting
    cases hlaunch : launch m.settings.command args with
    | ok child => simp [starts, hlaunch] at hstarts
    | error cause =>
      obtain rfl : .widget s!"failed to spawn {m.settings.command}: {cause.message}" = e := by
        simpa [starts, hlaunch] using hstarts
      exact play_of_not_launched hlife hlaunch
  again h hphase _ := play_of_not_waiting (h.2.life?_ne_waiting hphase)
  waits h ms := ⟨⟨h.1, (h.2.reach _ ms).1⟩, (h.2.reach _ ms).2⟩
  drops h := ⟨⟨h.1, .dropped entriesOf_without⟩, rfl⟩

/-- An item has ended if its player exited with status zero; with any other exit it has failed. -/
theorem exitReport_cases (exit : Exit) :
    (exit = .status 0 ∧ exitReport exit = .changed .ended) ∨
      (exit ≠ .status 0 ∧ ∃ reason, exitReport exit = .failed reason) := by
  match exit with
  | .status 0 => exact .inl ⟨rfl, rfl⟩
  | .status (code + 1) => exact .inr ⟨by simp, _, rfl⟩
  | .signal number dumped => exact .inr ⟨Exit.noConfusion, _, rfl⟩
  | .unknown cause => exact .inr ⟨Exit.noConfusion, _, rfl⟩

end External

/-! ## The main result -/

/-- A widget made for a session that has none, by either provider and whatever other widgets there
are, says at once that it is ready, and takes its course. One that plays nothing plays as soon as
it is told to, for a fixed time, and ends. One that runs a player plays when the player could be
started, for as long as the player runs; it ends if the player exits with status zero and fails
with any other exit. -/
theorem widgets_take_their_course :
    (∀ (m : DryRun.Memory) (session : Session) (spec : WidgetSpec),
      session ∉ m.lives.map Prod.fst →
      let made := DryRun.provider.create m session spec
      made.sent = [⟨session, .ready⟩] ∧ made.result = .ok spec.identifier ∧
        Course session (DryRun.handle session) (fun _ => .ok ⟨m.duration, .changed .ended⟩) made) ∧
    (∀ (launch : External.Launch) (m : External.Memory) (session : Session) (spec : WidgetSpec),
      session ∉ m.lives.map Prod.fst →
      let made := (External.provider launch).create m session spec
      made.sent = [⟨session, .ready⟩] ∧ made.result = .ok spec.identifier ∧
        Course session (External.handle session)
          (External.starts m.settings.command (m.settings.argumentsFor spec)) made) ∧
    ∀ exit, (exit = .status 0 ∧ External.exitReport exit = .changed .ended) ∨
      (exit ≠ .status 0 ∧ ∃ reason, External.exitReport exit = .failed reason) := by
  refine ⟨fun m session spec hfresh => ⟨rfl, rfl, ?_⟩,
    fun launch m session spec hfresh => ⟨rfl, rfl, ?_⟩, External.exitReport_cases⟩
  · refine (DryRun.follows session m.duration).course ⟨rfl, .waiting ?_⟩ rfl
    rw [DryRun.provider, entriesOf_concat_self, entriesOf_eq_nil hfresh]
    rfl
  · refine (External.follows session m.settings _).course ⟨rfl, .waiting ?_⟩ rfl
    rw [External.provider, entriesOf_concat_self, entriesOf_eq_nil hfresh]
    rfl

/-- A player that could not be started at first and then exits with another status than zero, and a
widget that plays nothing and is dropped before its time is over. -/
theorem courses_of_second_try_and_drop :
    let fails : External.Launch := fun _ _ => .error (.system .noSuchFile)
    let runs : External.Launch := fun _ _ => .ok (.exiting 20 3)
    let m : External.Memory := { settings := {}, lives := [(1, .gone)] }
    let made := (External.provider fails).create m 2 { identifier := "a" }
    let silent : DryRun.Memory := { duration := 5 }
    let quiet := DryRun.provider.create silent 1 { identifier := "b" }
    (2 ∉ m.lives.map Prod.fst ∧ 1 ∉ silent.lives.map Prod.fst) ∧
      (External.handle 2).heard 2 made
          ([.play fails] ++ .play runs :: [.play runs, .wait 10, .wait 15]) =
        [.ready, .changed .playing, .failed "player exited with exit status: 3"] ∧
      (DryRun.handle 1).heard 1 quiet ([] ++ .play () :: [.wait 4] ++ .drop :: [.wait 9]) =
        [.ready, .changed .playing] := by
  intro fails runs m made silent quiet
  have hm : 2 ∉ m.lives.map Prod.fst := by decide
  have hsilent : 1 ∉ silent.lives.map Prod.fst := by decide
  obtain ⟨hdry, hexternal, -⟩ := widgets_take_their_course
  have hplayer := (hexternal fails m 2 { identifier := "a" } hm).2.2
  have hnothing := (hdry silent 1 { identifier := "b" } hsilent).2.2
  refine ⟨⟨hm, hsilent⟩, ?_, ?_⟩
  · refine hplayer.ends [.play fails] runs ⟨20, .failed "player exited with exit status: 3"⟩
      [.play runs, .wait 10, .wait 15] (by simp) ?_ rfl (by simp) ⟨10, by simp⟩ (by decide)
    intro given hmem showing hstarts
    obtain rfl : given = fails := by simpa using hmem
    cases hstarts
  · rw [hnothing.quiet]
    exact hnothing.playsOn [] () ⟨5, .changed .ended⟩ [.wait 4] (by simp) (by simp [Use.Fruitless])
      rfl (by simp) fun _ => by decide

end Jukebox
