import Jukebox.Proofs.History
import Jukebox.Proofs.Playback.Trail
import Jukebox.Widget.DryRun
import Mathlib.Data.List.Induction

/-!
# Late reports

A session is gone once its widget was dropped, or was refused in the first place. Reports of it may
still come: they wait in line while their widget is replaced, and a provider may speak in the name
of any session. The main result is `late_reports_change_nothing`: a session that is gone is never
mounted again, so reports of it can be put into a run at any later places without any effect.

What rules this out is an invariant on all sessions ever used (`Bygone`), not only the look at what
is mounted when a report arrives: sessions that are gone lie behind, and the mounted one is none of
them.
-/

namespace Jukebox

variable {σ : Type}

/-! ## Sessions that are gone -/

/-- The session that goes in an act: its widget is dropped, or refused. -/
def Act.gone? : Act → Option Session
  | drop widget => some widget.session
  | create session _ false => some session
  | _ => none

/-- The sessions that are gone, in order. -/
abbrev gone (acts : List Act) : List Session := acts.filterMap Act.gone?

theorem gone_append (acts more : List Act) : gone (acts ++ more) = gone acts ++ gone more :=
  List.filterMap_append

/-- The session in which the provider is asked for something in an act, if it is asked. -/
def Act.asks? : Act → Option Session
  | create session _ _ => some session
  | play widget | drop widget => some widget.session
  | announce _ => none

/-- The sessions that the provider was asked for anything in, in order. -/
abbrev used (acts : List Act) : List Session := acts.filterMap Act.asks?

theorem gone_concat {acts : List Act} {act : Act} (h : act.gone? = none) :
    gone (acts ++ [act]) = gone acts := by
  rw [gone_append, gone, gone, List.filterMap_cons_none h, List.filterMap_nil, List.append_nil]

theorem mem_gone_concat {acts : List Act} {act : Act} {session : Session} :
    session ∈ gone (acts ++ [act]) ↔ session ∈ gone acts ∨ act.gone? = some session := by
  simp [gone]

theorem mem_used_concat {acts : List Act} {act : Act} {session : Session} :
    session ∈ used (acts ++ [act]) ↔ session ∈ used acts ∨ act.asks? = some session := by
  simp [used]

/-- Nothing is asked of the provider in a session that is gone. -/
def Spares (before : List Act) (act : Act) : Prop :=
  ∀ session, act.asks? = some session → session ∉ gone before

/-- All sessions that are gone lie behind, the mounted one is not gone, all others that were used
are, and nothing was ever asked of the provider in a session that was gone. -/
structure Bygone (acts : List Act) (mounted : Option Mounted) (next : Session) : Prop where
  spared : Throughout Spares acts
  past : ∀ session ∈ gone acts, session < next
  present : ∀ widget, mounted = some widget →
    widget.session < next ∧ widget.session ∉ gone acts
  others : ∀ session ∈ used acts, mounted.map Mounted.session ≠ some session → session ∈ gone acts

namespace Bygone

variable {acts : List Act} {mounted : Option Mounted} {widget : Mounted} {next : Session}

theorem nil : Bygone [] none 1 := ⟨.nil, by simp, by simp, by simp⟩

/-- An act may follow if it ends no session and asks in none but the mounted one. -/
theorem concat (h : Bygone acts mounted next) {act : Act} (hgone : act.gone? = none)
    (hasks : ∀ session, act.asks? = some session → mounted.map Mounted.session = some session) :
    Bygone (acts ++ [act]) mounted next := by
  have hsame : gone (acts ++ [act]) = gone acts := gone_concat hgone
  refine ⟨h.spared.concat ?_, hsame ▸ h.past, hsame ▸ h.present, ?_⟩
  · intro session heq
    obtain ⟨widget, hwidget, rfl⟩ := Option.map_eq_some_iff.1 (hasks session heq)
    exact (h.present widget hwidget).2
  · intro session hmem hne
    rw [hsame]
    exact h.others session ((mem_used_concat.1 hmem).resolve_right fun heq => hne (hasks _ heq)) hne

theorem drop (h : Bygone acts (some widget) next) : Bygone (acts ++ [.drop widget]) none next where
  spared := h.spared.concat <| by
    rintro session ⟨⟩
    exact (h.present widget rfl).2
  past session hmem := by
    rcases mem_gone_concat.1 hmem with hmem | heq
    · exact h.past session hmem
    · exact Option.some.inj heq ▸ (h.present widget rfl).1
  present := by simp
  others session hmem _ := by
    rw [mem_gone_concat]
    -- the dropped session is gone by this act, and any other one was gone before
    by_cases hsame : widget.session = session
    · exact .inr (congrArg some hsame)
    · have hused := (mem_used_concat.1 hmem).resolve_right fun heq => hsame (Option.some.inj heq)
      exact .inl (h.others session hused fun heq => hsame (Option.some.inj heq))

/-- A session that is gone is not mounted. -/
theorem mounted_ne (h : Bygone acts mounted next) {session : Session}
    (hgone : session ∈ gone acts) : mounted.map Mounted.session ≠ some session := by
  intro hmounted
  obtain ⟨widget, hwidget, rfl⟩ := Option.map_eq_some_iff.1 hmounted
  exact (h.present widget hwidget).2 hgone

/-- The session that comes next is not gone. -/
theorem next_notMem_gone (h : Bygone acts mounted next) : next ∉ gone acts :=
  fun hmem => Nat.lt_irrefl _ (h.past next hmem)

theorem accepted (h : Bygone acts none next) (spec : WidgetSpec) (name : String) :
    Bygone (acts ++ [.create next spec true]) (some ⟨next, name⟩) (next + 1) := by
  have hsame : gone (acts ++ [.create next spec true]) = gone acts := gone_concat rfl
  refine ⟨h.spared.concat ?_, ?_, ?_, ?_⟩
  · rintro session ⟨⟩
    exact h.next_notMem_gone
  · rw [hsame]
    exact fun session hmem => Nat.lt_succ_of_lt (h.past session hmem)
  · rintro widget ⟨⟩
    exact ⟨Nat.lt_succ_self next, hsame ▸ h.next_notMem_gone⟩
  · intro session hmem hne
    rw [hsame]
    exact h.others session ((mem_used_concat.1 hmem).resolve_right hne) (by simp)

theorem refused (h : Bygone acts none next) (spec : WidgetSpec) :
    Bygone (acts ++ [.create next spec false]) none (next + 1) where
  spared := h.spared.concat <| by
    rintro session ⟨⟩
    exact h.next_notMem_gone
  past session hmem := by
    rcases mem_gone_concat.1 hmem with hmem | heq
    · exact Nat.lt_succ_of_lt (h.past session hmem)
    · exact Option.some.inj heq ▸ Nat.lt_succ_self next
  present := by simp
  others session hmem _ := by
    rw [mem_gone_concat]
    exact (mem_used_concat.1 hmem).imp (fun hmem => h.others session hmem (by simp)) id

end Bygone

theorem Trail.bygone {acts : List Act} {mounted : Option Mounted} {next : Session}
    (h : Trail acts mounted next) : Bygone acts mounted next := by
  induction h with
  | nil => exact .nil
  | announce _ notice ih => exact ih.concat rfl (by simp [Act.asks?])
  | play _ ih => exact ih.concat rfl (by simp [Act.asks?])
  | drop _ ih => exact ih.drop
  | accepted _ spec name ih => exact ih.accepted spec name
  | refused _ spec ih => exact ih.refused spec

/-! ## Reports that do not count -/

namespace Playback

/-- A report of a session that is not mounted has no effect. -/
theorem receive_of_ne (P : Provider σ) {callback : Callback} {p : Playback σ}
    (h : p.mounted.map Mounted.session ≠ some callback.session) :
    p.receive P callback = p.unchanged := by
  rw [receive]
  split
  · rfl
  · rename_i widget hmounted
    rw [hmounted, Option.map_some] at h
    rw [if_neg fun heq => h (congrArg some heq)]

end Playback

namespace Op

/-- An entry in a run: an operation of its own, or a report that came late. -/
inductive Entry (σ : Type)
  | own (op : Op σ)
  | late (callback : Callback)

/-- The operation in an entry, unless it is a late report. -/
def Entry.own? : Entry σ → Option (Op σ)
  | own op => some op
  | late _ => none

/-- What an entry makes playback do. -/
def Entry.op : Entry σ → Op σ
  | own op => op
  | late callback => .receive callback

/-- The run without the late reports. -/
def without (entries : List (Entry σ)) : List (Op σ) := entries.filterMap Entry.own?

/-- The run in which the late reports are received too. -/
def withLate (entries : List (Entry σ)) : List (Op σ) := entries.map Entry.op

theorem without_concat (entries : List (Entry σ)) (entry : Entry σ) :
    without (entries ++ [entry]) = without entries ++ entry.own?.toList := by
  cases entry <;> simp [without, Entry.own?]

theorem withLate_concat (entries : List (Entry σ)) (entry : Entry σ) :
    withLate (entries ++ [entry]) = withLate entries ++ [entry.op] :=
  List.map_append

variable {P : Provider σ} {layout : Layout} {memory : σ}

theorem gone_run_append {ops : List (Op σ)} {session : Session}
    (h : session ∈ gone (run P ops { layout, memory }).acts) (more : List (Op σ)) :
    session ∈ gone (run P (ops ++ more) { layout, memory }).acts := by
  rw [run_append, Outcome.acts_andThen, gone_append]
  exact List.mem_append_left _ h

/-- Of the sessions that were used, those are gone that are not mounted. -/
theorem mem_gone_iff {ops : List (Op σ)} {session : Session}
    (h : session ∈ used (run P ops { layout, memory }).acts) :
    session ∈ gone (run P ops { layout, memory }).acts ↔
      (run P ops { layout, memory }).playback.mounted.map Mounted.session ≠ some session := by
  have hbygone := (trail_run P layout memory ops).bygone
  exact ⟨hbygone.mounted_ne, hbygone.others session h⟩

/-- Once a session is gone, nothing that is done later asks the provider for anything in it. -/
theorem asks_ne_of_gone {ops : List (Op σ)} {session : Session}
    (h : session ∈ gone (run P ops { layout, memory }).acts) (more : List (Op σ)) :
    ∀ act ∈ (run P more (run P ops { layout, memory }).playback).acts,
      act.asks? ≠ some session := by
  intro act hmem hasks
  obtain ⟨before, after, hsplit⟩ := List.append_of_mem hmem
  have hspared := (trail_run P layout memory (ops ++ more)).bygone.spared
  rw [run_append, Outcome.acts_andThen, hsplit, ← List.append_assoc] at hspared
  refine hspared _ act after rfl session hasks ?_
  rw [gone_append]
  exact List.mem_append_left _ h

/-- A report of a session that is not mounted where a run ends adds nothing to the run. -/
theorem andThen_receive_of_ne {callback : Callback} {o : Outcome σ}
    (h : o.playback.mounted.map Mounted.session ≠ some callback.session) :
    o.andThen (run P [.receive callback]) = o := by
  simp [Outcome.andThen, apply, Playback.receive_of_ne P h, Playback.unchanged]

/-- Late reports have no effect along a run, if each is of a session that was gone before. -/
theorem run_withLate (entries : List (Entry σ))
    (hgone : ∀ before callback after, entries = before ++ .late callback :: after →
      callback.session ∈ gone (run P (without before) { layout, memory }).acts) :
    run P (withLate entries) { layout, memory } = run P (without entries) { layout, memory } := by
  -- the induction takes off the last entry, since what is gone is decided by those in front of it
  induction entries using List.reverseRecOn with
  | nil => rfl
  | append_singleton entries entry ih =>
    have hsame := ih fun before callback after hsplit =>
      hgone before callback (after ++ [entry]) (by rw [hsplit, List.append_assoc, List.cons_append])
    rw [withLate_concat, without_concat, run_append, run_append, hsame]
    cases entry with
    | own op => rfl
    | late callback =>
      have hbygone := (trail_run P layout memory (without entries)).bygone
      rw [Entry.op, andThen_receive_of_ne (hbygone.mounted_ne (hgone entries callback [] rfl))]
      exact (andThen_unchanged _).symm

end Op

/-! ## The main result -/

/-- In every run, whatever the provider answers: a report counts only if its session is the mounted
one, and otherwise leaves everything as it is. Of the sessions that were used, all are gone but the
mounted one. A session that is gone is never mounted again, and the provider is never again asked to
make, play or drop a widget in it. So a run into which reports of sessions that were gone by then
were put, at any places and in any number, goes as without them, up to each of its places. -/
theorem late_reports_change_nothing (P : Provider σ) (layout : Layout) (memory : σ) :
    let start : Playback σ := { layout, memory }
    (∀ ops callback, let p := (Op.run P ops start).playback
      p.mounted.map Mounted.session ≠ some callback.session →
        p.receive P callback = p.unchanged) ∧
      (∀ ops, let o := Op.run P ops start
        (∀ session ∈ used o.acts, session ∈ gone o.acts ↔
          o.playback.mounted.map Mounted.session ≠ some session) ∧
        ∀ session ∈ gone o.acts, ∀ more, let later := Op.run P more o.playback
          later.playback.mounted.map Mounted.session ≠ some session ∧
            ∀ act ∈ later.acts, act.asks? ≠ some session) ∧
      ∀ entries : List (Op.Entry σ),
        (∀ before callback after, entries = before ++ .late callback :: after →
          callback.session ∈ gone (Op.run P (Op.without before) start).acts) →
        ∀ before after, entries = before ++ after →
          Op.run P (Op.withLate before) start = Op.run P (Op.without before) start := by
  intro start
  refine ⟨fun ops callback hne => Playback.receive_of_ne P hne, ?_, ?_⟩
  · intro ops o
    refine ⟨fun session hused => Op.mem_gone_iff hused, fun session hgone more => ?_⟩
    have hlater := (Op.trail_run P layout memory (ops ++ more)).bygone.mounted_ne
      (Op.gone_run_append hgone more)
    rw [Op.run_append] at hlater
    exact ⟨hlater, Op.asks_ne_of_gone hgone more⟩
  · intro entries hgone before after hsplit
    refine Op.run_withLate before fun earlier callback later hearlier => ?_
    refine hgone earlier callback (later ++ after) ?_
    rw [hsplit, hearlier, List.append_assoc, List.cons_append]

/-- The widget of the first session is skipped, and the end and a failure of it are reported while
the second one plays: the second goes on as if nothing had been reported. -/
theorem second_unmoved_by_first :
    let entries : List (Op.Entry DryRun.Memory) :=
      [.own (.enqueue "a"), .own (.enqueue "b"), .own .tick, .own .skip,
        .late ⟨1, .changed .ended⟩, .own (.receive ⟨2, .ready⟩), .late ⟨1, .failed "late"⟩]
    let start : Playback DryRun.Memory := { memory := { duration := 5 } }
    1 ∈ gone (Op.run DryRun.provider (Op.without (entries.take 4)) start).acts ∧
      Op.run DryRun.provider (Op.withLate entries) start =
        Op.run DryRun.provider (Op.without entries) start ∧
      (Op.run DryRun.provider (Op.withLate entries) start).playback.mounted = some ⟨2, "b"⟩ := by
  intro entries start
  refine ⟨by decide, ?_, by decide⟩
  refine (late_reports_change_nothing DryRun.provider {} { duration := 5 }).2.2 entries ?_ entries
    [] (List.append_nil entries).symm
  intro before callback after hsplit
  simp only [entries, List.cons_eq_append_iff, List.cons.injEq, reduceCtorEq, false_and, and_false,
    Op.Entry.late.injEq, List.nil_eq, List.append_eq_nil_iff, exists_const, or_false, ↓existsAndEq,
    true_and, false_or] at hsplit
  -- only the fifth entry and the last one came late
  obtain ⟨more, rfl, ⟨rfl, rfl, -⟩ | ⟨rfl, rfl, -⟩⟩ := hsplit
  · decide
  · decide

end Jukebox
