import Jukebox.Player.Loop
import Jukebox.Proofs.Player.Draining

/-!
# Three ways to handle what waits

What waits can be handled all at once (`Player.drain`), one input at a time as long as one waits
(`Player.handleNext?`), or by the loop in which the player lives (`Player.loop`). The main result is
`drivers_agree`: where handling what waits comes to an end, all three take the same inputs out of
the line in the same order, are at the same state after each of them, and end alike. Told to stop,
whenever that is, the loop has handled a beginning of that, and its end only drops the mounted
widget and publishes that nothing plays.

The three are compared with `Player.Takes`, in which inputs are taken out of the line one by one and
what widgets send while one is handled goes behind everything that waits. With inputs that arrive
meanwhile the loop is a run of the player, and ends where the run leads (`loop_eq_run`).
-/

namespace Jukebox

variable {σ : Type}

/-- An input that was taken out of the line, what was done when it was handled, and what widgets
sent meanwhile. -/
structure Taken where
  input : Input
  acts : List Act
  sent : List Callback
  deriving Repr, DecidableEq

/-- What a look is in a run: the inputs that have arrived join the line, and the next one in line is
handled. -/
def Look.steps (l : Look) : List (Player.Step σ) := l.arrived.map .post ++ [.next]

namespace Player

/-- What widgets send while an input is handled. An input that is passed over reaches none. -/
def sentBy (P : Provider σ) (input : Input) (p : Player σ) : List Callback :=
  if p.isStale input then [] else (onPlayback P input p.playback).sent

/-- Inputs are taken out of the line and handled, each to its end before the next is taken. -/
inductive Takes (P : Provider σ) (connector : Connector) :
    Player σ → List Taken → Player σ → Prop
  | nil (p : Player σ) : Takes P connector p [] p
  | cons {p q : Player σ} {input : Input} {inbox : List Input} {taken : List Taken}
      (hinbox : p.inbox = input :: inbox)
      (rest : Takes P connector (handle P connector input { p with inbox }).1 taken q) :
      Takes P connector p
        (⟨input, (handle P connector input { p with inbox }).2, sentBy P input { p with inbox }⟩ ::
          taken) q

/-- The next waiting input is handled, and so on `n` times; `none` if there are not so many. -/
def nexts (P : Provider σ) (connector : Connector) :
    (n : Nat) → Player σ → Option (Player σ × List Act)
  | 0, p => some (p, [])
  | n + 1, p =>
    match p.handleNext? P connector with
    | none => none
    | some (p, acts) => (nexts P connector n p).map fun later => (later.1, acts ++ later.2)

variable {P : Provider σ} {connector : Connector} {p q : Player σ} {taken : List Taken}

/-! ## One input, one look -/

theorem handleNext?_of_nil (hinbox : p.inbox = []) : p.handleNext? P connector = none := by
  rw [handleNext?, hinbox]

theorem handleNext?_of_cons {input : Input} {inbox : List Input}
    (hinbox : p.inbox = input :: inbox) :
    p.handleNext? P connector = some (handle P connector input { p with inbox }) := by
  rw [handleNext?, hinbox]

theorem inbox_handle_eq_append (P : Provider σ) (connector : Connector) (input : Input)
    (p : Player σ) :
    (handle P connector input p).1.inbox = p.inbox ++ (p.sentBy P input).map .widget := by
  cases hstale : p.isStale input with
  | true => simp [handle_of_stale hstale, sentBy, hstale]
  | false => simp [inbox_handle hstale, sentBy, hstale]

section Look

variable {l : Look}

theorem look_of_stop (harrived : l.arrived = [])
    (hstop : (l.told && (l.stopFirst || p.inbox.isEmpty)) = true) :
    p.look P connector l = (.ended (p.shutdown P).1, (p.shutdown P).2) := by
  simp only [look, harrived, List.append_nil]
  rw [if_pos hstop]

theorem look_of_cons (harrived : l.arrived = [])
    (hstop : (l.told && (l.stopFirst || p.inbox.isEmpty)) = false) {input : Input}
    {inbox : List Input} (hinbox : p.inbox = input :: inbox) :
    p.look P connector l =
      (.going (handle P connector input { p with inbox }).1,
        (handle P connector input { p with inbox }).2) := by
  simp only [look, harrived, List.append_nil]
  rw [if_neg (by simp [hstop]), handleNext?_of_cons hinbox]

theorem look_of_nil (harrived : l.arrived = []) (htold : l.told = false) (hinbox : p.inbox = []) :
    p.look P connector l = (.going p, []) := by
  simp only [look, harrived, List.append_nil]
  rw [if_neg (by simp [htold]), handleNext?_of_nil hinbox]

end Look

theorem loop_cons_of_going {l : Look} {r : Player σ} {acts : List Act}
    (h : p.look P connector l = (.going r, acts)) (looks : List Look) :
    p.loop P connector (l :: looks) =
      ((r.loop P connector looks).1, acts ++ (r.loop P connector looks).2) := by
  rw [loop, h]

theorem loop_cons_of_ended {l : Look} {r : Player σ} {acts : List Act}
    (h : p.look P connector l = (.ended r, acts)) (looks : List Look) :
    p.loop P connector (l :: looks) = (.ended r, acts) := by
  rw [loop, h]

/-- A loop that still goes on goes on with later looks. -/
theorem loop_append {r : Player σ} {acts : List Act} {looks : List Look}
    (h : p.loop P connector looks = (.going r, acts)) (later : List Look) :
    p.loop P connector (looks ++ later) =
      ((r.loop P connector later).1, acts ++ (r.loop P connector later).2) := by
  induction looks generalizing p acts with
  | nil =>
    obtain ⟨rfl, rfl⟩ : p = r ∧ [] = acts := by simpa [loop] using h
    rfl
  | cons l looks ih =>
    cases hlook : p.look P connector l with
    | mk next first =>
      cases next with
      | ended q =>
        rw [loop_cons_of_ended hlook] at h
        cases h
      | going q =>
        rw [loop_cons_of_going hlook] at h
        obtain ⟨hnext, rfl⟩ := Prod.mk.inj h
        rw [List.cons_append, loop_cons_of_going hlook, ih (Prod.ext hnext rfl),
          List.append_assoc]

/-! ## One by one -/

namespace Takes

/-- What was taken, and what is left, is what waited and what was sent, in this order. -/
theorem line (h : p.Takes P connector taken q) :
    taken.map Taken.input ++ q.inbox =
      p.inbox ++ (taken.flatMap Taken.sent).map .widget := by
  induction h with
  | nil p => simp
  | cons hinbox rest ih =>
    rw [List.map_cons, List.cons_append, ih, hinbox, inbox_handle_eq_append]
    simp

theorem of_append {before after : List Taken} (h : p.Takes P connector (before ++ after) q) :
    ∃ r, p.Takes P connector before r ∧ r.Takes P connector after q := by
  induction before generalizing p with
  | nil => exact ⟨p, .nil p, h⟩
  | cons entry before ih =>
    cases h with
    | cons hinbox rest =>
      obtain ⟨r, hbefore, hafter⟩ := ih rest
      exact ⟨r, .cons hinbox hbefore, hafter⟩

/-- To handle all at once is to handle some one by one and then the others. -/
theorem drain_add (h : p.Takes P connector taken q) (more : Nat) :
    p.drain P connector (taken.length + more) =
      ((q.drain P connector more).1,
        taken.flatMap Taken.acts ++ (q.drain P connector more).2.1,
        taken.length + (q.drain P connector more).2.2) := by
  induction h with
  | nil p => simp
  | cons hinbox rest ih =>
    rw [List.length_cons, Nat.add_right_comm, Player.drain, handleNext?_of_cons hinbox]
    simp only [ih, List.flatMap_cons, List.append_assoc, Nat.add_right_comm]

theorem drain (h : p.Takes P connector taken q) :
    p.drain P connector taken.length = (q, taken.flatMap Taken.acts, taken.length) := by
  simpa [Player.drain] using h.drain_add 0

/-- When nothing is left in the line, a higher limit changes nothing. -/
theorem drain_of_done (h : p.Takes P connector taken q) (hdone : q.inbox = []) (more : Nat) :
    p.drain P connector (taken.length + more) =
      (q, taken.flatMap Taken.acts, taken.length) := by
  have hnothing : q.drain P connector more = (q, [], 0) := Drains.nil hdone more
  simp [h.drain_add, hnothing]

theorem end_unique {r : Player σ} (hq : p.Takes P connector taken q)
    (hr : p.Takes P connector taken r) : q = r :=
  congrArg Prod.fst (hq.drain.symm.trans hr.drain)

theorem nexts_add (h : p.Takes P connector taken q) (more : Nat) :
    p.nexts P connector (taken.length + more) =
      (q.nexts P connector more).map fun later =>
        (later.1, taken.flatMap Taken.acts ++ later.2) := by
  induction h with
  | nil p => simp
  | cons hinbox rest ih =>
    rw [List.length_cons, Nat.add_right_comm, Player.nexts, handleNext?_of_cons hinbox]
    simp only [ih, Option.map_map, List.flatMap_cons, List.append_assoc, Function.comp_def]

theorem nexts (h : p.Takes P connector taken q) :
    p.nexts P connector taken.length = some (q, taken.flatMap Taken.acts) := by
  simpa [Player.nexts] using h.nexts_add 0

/-- When nothing is left in the line, there is no next input. -/
theorem nexts_of_done (h : p.Takes P connector taken q) (hdone : q.inbox = []) (more : Nat) :
    p.nexts P connector (taken.length + more + 1) = none := by
  rw [Nat.add_assoc, h.nexts_add, Player.nexts, handleNext?_of_nil hdone, Option.map_none]

/-- Whatever the limit, some inputs are taken. -/
theorem exists_of_drain (P : Provider σ) (connector : Connector) (limit : Nat) (p : Player σ) :
    ∃ taken, p.Takes P connector taken (p.drain P connector limit).1 := by
  induction limit generalizing p with
  | zero => exact ⟨[], .nil p⟩
  | succ limit ih =>
    cases hinbox : p.inbox with
    | nil =>
      rw [Player.drain, handleNext?_of_nil hinbox]
      exact ⟨[], .nil p⟩
    | cons input inbox =>
      obtain ⟨taken, rest⟩ := ih (handle P connector input { p with inbox }).1
      rw [Player.drain, handleNext?_of_cons hinbox]
      exact ⟨_, .cons hinbox rest⟩

/-- The loop, when nobody puts anything in the line: as long as it goes on it takes one input a
look, and each look at which it was told to stop has taken one. It comes to its end behind a
beginning of what there is to take. -/
theorem loop (h : p.Takes P connector taken q) (hdone : q.inbox = []) {looks : List Look}
    (hlooks : ∀ l ∈ looks, l.arrived = []) :
    ∃ before after r, taken = before ++ after ∧ p.Takes P connector before r ∧
      (p.loop P connector looks = (.going r, before.flatMap Taken.acts) ∧
          before.length = min looks.length taken.length ∧ looks.countP Look.told ≤ before.length ∨
        p.loop P connector looks =
            (.ended (r.shutdown P).1, before.flatMap Taken.acts ++ (r.shutdown P).2) ∧
          ∃ l ∈ looks, l.told = true) := by
  -- the induction is on the looks, since the last of them may find nothing in the line
  induction looks generalizing p taken with
  | nil => exact ⟨[], taken, p, rfl, .nil p, .inl ⟨rfl, by simp, by simp⟩⟩
  | cons l looks ih =>
    have harrived : l.arrived = [] := hlooks l List.mem_cons_self
    have hlater : ∀ l ∈ looks, l.arrived = [] := fun l hl => hlooks l (List.mem_cons_of_mem _ hl)
    cases hstop : l.told && (l.stopFirst || p.inbox.isEmpty) with
    | true =>
      have htold : l.told = true := (Bool.and_eq_true_iff.1 hstop).1
      exact ⟨[], taken, p, rfl, .nil p,
        .inr ⟨loop_cons_of_ended (look_of_stop harrived hstop) looks, l, List.mem_cons_self, htold⟩⟩
    | false =>
      cases h with
      | nil =>
        have htold : l.told = false := by simpa [hdone] using hstop
        obtain ⟨before, after, r, hsplit, hbefore, hloop⟩ := ih (.nil q) hlater
        obtain ⟨rfl, rfl⟩ := List.append_eq_nil_iff.1 hsplit.symm
        refine ⟨[], [], r, rfl, hbefore, ?_⟩
        rw [loop_cons_of_going (look_of_nil harrived htold hdone)]
        rcases hloop with ⟨hloop, -, htimes⟩ | ⟨hloop, l', hl', htold'⟩
        · exact .inl ⟨by rw [hloop]; rfl, by simp, by simpa [htold] using htimes⟩
        · exact .inr ⟨by rw [hloop]; rfl, l', List.mem_cons_of_mem _ hl', htold'⟩
      | cons hinbox rest =>
        obtain ⟨before, after, r, rfl, hbefore, hloop⟩ := ih rest hlater
        refine ⟨_ :: before, after, r, rfl, .cons hinbox hbefore, ?_⟩
        rw [loop_cons_of_going (look_of_cons harrived hstop hinbox)]
        rcases hloop with ⟨hloop, hlength, htimes⟩ | ⟨hloop, l', hl', htold'⟩
        · have hcount : (l :: looks).countP Look.told ≤ looks.countP Look.told + 1 := by
            rw [List.countP_cons]
            split <;> omega
          refine .inl ⟨by simp [hloop], ?_, ?_⟩
          · simp only [List.length_cons, List.length_append] at hlength ⊢
            omega
          · rw [List.length_cons]
            omega
        · exact .inr ⟨by simp [hloop], l', List.mem_cons_of_mem _ hl', htold'⟩

/-- The loop that is not told to stop takes one input a look. -/
theorem loop_of_quiet {before after : List Taken} {r : Player σ}
    (h : p.Takes P connector (before ++ after) q) (hdone : q.inbox = [])
    (hbefore : p.Takes P connector before r) {looks : List Look}
    (hlooks : ∀ l ∈ looks, l.arrived = [] ∧ l.told = false)
    (hlength : before.length = min looks.length (before ++ after).length) :
    p.loop P connector looks = (.going r, before.flatMap Taken.acts) := by
  obtain ⟨before', after', r', hsplit, hbefore', hloop⟩ :=
    h.loop hdone fun l hl => (hlooks l hl).1
  rcases hloop with ⟨hloop, hlength', -⟩ | ⟨-, l, hl, htold⟩
  · -- a beginning is known by its length, and what is reached by the beginning
    obtain ⟨rfl, -⟩ := List.append_inj hsplit (hlength.trans hlength'.symm)
    rw [hbefore.end_unique hbefore']
    exact hloop
  · exact absurd htold (by simp [(hlooks l hl).2])

end Takes

/-! ## With inputs that arrive meanwhile -/

theorem run_posts (P : Provider σ) (connector : Connector) (inputs : List Input) (p : Player σ) :
    run P connector (inputs.map .post) p = ({ p with inbox := p.inbox ++ inputs }, []) := by
  induction inputs generalizing p with
  | nil => simp [run]
  | cons input inputs ih => simp [run, Step.apply, post, ih]

/-- A look at which the player does not come to its end. -/
theorem look_eq_run {l : Look}
    (hstop : (l.told && (l.stopFirst || (p.inbox ++ l.arrived).isEmpty)) = false) :
    p.look P connector l =
      (.going (run P connector l.steps p).1, actsOf (run P connector l.steps p).2) := by
  rw [Look.steps, run_append, run_posts, look]
  simp only
  rw [if_neg (by simp [hstop])]
  cases hinbox : p.inbox ++ l.arrived with
  | nil => simp [handleNext?, run, Step.apply]
  | cons input inbox => simp [handleNext?, run, Step.apply, note]

/-- The loop, with inputs that arrive at any looks: it goes on as a run does that takes one input a
look, and comes to its end where such a run leads. -/
theorem loop_eq_run (P : Provider σ) (connector : Connector) (looks : List Look) (p : Player σ) :
    (∃ r journal, run P connector (looks.flatMap Look.steps) p = (r, journal) ∧
        p.loop P connector looks = (.going r, actsOf journal)) ∨
      ∃ before l after, looks = before ++ l :: after ∧ l.told = true ∧
        ∃ r journal,
          run P connector (before.flatMap Look.steps ++ l.arrived.map .post) p = (r, journal) ∧
            p.loop P connector looks =
              (.ended (r.shutdown P).1, actsOf journal ++ (r.shutdown P).2) := by
  induction looks generalizing p with
  | nil => exact .inl ⟨p, [], rfl, rfl⟩
  | cons l looks ih =>
    cases hstop : l.told && (l.stopFirst || (p.inbox ++ l.arrived).isEmpty) with
    | true =>
      have htold : l.told = true := (Bool.and_eq_true_iff.1 hstop).1
      refine .inr ⟨[], l, looks, rfl, htold, _, _, run_posts P connector l.arrived p, ?_⟩
      simp [loop, look, hstop]
    | false =>
      have hlook : p.look P connector l = _ := look_eq_run hstop
      let first := (run P connector l.steps p).2
      rcases ih (run P connector l.steps p).1 with
        ⟨r, journal, hrun, hloop⟩ | ⟨before, l', after, rfl, htold, r, journal, hrun, hloop⟩
      · refine .inl ⟨r, first ++ journal, ?_, ?_⟩
        · rw [List.flatMap_cons, run_append, hrun]
        · rw [loop_cons_of_going hlook, hloop, actsOf_append]
      · refine .inr ⟨l :: before, l', after, rfl, htold, r, first ++ journal, ?_, ?_⟩
        · rw [List.flatMap_cons, List.append_assoc, run_append, hrun]
        · rw [loop_cons_of_going hlook, hloop, actsOf_append, List.append_assoc]

/-! ## The end -/

/-- At its end the player drops the mounted widget, if there is one, and does nothing else. Nothing
plays then, the queue and the connection are as they were, and this is published. -/
theorem shutdown_eq (P : Provider σ) (p : Player σ) :
    ∃ memory inbox,
      p.shutdown P =
        ({ p with
            playback := { p.playback with mounted := none, playing := false, memory }
            inbox
            published := { p.status with playing := false, nowPlaying := none }
            publications := p.publications + 1 },
          (p.playback.mounted.map Act.drop).toList) := by
  obtain ⟨memory, sent, hdown⟩ := Playback.teardown_eq P p.playback
  refine ⟨memory, p.inbox ++ sent.map .widget, ?_⟩
  rw [shutdown, Playback.stop, hdown]
  simp [Outcome.andThen, Playback.unchanged, Playback.drops, publish, status, statusOf]

end Player

/-! ## The main result -/

/-- From any state of the player, with whatever waits and with any widgets: if handling what waits
comes to an end, there are certain inputs to take, namely those that wait and behind them those that
widgets send meanwhile, in this order. At every beginning of them, handling all at once, one at a
time, and the loop as long as it is not told to stop have done the same and are at the same state,
and the count is right. When they are all taken, a higher limit changes nothing, there is no next
one, and looking on changes nothing. Told to stop before it looks for an input, or when nothing
waits, the loop comes to its end there.

Told to stop whenever it may be, the loop goes on for as many looks at most as there are inputs, and
has taken a beginning of them when it comes to its end. Its end, from whatever state, drops the
mounted widget if there is one and does nothing else. The queue and the connection stay, and what is
published once then is the status of before with nothing playing, which is also that of after. -/
theorem drivers_agree (P : Provider σ) (connector : Connector) (p : Player σ)
    (hends : ∃ limit, (p.drain P connector limit).1.inbox = []) :
    (∃ taken q, p.Takes P connector taken q ∧ q.inbox = [] ∧
      taken.map Taken.input = p.inbox ++ (taken.flatMap Taken.sent).map .widget ∧
      (∀ before after, taken = before ++ after →
        ∃ r, p.Takes P connector before r ∧ r.Takes P connector after q ∧
          p.drain P connector before.length = (r, before.flatMap Taken.acts, before.length) ∧
          p.nexts P connector before.length = some (r, before.flatMap Taken.acts) ∧
          ∀ looks, (∀ l ∈ looks, l.arrived = [] ∧ l.told = false) →
            before.length = min looks.length taken.length →
              p.loop P connector looks = (.going r, before.flatMap Taken.acts) ∧
              ∀ l : Look, l.arrived = [] → l.told = true → (l.stopFirst = true ∨ after = []) →
                p.loop P connector (looks ++ [l]) =
                  (.ended (r.shutdown P).1, before.flatMap Taken.acts ++ (r.shutdown P).2)) ∧
      (∀ more,
        p.drain P connector (taken.length + more) =
            (q, taken.flatMap Taken.acts, taken.length) ∧
          p.nexts P connector (taken.length + more + 1) = none) ∧
      ∀ looks, (∀ l ∈ looks, l.arrived = []) →
        ∃ before after r, taken = before ++ after ∧ p.Takes P connector before r ∧
          (p.loop P connector looks = (.going r, before.flatMap Taken.acts) ∧
              before.length = min looks.length taken.length ∧
              looks.countP Look.told ≤ before.length ∨
            p.loop P connector looks =
                (.ended (r.shutdown P).1, before.flatMap Taken.acts ++ (r.shutdown P).2) ∧
              ∃ l ∈ looks, l.told = true)) ∧
      ∀ r : Player σ, let last := (r.shutdown P).1
        (r.shutdown P).2 = (r.playback.mounted.map Act.drop).toList ∧
          last.playback.mounted = none ∧ last.playback.playing = false ∧
          last.playback.queue = r.playback.queue ∧ last.link = r.link ∧
          last.published = { r.status with playing := false, nowPlaying := none } ∧
          last.published = last.status ∧ last.publications = r.publications + 1 := by
  refine ⟨?_, fun r => ?_⟩
  · obtain ⟨limit, hdone⟩ := hends
    obtain ⟨taken, htakes⟩ := Player.Takes.exists_of_drain P connector limit p
    refine ⟨taken, (p.drain P connector limit).1, htakes, hdone, ?_, ?_, ?_, ?_⟩
    · have hline := htakes.line
      rwa [hdone, List.append_nil] at hline
    · rintro before after rfl
      obtain ⟨r, hbefore, hafter⟩ := htakes.of_append
      refine ⟨r, hbefore, hafter, hbefore.drain, hbefore.nexts, fun looks hlooks hlength => ?_⟩
      have hloop := htakes.loop_of_quiet hdone hbefore hlooks hlength
      refine ⟨hloop, fun l harrived htold hwhen => ?_⟩
      have hstop : (l.told && (l.stopFirst || r.inbox.isEmpty)) = true := by
        rcases hwhen with hfirst | rfl
        · simp [htold, hfirst]
        · have hempty : r.inbox = [] := hafter.end_unique (.nil r) ▸ hdone
          simp [htold, hempty]
      rw [Player.loop_append hloop,
        Player.loop_cons_of_ended (Player.look_of_stop harrived hstop) []]
    · exact fun more => ⟨htakes.drain_of_done hdone more, htakes.nexts_of_done hdone more⟩
    · exact fun looks hlooks => htakes.loop hdone hlooks
  · obtain ⟨memory, inbox, hdown⟩ := Player.shutdown_eq P r
    intro last
    have hlast : last = (r.shutdown P).1 := rfl
    rw [hdown] at hlast
    rw [hdown, hlast]
    exact ⟨rfl, rfl, rfl, rfl, rfl, rfl, rfl, rfl⟩

/-- A widget is said to be ready twice, and then to skip is asked for: seven inputs are taken. To
look on twice more changes nothing, and when the loop is told to stop then, it drops the widget that
was made meanwhile. -/
theorem looped_after_doubled_report :
    let connector : Connector := fun _ generation => ⟨generation, .opened⟩
    let memory : DryRun.Memory := { duration := 5, lives := [(1, .waiting)] }
    let p : Player DryRun.Memory :=
      { Player.start connector {} memory with
        playback :=
          { queue := ⟨["b"]⟩, playing := true, mounted := some ⟨1, "a"⟩, nextSession := 2, memory }
        inbox := [.widget ⟨1, .ready⟩, .widget ⟨1, .ready⟩, .message 1 "SKIP", .playbackTick] }
    let looks : List Look := List.replicate 9 { told := false } ++ [{ told := true }]
    (∃ limit, (p.drain DryRun.provider connector limit).1.inbox = []) ∧
      (∃ taken q, p.Takes DryRun.provider connector taken q ∧ q.inbox = [] ∧
        taken.map Taken.input = p.inbox ++ (taken.flatMap Taken.sent).map .widget ∧
        ∀ more, p.drain DryRun.provider connector (taken.length + more) =
            (q, taken.flatMap Taken.acts, taken.length) ∧
          p.nexts DryRun.provider connector (taken.length + more + 1) = none) ∧
      (p.drain DryRun.provider connector 10).2.2 = 7 ∧
      (p.loop DryRun.provider connector looks).2 =
        (p.drain DryRun.provider connector 10).2.1 ++ [.drop ⟨2, "b"⟩] := by
  intro connector memory p looks
  have hends : ∃ limit, (p.drain DryRun.provider connector limit).1.inbox = [] := ⟨10, by decide⟩
  obtain ⟨⟨taken, q, htakes, hdone, hline, -, hmore, -⟩, -⟩ :=
    drivers_agree DryRun.provider connector p hends
  exact ⟨hends, ⟨taken, q, htakes, hdone, hline, hmore⟩, by decide, by decide⟩

end Jukebox
