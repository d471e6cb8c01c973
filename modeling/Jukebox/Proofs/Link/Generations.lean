import Jukebox.Link.Task
import Jukebox.Proofs.Player.News
import Jukebox.Widget.DryRun

/-!
# Generations

Connections are opened one after the other, and each goes by the next number. A connection is
opened at the start, and another one whenever a tick is handled while the current one has closed.
The main result is `generations_in_turn`: in every run the numbers are 1, 2, 3 and so on, as many as
there were such ticks and one more, the current generation is the last of them, and what is
announced about connections goes through the generations in order, where each but the first is
introduced once, before anything else is said about it.
-/

namespace Jukebox

variable {σ : Type}

/-- Every connection says that it is of the generation it was asked for. -/
def Connector.Honest (connector : Connector) : Prop :=
  ∀ earlier generation, (connector earlier generation).generation = generation

/-- The first connection is never introduced; of any other generation the first thing that is
announced introduces it, and nothing else does. Nothing is announced of a generation once a later
one was. -/
def InTurn (before : List (Nat × ReadyState)) (change : Nat × ReadyState) : Prop :=
  (∀ earlier ∈ before, earlier.1 ≤ change.1) ∧
    (change.2 = .connecting ↔ 2 ≤ change.1 ∧ ∀ earlier ∈ before, earlier.1 ≠ change.1)

/-- What must not come in front of an element in a history says how any two of them are related. -/
theorem Throughout.pairwise {α : Type} {related : α → α → Prop} {allowed : List α → α → Prop}
    (hallowed : ∀ before a, allowed before a → ∀ b ∈ before, related b a) {history : List α}
    (h : Throughout allowed history) : history.Pairwise related := by
  rw [List.pairwise_iff_forall_sublist]
  intro a b hsublist
  -- `b` stands in the history with `a` in front of it
  obtain ⟨front, back, rfl, hfront, hback⟩ := List.cons_sublist_iff.1 hsublist
  obtain ⟨between, after, rfl⟩ := List.append_of_mem (List.singleton_sublist.1 hback)
  rw [← List.append_assoc] at h
  exact hallowed _ b (h _ b after rfl) a (List.mem_append_left between hfront)

/-- Of a generation that is introduced in turn, the introduction comes first and only once. -/
theorem introduced_first {changes : List (Nat × ReadyState)} (h : Throughout InTurn changes)
    {generation : Nat} (hmem : (generation, .connecting) ∈ changes) :
    ∃ rest, changes.filter (fun change => change.1 = generation) =
      (generation, .connecting) :: rest ∧ (generation, .connecting) ∉ rest := by
  obtain ⟨before, after, rfl⟩ := List.append_of_mem hmem
  have hnone : before.filter (fun change => change.1 = generation) = [] := by
    rw [List.filter_eq_nil_iff]
    intro earlier hearlier
    simpa using ((h before _ after rfl).2.1 rfl).2 earlier hearlier
  refine ⟨after.filter fun change => change.1 = generation, ?_, ?_⟩
  · rw [List.filter_append, hnone, List.nil_append, List.filter_cons_of_pos (by simp)]
  · -- a second introduction would have the first one in front of it
    intro hagain
    obtain ⟨between, later, rfl⟩ := List.append_of_mem (List.mem_filter.1 hagain).1
    have hsecond := h (before ++ (generation, .connecting) :: between) (generation, .connecting)
      later (by simp)
    exact (hsecond.2.1 rfl).2 (generation, .connecting) (by simp) rfl

namespace Player

variable {connector : Connector} {p : Player σ}

/-- The input that a step handles, if it handles one. -/
def Step.input? : Step σ → Player σ → Option Input
  | .handle input, _ => some input
  | .next, p => p.inbox.head?
  | .post _, _ | .setReadyState _ _, _ | .meanwhile _, _ => none

/-- In this step a tick is handled while the current connection has closed. -/
def Step.FindsClosed (step : Step σ) (p : Player σ) : Prop :=
  step.input? p = some .healthTick ∧ p.link.state = .closed

instance (step : Step σ) (p : Player σ) : Decidable (step.FindsClosed p) :=
  inferInstanceAs (Decidable (_ ∧ _))

/-- How many ticks were handled in a run while the current connection had closed. -/
def closings (P : Provider σ) (connector : Connector) : List (Step σ) → Player σ → Nat
  | [], _ => 0
  | step :: steps, p =>
    (if step.FindsClosed p then 1 else 0) +
      closings P connector steps (step.apply P connector p).1

/-! ## What a step does to the connection -/

/-- A tick that finds the connection closed replaces it, and announces this. -/
theorem handle_tick_of_closed (P : Provider σ) (connector : Connector)
    (h : p.link.state = .closed) :
    (p.handle P connector .healthTick).1.link = p.link.replace connector ∧
      linkChanges (p.handle P connector .healthTick).2 =
        [((p.link.replace connector).generation, .connecting)] := by
  have hfresh : p.isStale .healthTick = false := rfl
  rcases link_cases P connector hfresh with ⟨-, -, hlink, hchanges⟩ | ⟨hother, -, -⟩
  · exact ⟨hlink, hchanges⟩
  · exact absurd ⟨rfl, h⟩ hother

/-- Any other input leaves the connection, and at most repeats what the connection says itself. -/
theorem handle_of_not_closed (P : Provider σ) (connector : Connector) {input : Input}
    (h : ¬ (input = .healthTick ∧ p.link.state = .closed)) :
    (p.handle P connector input).1.link = p.link ∧
      ∃ said : Option ReadyState, said ≠ some .connecting ∧
        linkChanges (p.handle P connector input).2 =
          (said.map (p.link.generation, ·)).toList := by
  cases hstale : p.isStale input with
  | true =>
    rw [handle_of_stale hstale]
    exact ⟨rfl, none, by simp, rfl⟩
  | false =>
    rcases link_cases P connector hstale with ⟨htick, hclosed, -, -⟩ | ⟨-, hlink, hchanges⟩
    · exact absurd ⟨htick, hclosed⟩ h
    · exact ⟨hlink, input.state?, by cases input <;> simp [Input.state?], hchanges⟩

theorem apply_of_findsClosed (P : Provider σ) (connector : Connector) {step : Step σ}
    (h : step.FindsClosed p) :
    (step.apply P connector p).1.link = p.link.replace connector ∧
      linkChanges (actsOf (step.apply P connector p).2) =
        [((p.link.replace connector).generation, .connecting)] := by
  obtain ⟨hinput, hclosed⟩ := h
  cases step with
  | handle input =>
    cases hinput
    simpa [Step.apply, note] using handle_tick_of_closed P connector hclosed
  | next =>
    obtain ⟨inbox, hinbox⟩ := List.head?_eq_some_iff.1 hinput
    simpa [Step.apply, hinbox, note] using
      handle_tick_of_closed P connector (p := { p with inbox }) hclosed
  | post | setReadyState | meanwhile => cases hinput

theorem apply_of_not_findsClosed (P : Provider σ) (connector : Connector) {step : Step σ}
    (h : ¬ step.FindsClosed p) :
    (step.apply P connector p).1.link.generation = p.link.generation ∧
      (step.apply P connector p).1.link.opened = p.link.opened ∧
      ∃ said : Option ReadyState, said ≠ some .connecting ∧
        linkChanges (actsOf (step.apply P connector p).2) =
          (said.map (p.link.generation, ·)).toList := by
  cases step with
  | handle input =>
    have hother : ¬ (input = .healthTick ∧ p.link.state = .closed) :=
      fun hfinds => h ⟨congrArg some hfinds.1, hfinds.2⟩
    obtain ⟨hlink, hsaid⟩ := handle_of_not_closed P connector hother
    simp only [Step.apply, note, actsOf_singleton, hlink]
    exact ⟨trivial, trivial, hsaid⟩
  | next =>
    cases hinbox : p.inbox with
    | nil =>
      simp only [Step.apply, hinbox]
      exact ⟨trivial, trivial, none, by simp, rfl⟩
    | cons input inbox =>
      have hother : ¬ (input = .healthTick ∧ p.link.state = .closed) :=
        fun hfinds => h ⟨by simp [Step.input?, hinbox, hfinds.1], hfinds.2⟩
      obtain ⟨hlink, hsaid⟩ := handle_of_not_closed P connector (p := { p with inbox }) hother
      simp only [Step.apply, hinbox, note, actsOf_singleton, hlink]
      exact ⟨trivial, trivial, hsaid⟩
  | setReadyState generation state =>
    simp only [Step.apply, setReadyState, Link.setState]
    split <;> exact ⟨rfl, rfl, none, by simp, rfl⟩
  | post | meanwhile => exact ⟨rfl, rfl, none, by simp, rfl⟩

/-- What is announced about connections in a step is about the one that is current after it. -/
theorem generation_of_mem_linkChanges {P : Provider σ} {step : Step σ}
    {change : Nat × ReadyState}
    (h : change ∈ linkChanges (actsOf (step.apply P connector p).2)) :
    change.1 = (step.apply P connector p).1.link.generation := by
  by_cases hfinds : step.FindsClosed p
  · obtain ⟨hlink, hchanges⟩ := apply_of_findsClosed P connector hfinds
    rw [hchanges, List.mem_singleton] at h
    rw [h, hlink]
  · obtain ⟨hgeneration, -, said, -, hchanges⟩ :=
      apply_of_not_findsClosed P connector hfinds
    rw [hchanges, Option.mem_toList, Option.map_eq_some_iff] at h
    obtain ⟨state, -, rfl⟩ := h
    exact hgeneration.symm

/-! ## The invariant -/

/-- After so many closings one connection more was opened, under the numbers from 1 on. The last is
the current one, and all but the first were introduced in turn. -/
structure Counted (closed : Nat) (p : Player σ) (changes : List (Nat × ReadyState)) : Prop where
  opened : p.link.opened = List.range' 1 (closed + 1)
  generation : p.link.generation = closed + 1
  introduced : ∀ generation, 2 ≤ generation → generation ≤ closed + 1 →
    (generation, .connecting) ∈ changes
  past : ∀ change ∈ changes, change.1 ≤ closed + 1
  inTurn : Throughout InTurn changes

namespace Counted

variable {closed : Nat} {changes : List (Nat × ReadyState)} {q : Player σ}

theorem start (hconnector : connector.Honest) (layout : Layout) (memory : σ) :
    Counted 0 (Player.start connector layout memory) [] where
  opened := rfl
  generation := hconnector [] 1
  introduced generation hfrom hto := absurd (Nat.le_trans hfrom hto) (by decide)
  past := by simp
  inTurn := .nil

/-- The next connection is opened, and introduced. -/
theorem replace (h : Counted closed p changes) (hconnector : connector.Honest)
    (hlink : q.link = p.link.replace connector) :
    Counted (closed + 1) q (changes ++ [((p.link.replace connector).generation, .connecting)]) := by
  have hnext : (p.link.replace connector).generation = closed + 2 := by
    rw [Link.replace, hconnector, h.generation]
  rw [hnext]
  refine ⟨?_, hlink ▸ hnext, ?_, ?_, h.inTurn.concat ⟨?_, ?_⟩⟩
  · rw [hlink, Link.replace, h.opened, h.generation, List.range'_1_concat (n := closed + 1),
      Nat.add_comm 1]
  · intro generation hfrom hto
    rw [List.mem_append, List.mem_singleton]
    rcases Nat.lt_or_eq_of_le hto with hlt | rfl
    · exact .inl (h.introduced generation hfrom (Nat.le_of_lt_succ hlt))
    · exact .inr rfl
  · intro change hmem
    rcases List.mem_append.1 hmem with hmem | hmem
    · exact Nat.le_succ_of_le (h.past change hmem)
    · exact Nat.le_of_eq (congrArg Prod.fst (List.mem_singleton.1 hmem))
  · exact fun earlier hmem => Nat.le_succ_of_le (h.past earlier hmem)
  · -- the number of the new connection is above all that were announced
    refine ⟨fun _ => ⟨Nat.le_add_left 2 closed, fun earlier hmem => ?_⟩, fun _ => rfl⟩
    exact Nat.ne_of_lt (Nat.lt_succ_of_le (h.past earlier hmem))

/-- The connection stays, and may say what it does, but not that it is new. -/
theorem keep (h : Counted closed p changes) (hgeneration : q.link.generation = p.link.generation)
    (hopened : q.link.opened = p.link.opened) {said : Option ReadyState}
    (hsaid : said ≠ some .connecting) :
    Counted closed q (changes ++ (said.map (p.link.generation, ·)).toList) := by
  cases said with
  | none =>
    rw [Option.map_none, Option.toList_none, List.append_nil]
    exact ⟨hopened.trans h.opened, hgeneration.trans h.generation, h.introduced, h.past, h.inTurn⟩
  | some state =>
    rw [Option.map_some, Option.toList_some, h.generation]
    refine ⟨hopened.trans h.opened, hgeneration.trans h.generation, ?_, ?_,
      h.inTurn.concat ⟨h.past, ?_⟩⟩
    · exact fun generation hfrom hto => List.mem_append_left _ (h.introduced generation hfrom hto)
    · intro change hmem
      rcases List.mem_append.1 hmem with hmem | hmem
      · exact h.past change hmem
      · exact Nat.le_of_eq (congrArg Prod.fst (List.mem_singleton.1 hmem))
    · -- a current generation that is not the first was introduced when it was opened
      refine ⟨fun hstate => absurd (congrArg some hstate) hsaid, ?_⟩
      rintro ⟨hfrom, hnew⟩
      exact absurd rfl (hnew (closed + 1, .connecting) (h.introduced _ hfrom (Nat.le_refl _)))

theorem apply (h : Counted closed p changes) (hconnector : connector.Honest) (P : Provider σ)
    (step : Step σ) :
    Counted (closed + if step.FindsClosed p then 1 else 0) (step.apply P connector p).1
      (changes ++ linkChanges (actsOf (step.apply P connector p).2)) := by
  by_cases hfinds : step.FindsClosed p
  · obtain ⟨hlink, hchanges⟩ := apply_of_findsClosed P connector hfinds
    rw [if_pos hfinds, hchanges]
    exact h.replace hconnector hlink
  · obtain ⟨hgeneration, hopened, said, hsaid, hchanges⟩ :=
      apply_of_not_findsClosed P connector hfinds
    rw [if_neg hfinds, hchanges]
    exact h.keep hgeneration hopened hsaid

/-- Each closing along a run counts once. -/
theorem run (h : Counted closed p changes) (hconnector : connector.Honest) (P : Provider σ)
    (steps : List (Step σ)) :
    Counted (closed + closings P connector steps p) (p.run P connector steps).1
      (changes ++ linkChanges (actsOf (p.run P connector steps).2)) := by
  induction steps generalizing closed p changes with
  | nil => simpa [Player.run, closings] using h
  | cons step steps ih =>
    have hrest := ih (h.apply hconnector P step)
    rw [List.append_assoc, ← linkChanges_append, ← actsOf_append, Nat.add_assoc] at hrest
    exact hrest

end Counted

end Player

/-! ## The main result -/

/-- In every run, if connections say of themselves what they were asked for: connections were opened
under the numbers 1, 2, 3 and so on, one at the start and one for each tick that was handled while
the current connection had closed, which is when a look at it replaces it. The current generation is
the number of connections opened, and one that was replaced is never current again. What is
announced about connections is of the generation that is current then, and generations never go
back. Every generation from the second to the current one is introduced once, before anything else
is announced of it, and the first one never is. -/
theorem generations_in_turn (P : Provider σ) (connector : Connector)
    (hconnector : connector.Honest) (layout : Layout) (memory : σ)
    (steps : List (Player.Step σ)) :
    let start := Player.start connector layout memory
    let ran := Player.run P connector steps start
    let p := ran.1
    let changes := linkChanges (actsOf ran.2)
    p.link.opened = List.range' 1 (1 + Player.closings P connector steps start) ∧
      ((p.link.ensureOpen connector).2 = true ↔ p.link.state = .closed) ∧
      p.link.generation = p.link.opened.length ∧
      (∀ generation ∈ p.link.opened, generation ≠ p.link.generation → ∀ more,
        (Player.run P connector more p).1.link.isCurrent generation = false) ∧
      (∀ step : Player.Step σ, ∀ change ∈ linkChanges (actsOf (step.apply P connector p).2),
        change.1 = (step.apply P connector p).1.link.generation) ∧
      (changes.map Prod.fst).Pairwise (· ≤ ·) ∧
      (∀ generation, 2 ≤ generation → generation ≤ p.link.generation →
        ∃ rest, changes.filter (fun change => change.1 = generation) =
          (generation, .connecting) :: rest ∧ (generation, .connecting) ∉ rest) ∧
      (1, .connecting) ∉ changes := by
  intro start ran p changes
  have h := (Player.Counted.start hconnector layout memory).run hconnector P steps
  rw [List.nil_append, Nat.zero_add] at h
  refine ⟨?_, ?_, ?_, ?_, ?_, ?_, ?_, ?_⟩
  · rw [h.opened, Nat.add_comm]
  · rw [Link.ensureOpen]
    split <;> simp_all
  · rw [h.generation, h.opened, List.length_range']
  · intro generation hopened hne more
    -- what was opened is at most the current generation, and that only grows
    rw [h.opened, List.mem_range'_1] at hopened
    rw [h.generation] at hne
    rw [Link.isCurrent, (h.run hconnector P more).generation, decide_eq_false_iff_not]
    omega
  · exact fun step change hmem => Player.generation_of_mem_linkChanges hmem
  · rw [List.pairwise_map]
    exact h.inTurn.pairwise fun before change hturn => hturn.1
  · intro generation hfrom hto
    exact introduced_first h.inTurn (h.introduced generation hfrom (h.generation ▸ hto))
  · intro hmem
    obtain ⟨before, after, hsplit⟩ := List.append_of_mem hmem
    exact absurd ((h.inTurn before _ after hsplit).2.1 rfl).1 (by decide)

/-- The first connection closes and is replaced, and then changes its state and reports once more;
another one that was never opened reports too. The second one is looked at before it closes and
after. -/
theorem third_after_two_closings :
    let steps : List (Player.Step DryRun.Memory) :=
      [.setReadyState 1 .closed, .handle .healthTick, .setReadyState 1 .opened,
        .handle (.opened 1), .handle (.opened 2), .handle (.closed 7), .handle .healthTick,
        .setReadyState 2 .closed, .post .healthTick, .next]
    let start := Player.start Link.dialer {} { duration := 5 }
    let ran := Player.run DryRun.provider Link.dialer steps start
    Link.dialer.Honest ∧ Player.closings DryRun.provider Link.dialer steps start = 2 ∧
      ran.1.link.opened = [1, 2, 3] ∧ ran.1.link.generation = 3 ∧
      linkChanges (actsOf ran.2) = [(2, .connecting), (2, .opened), (3, .connecting)] := by
  intro steps
  have hdialer : Link.dialer.Honest := fun _ _ => rfl
  have hcount : Player.closings DryRun.provider Link.dialer steps
      (Player.start Link.dialer {} { duration := 5 }) = 2 := by decide
  obtain ⟨hopened, -, hgeneration, -⟩ :=
    generations_in_turn DryRun.provider Link.dialer hdialer {} { duration := 5 } steps
  rw [hcount] at hopened
  rw [hopened] at hgeneration
  exact ⟨hdialer, hcount, hopened, hgeneration, by decide⟩

end Jukebox
