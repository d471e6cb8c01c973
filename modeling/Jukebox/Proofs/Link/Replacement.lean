import Jukebox.Proofs.Link.Exchange
import Jukebox.Widget.DryRun

/-!
# What becomes of reports when a connection is replaced

A tick may find a connection closed while some of its reports still wait behind the tick. Then the
connection is replaced, and these reports are passed over when their turn comes; `lost_behind_tick`
is the shortest case. The main result is `heard_until_replaced`: every report gets its turn once, in
its order, and it counts unless the connection was replaced before. A connection is replaced only
when it has closed (`Player.replaces_iff`), and every entry of the journal leads back to the turn in
which it was made (`Exchange.exists_turn`), so the theorem says what the connection had done by
then.
-/

namespace Jukebox

variable {σ : Type}

/-- The replacement of the connection of a generation has been announced. -/
abbrev Replaced (generation : Nat) (journal : List Handled) : Prop :=
  (generation + 1, ReadyState.connecting) ∈ linkChanges (actsOf journal)

/-- What an input may do when its turn comes. -/
structure Due (before : List Handled) (h : Handled) : Prop where
  /-- A text that asks for an identifier is heard unless its connection was replaced. -/
  asks : ∀ generation text identifier, h.input = .message generation text →
    Request.parse? text = some (.play identifier) →
    enqueued h.acts = if Replaced generation before then [] else [identifier]
  /-- So is the report that a connection has closed, and nothing else announces this. -/
  closes : ∀ generation, (generation, .closed) ∈ linkChanges h.acts ↔
    h.input = .closed generation ∧ ¬ Replaced generation before
  /-- Connections are replaced at ticks, and each is replaced once. -/
  replaces : ∀ generation, (generation + 1, .connecting) ∈ linkChanges h.acts →
    h.input = .healthTick ∧ ¬ Replaced generation before

/-- Connections are replaced by ticks that find them closed, and by nothing else. -/
theorem Player.replaces_iff {P : Provider σ} {p : Player σ} {input : Input} {generation : Nat} :
    (generation + 1, .connecting) ∈ linkChanges (p.handle P Link.dialer input).2 ↔
      input = .healthTick ∧ p.link.generation = generation ∧ p.link.state = .closed := by
  cases hstale : p.isStale input with
  | true =>
    rw [Player.handle_of_stale hstale]
    refine iff_of_false List.not_mem_nil ?_
    rintro ⟨rfl, -⟩
    cases hstale
  | false =>
    rcases Player.link_cases P Link.dialer hstale with
      ⟨htick, hclosed, -, hchanges⟩ | ⟨hother, -, hchanges⟩
    · -- the new connection goes by the next number, so the one replaced is the current one
      have hnew : (p.link.replace Link.dialer).generation = p.link.generation + 1 := rfl
      rw [hchanges, hnew, List.mem_singleton, Prod.mk.injEq, Nat.succ_inj]
      constructor
      · rintro ⟨rfl, -⟩
        exact ⟨htick, rfl, hclosed⟩
      · rintro ⟨-, rfl, -⟩
        exact ⟨rfl, rfl⟩
    · rw [hchanges]
      refine iff_of_false ?_ fun h => hother ⟨h.1, h.2.2⟩
      cases input <;> simp [Input.state?]

namespace Due

variable {before : List Handled} {input : Input}

/-- What comes from a connection that was replaced is passed over. -/
theorem passedOver {current : Nat} (hpast : ∀ generation, input.generation? = some generation →
    Replaced generation before) : Due before ⟨current, input, []⟩ where
  asks := by
    rintro generation text identifier rfl -
    rw [if_pos (hpast generation rfl)]
    rfl
  closes := by
    intro generation
    refine ⟨fun hmem => absurd hmem List.not_mem_nil, ?_⟩
    rintro ⟨rfl, hnot⟩
    exact absurd (hpast generation rfl) hnot
  replaces _ hmem := absurd hmem List.not_mem_nil

/-- What is not passed over is handled while its connection has not been replaced. -/
theorem handled {P : Provider σ} {p : Player σ} (hstale : p.isStale input = false)
    (hnot : ¬ Replaced p.link.generation before) :
    Due before ⟨p.link.generation, input, (p.handle P Link.dialer input).2⟩ := by
  have hchanges := Player.link_cases P Link.dialer hstale
  refine ⟨?_, ?_, ?_⟩
  · rintro generation text identifier rfl hparse
    have hcurrent := (Player.isStale_eq_false_iff rfl).1 hstale
    rw [if_neg (hcurrent ▸ hnot), Player.enqueued_handle, Input.asked?, if_pos hcurrent, hparse]
    rfl
  · intro generation
    rcases hchanges with ⟨rfl, -, -, hchanges⟩ | ⟨-, -, hchanges⟩
    · rw [hchanges]
      simp
    · rw [hchanges]
      cases input with
      | closed generation' =>
        have hcurrent := (Player.isStale_eq_false_iff rfl).1 hstale
        subst hcurrent
        simp only [Input.state?, Option.map_some, Option.toList_some, List.mem_singleton,
          Prod.mk.injEq, and_true, Input.closed.injEq]
        constructor
        · rintro rfl
          exact ⟨rfl, hnot⟩
        · rintro ⟨heq, -⟩
          exact heq.symm
      | _ => simp [Input.state?]
  · intro generation hreplaces
    obtain ⟨htick, rfl, -⟩ := Player.replaces_iff.1 hreplaces
    exact ⟨htick, hnot⟩

end Due

/-! ## Histories in which every turn is due -/

theorem Replaced.append {generation : Nat} {journal : List Handled}
    (h : Replaced generation journal) (more : List Handled) :
    Replaced generation (journal ++ more) := by
  rw [Replaced, actsOf_append, linkChanges_append]
  exact List.mem_append_left _ h

theorem mem_linkChanges_actsOf {journal : List Handled} {change : Nat × ReadyState} :
    change ∈ linkChanges (actsOf journal) ↔
      ∃ before h after, journal = before ++ h :: after ∧ change ∈ linkChanges h.acts := by
  constructor
  · intro hmem
    obtain ⟨act, hact, hchange⟩ := List.mem_filterMap.1 hmem
    obtain ⟨h, hjournal, hact⟩ := List.mem_flatMap.1 hact
    obtain ⟨before, after, hsplit⟩ := List.append_of_mem hjournal
    exact ⟨before, h, after, hsplit, List.mem_filterMap.2 ⟨act, hact, hchange⟩⟩
  · rintro ⟨before, h, after, rfl, hmem⟩
    obtain ⟨act, hact, hchange⟩ := List.mem_filterMap.1 hmem
    refine List.mem_filterMap.2 ⟨act, List.mem_flatMap.2 ⟨h, ?_, hact⟩, hchange⟩
    exact List.mem_append_right _ List.mem_cons_self

/-- As long as a connection was not replaced, that it closed is announced if its report was handled.
-/
theorem closed_announced_iff {journal : List Handled} (hdue : Throughout Due journal)
    {generation : Nat} (hnot : ¬ Replaced generation journal) :
    (generation, .closed) ∈ linkChanges (actsOf journal) ↔
      .closed generation ∈ journal.map Handled.input := by
  constructor
  · intro hmem
    obtain ⟨before, h, after, rfl, hchange⟩ := mem_linkChanges_actsOf.1 hmem
    have hinput := (((hdue before h after rfl).closes generation).1 hchange).1
    exact List.mem_map.2 ⟨h, List.mem_append_right _ List.mem_cons_self, hinput⟩
  · intro hmem
    obtain ⟨h, hjournal, hinput⟩ := List.mem_map.1 hmem
    obtain ⟨before, after, rfl⟩ := List.append_of_mem hjournal
    have hbefore : ¬ Replaced generation before := fun hreplaced => hnot (hreplaced.append _)
    exact mem_linkChanges_actsOf.2 ⟨before, h, after, rfl,
      ((hdue before h after rfl).closes generation).2 ⟨hinput, hbefore⟩⟩

/-- Once a connection was replaced it is not announced any more that it closed. -/
theorem closed_not_announced_after {before after : List Handled} {h : Handled}
    (hdue : Throughout Due (before ++ h :: after)) {generation : Nat}
    (hreplaces : (generation + 1, .connecting) ∈ linkChanges h.acts) :
    (generation, .closed) ∉ linkChanges (actsOf (h :: after)) := by
  have htick := ((hdue before h after rfl).replaces generation hreplaces).1
  intro hmem
  obtain ⟨between, h', after', hsplit, hmem⟩ := mem_linkChanges_actsOf.1 hmem
  have hall : before ++ h :: after = (before ++ between) ++ h' :: after' := by
    rw [hsplit, List.append_assoc]
  obtain ⟨hinput, hnot⟩ := ((hdue _ h' after' hall).closes generation).1 hmem
  -- the tick itself is no report, and later ones come after the replacement
  cases between with
  | nil =>
    obtain ⟨rfl, -⟩ := List.cons.inj hsplit
    rw [htick] at hinput
    cases hinput
  | cons first between =>
    obtain ⟨rfl, -⟩ := List.cons.inj hsplit
    exact hnot (mem_linkChanges_actsOf.2 ⟨before, h, between, rfl, hreplaces⟩)

/-! ## Turns and what is handled in them -/

namespace Exchange

/-- In a turn nothing is handled and the connection stays, or it is the player's turn, who handles
the input at the head of the line. -/
theorem turn_cases (P : Provider σ) (fates : Fates) (t : Turn σ) (x : Exchange σ) :
    ((x.turn P fates t).journal = x.journal ∧
      (x.turn P fates t).player.link.generation = x.player.link.generation) ∨
    ∃ input inbox, t = .handle ∧ x.player.inbox = input :: inbox ∧
      (x.turn P fates t).journal = x.journal ++ [⟨x.player.link.generation, input,
        (Player.handle P Link.dialer input { x.player with inbox }).2⟩] ∧
      (x.turn P fates t).player =
        (Player.handle P Link.dialer input { x.player with inbox }).1 := by
  cases t with
  | move generation =>
    left
    rw [Exchange.turn]
    split
    · exact ⟨rfl, rfl⟩
    · rename_i move _
      exact ⟨journal_move P generation move x, (link_move P generation move x).1⟩
  | healthTick | playbackTick | callback | meanwhile => exact .inl ⟨List.append_nil _, rfl⟩
  | handle =>
    cases hinbox : x.player.inbox with
    | nil => left; simp [Exchange.turn, take, Player.Step.apply, hinbox]
    | cons input inbox =>
      right
      refine ⟨input, inbox, rfl, rfl, ?_⟩
      simp [Exchange.turn, take, Player.Step.apply, hinbox, Player.note]

theorem run_concat (P : Provider σ) (fates : Fates) (turns : List (Turn σ)) (t : Turn σ)
    (x : Exchange σ) : x.run P fates (turns ++ [t]) = (x.run P fates turns).turn P fates t := by
  rw [run, List.foldl_append]
  rfl

/-- Whatever was handled in a run was handled in some turn of it, when just what comes before it in
the journal had been handled and it was at the head of the line. -/
theorem exists_turn (P : Provider σ) (fates : Fates) {x : Exchange σ} (hstart : x.journal = [])
    (turns : List (Turn σ)) {before after : List Handled} {h : Handled}
    (hsplit : (x.run P fates turns).journal = before ++ h :: after) :
    ∃ earlier later inbox, turns = earlier ++ .handle :: later ∧
      (x.run P fates earlier).journal = before ∧
      (x.run P fates earlier).player.inbox = h.input :: inbox ∧
      h.acts = (Player.handle P Link.dialer h.input
        { (x.run P fates earlier).player with inbox }).2 := by
  induction turns using List.reverseRecOn generalizing after with
  | nil =>
    rw [show (x.run P fates []).journal = [] from hstart] at hsplit
    simp at hsplit
  | append_singleton turns t ih =>
    have longer {after : List Handled}
        (hsplit : (x.run P fates turns).journal = before ++ h :: after) :
        ∃ earlier later inbox, turns ++ [t] = earlier ++ .handle :: later ∧
          (x.run P fates earlier).journal = before ∧
          (x.run P fates earlier).player.inbox = h.input :: inbox ∧
          h.acts = (Player.handle P Link.dialer h.input
            { (x.run P fates earlier).player with inbox }).2 := by
      obtain ⟨earlier, later, inbox, rfl, hturn⟩ := ih hsplit
      exact ⟨earlier, later ++ [t], inbox, by rw [List.append_assoc, List.cons_append], hturn⟩
    rw [run_concat] at hsplit
    rcases turn_cases P fates t (x.run P fates turns) with
      ⟨hsame, -⟩ | ⟨input, inbox, rfl, hinbox, hjournal, -⟩
    · rw [hsame] at hsplit
      exact longer hsplit
    · rw [hjournal] at hsplit
      rcases concat_eq_append_cons hsplit with ⟨-, hbefore, rfl⟩ | ⟨after', -, hbefore⟩
      · exact ⟨turns, [], inbox, rfl, hbefore, hinbox, rfl⟩
      · exact longer hbefore

/-! ## The invariant -/

/-- Every turn so far was due, and exactly the connections before the current one were replaced. -/
structure Heard (x : Exchange σ) : Prop where
  replaced : ∀ generation, Replaced generation x.journal ↔
    1 ≤ generation ∧ generation < x.player.link.generation
  due : Throughout Due x.journal

namespace Heard

variable {P : Provider σ} {fates : Fates} {x y : Exchange σ}

theorem start (layout : Layout) (memory : σ) : Heard (Exchange.start layout memory) where
  replaced generation := by
    show Replaced generation [] ↔ 1 ≤ generation ∧ generation < 1
    simp only [Replaced, actsOf_nil, List.filterMap_nil, List.not_mem_nil, false_iff]
    omega
  due := .nil

/-- Nothing is handled, and the connection stays. -/
theorem keep (h : Heard x) (hjournal : y.journal = x.journal)
    (hlink : y.player.link.generation = x.player.link.generation) : Heard y := by
  refine ⟨?_, hjournal ▸ h.due⟩
  rw [hjournal, hlink]
  exact h.replaced

/-- What is handled when its turn comes is due. -/
theorem due_handle (h : Heard x) (horderly : Orderly fates x) {input : Input}
    (hmem : input ∈ x.line) {p : Player σ} (hp : p.link = x.player.link) :
    Due x.journal ⟨p.link.generation, input, (p.handle P Link.dialer input).2⟩ := by
  cases hstale : p.isStale input with
  | true =>
    -- the connection was opened and is not current any more, so it was replaced
    have hpast : ∀ generation, input.generation? = some generation →
        Replaced generation x.journal := by
      intro generation hinput
      have hle := horderly.generation_le hmem hinput
      have hne := Player.ne_of_isStale hinput hstale
      rw [hp] at hne
      exact (h.replaced generation).2 ⟨hle.1, Nat.lt_of_le_of_ne hle.2 hne⟩
    rw [Player.handle_of_stale hstale]
    exact .passedOver hpast
  | false =>
    refine .handled hstale fun hreplaced => ?_
    rw [hp] at hreplaced
    exact Nat.lt_irrefl _ ((h.replaced _).1 hreplaced).2

theorem replaced_handle (h : Heard x) (horderly : Orderly fates x) (input : Input)
    {p : Player σ} (hp : p.link = x.player.link) (generation : Nat) :
    Replaced generation
        (x.journal ++ [⟨p.link.generation, input, (p.handle P Link.dialer input).2⟩]) ↔
      1 ≤ generation ∧ generation < (p.handle P Link.dialer input).1.link.generation := by
  rw [Replaced, actsOf_append, linkChanges_append, List.mem_append, ← Replaced, h.replaced,
    actsOf_singleton]
  have hfirst := horderly.first
  cases hstale : p.isStale input with
  | true =>
    rw [Player.handle_of_stale hstale, hp]
    simp
  | false =>
    rcases Player.link_cases P Link.dialer hstale with
      ⟨-, -, hlink, hchanges⟩ | ⟨-, hlink, hchanges⟩
    · have hnew : (p.link.replace Link.dialer).generation = x.player.link.generation + 1 := by
        rw [hp]
        rfl
      rw [hchanges, hlink, hnew]
      simp only [List.mem_singleton, Prod.mk.injEq, and_true]
      omega
    · rw [hchanges, hlink, hp]
      cases input <;> simp [Input.state?]

theorem turn (h : Heard x) (horderly : Orderly fates x) (P : Provider σ) (t : Turn σ) :
    Heard (x.turn P fates t) := by
  rcases turn_cases P fates t x with
    ⟨hjournal, hlink⟩ | ⟨input, inbox, rfl, hinbox, hjournal, hplayer⟩
  · exact h.keep hjournal hlink
  · have hmem : input ∈ x.line := by
      rw [line, hinbox]
      exact List.mem_append_right _ List.mem_cons_self
    refine ⟨?_, ?_⟩
    · rw [hjournal, hplayer]
      exact h.replaced_handle horderly input (p := { x.player with inbox }) rfl
    · rw [hjournal]
      exact h.due.concat (h.due_handle horderly hmem (p := { x.player with inbox }) rfl)

end Heard

theorem run_heard (P : Provider σ) (fates : Fates) (turns : List (Turn σ)) {x : Exchange σ}
    (horderly : Orderly fates x) (h : Heard x) :
    Orderly fates (x.run P fates turns) ∧ Heard (x.run P fates turns) := by
  induction turns generalizing x with
  | nil => exact ⟨horderly, h⟩
  | cons t turns ih => exact ih (horderly.turn P t) (h.turn horderly P t)

end Exchange

/-! ## The main result -/

/-- Whatever becomes of the connections, and whatever the order of turns: what was handled from a
connection and what still waits from it is what it has reported, in its order. A text that asks for
an identifier puts it in the queue once, when its turn comes, unless the connection was replaced
before; then it does nothing. A connection is replaced in just those turns in which a tick is
handled while the current connection shows that it has closed, and what it shows is what it has done
itself: it has closed by then, though that may not have been heard. Before a connection is replaced
it is announced that it closed if its report was handled by then; afterwards this is not announced
any more. -/
theorem heard_until_replaced (P : Provider σ) (fates : Fates) (layout : Layout) (memory : σ)
    (turns : List (Turn σ)) :
    let start : Exchange σ := Exchange.start layout memory
    let x := start.run P fates turns
    (∀ generation,
      reportsOf generation (x.journal.map Handled.input) ++ reportsOf generation x.player.inbox =
        Link.reports ((fates.life generation).take (x.progress generation))) ∧
      ∀ before h after, x.journal = before ++ h :: after →
        (∀ generation text identifier, h.input = .message generation text →
          Request.parse? text = some (.play identifier) →
          enqueued h.acts =
            if (generation + 1, .connecting) ∈ linkChanges (actsOf before) then []
            else [identifier]) ∧
        (∃ earlier later, turns = earlier ++ .handle :: later ∧
          let y := start.run P fates earlier
          y.journal = before ∧ y.player.inbox.head? = some h.input ∧
          y.player.link.state = y.stateOf fates y.player.link.generation ∧
          ∀ generation, (generation + 1, .connecting) ∈ linkChanges h.acts ↔
            h.input = .healthTick ∧ y.player.link.generation = generation ∧
              y.player.link.state = .closed ∧
              .become .closed ∈ (fates.life generation).take (y.progress generation)) ∧
        ∀ generation, (generation + 1, .connecting) ∈ linkChanges h.acts →
          ((generation, .closed) ∈ linkChanges (actsOf before) ↔
            .closed generation ∈ before.map Handled.input) ∧
          (generation, .closed) ∉ linkChanges (actsOf (h :: after)) := by
  intro start x
  have hrun (turns : List (Turn σ)) := Exchange.run_heard P fates turns
    (Exchange.Orderly.start fates layout memory) (Exchange.Heard.start layout memory)
  obtain ⟨horderly, hheard⟩ := hrun turns
  refine ⟨?_, ?_⟩
  · intro generation
    rw [← reportsOf_append]
    exact horderly.reports generation
  · intro before h after hsplit
    have hall := hheard.due
    rw [show (Exchange.run P fates turns _).journal = _ from hsplit] at hall
    have hdue := hall before h after rfl
    refine ⟨hdue.asks, ?_, ?_⟩
    · obtain ⟨earlier, later, inbox, hturns, hjournal, hinbox, hacts⟩ :=
        Exchange.exists_turn P fates rfl turns hsplit
      have hstate := (hrun earlier).1.state
      refine ⟨earlier, later, hturns, hjournal, by rw [hinbox]; rfl, hstate, ?_⟩
      intro generation
      rw [hacts, Player.replaces_iff]
      refine and_congr_right fun _ => and_congr_right fun hcurrent => ?_
      refine ⟨fun hclosed => ⟨hclosed, ?_⟩, And.left⟩
      -- what it shows it has become itself
      refine Link.become_mem_of_stateAfter ?_ (by decide)
      rw [← hcurrent]
      exact hstate.symm.trans hclosed
    · intro generation hreplaces
      exact ⟨closed_announced_iff hall.of_append (hdue.replaces generation hreplaces).2,
        closed_not_announced_after hall hreplaces⟩

/-- A tick waits while the connection reports a text and closes. When the tick is handled the
connection is replaced, so neither the text nor the end of the connection is heard. -/
theorem lost_behind_tick :
    let fates : Fates := fun _ => (.ok (), [.text "PLAY a", .finished])
    let start : Exchange DryRun.Memory := Exchange.start {} { duration := 5 }
    let sent := start.run DryRun.provider fates [.move 1, .move 1, .handle, .healthTick, .move 1]
    let x := sent.run DryRun.provider fates [.move 1, .move 1, .handle, .handle, .handle]
    sent.player.link.generation = 1 ∧ .message 1 "PLAY a" ∈ sent.line ∧
      x.player.inbox = [] ∧ enqueued (actsOf x.journal) = [] ∧
      linkChanges (actsOf x.journal) = [(1, .opened), (2, .connecting)] := by
  decide

end Jukebox
