import ExQServe.Serving.ReasoningBudget

/-! # Runs of the reasoning budget

What every run of the budget keeps, and where it does not. The invariant says what is still
to come in each state: counting, the injection; with the close requested, the one edit. -/

namespace ExQServe.Serving.ReasoningBudget

open ExQServe.Model ExQServe.Runtime

variable {budget : EffectiveReasoningBudget}

/-! ## The log -/

/-- One more entry. -/
theorem BudgetKept.record {log : List BudgetRecord} {entry : BudgetRecord}
    (kept : BudgetKept budget log)
    (injects : entry = .injected → .injected ∉ log ∧ .completed ∉ log)
    (timely : ∀ tokens, entry = .seen tokens false →
      budget.maxTokens ≤ seenTokens log + tokens → .injected ∈ log)
    (edit : ∀ event given, entry = .handed event given →
      given = event ∨ RemovesClose budget event given)
    (suppress : ∀ event, entry = .suppressed event → event.text = budget.control.closeSequence)
    (first : entry.isRemoval = true → log.countP BudgetRecord.isRemoval = 0) :
    BudgetKept budget (log ++ [entry]) := by
  constructor
  · rw [List.count_append, List.count_singleton]
    by_cases same : entry = .injected
    · rw [List.count_eq_zero.mpr (injects same).1]
      split <;> omega
    · rw [if_neg (by simpa using same)]
      exact kept.injectedOnce
  · intro before after split
    rcases append_singleton_split split with ⟨_, same, rfl⟩ | ⟨rest, _, whole⟩
    · exact (injects same.symm).2
    · exact kept.injectedBefore before rest whole
  · intro zero
    have head := kept.injectedAtOnce zero
    cases log with
    | nil => cases head
    | cons _ _ => exact head
  · intro before tokens after split reached
    rcases append_singleton_split split with ⟨_, same, rfl⟩ | ⟨rest, _, whole⟩
    · exact timely tokens same.symm reached
    · exact kept.injectedInTime before tokens rest whole reached
  · intro event given member
    rcases List.mem_append.mp member with member | member
    · exact kept.edits event given member
    · exact edit event given (List.mem_singleton.mp member).symm
  · intro event member
    rcases List.mem_append.mp member with member | member
    · exact kept.suppressions event member
    · exact suppress event (List.mem_singleton.mp member).symm
  · rw [List.countP_append, List.countP_singleton]
    by_cases removes : entry.isRemoval = true
    · rw [first removes, if_pos removes]
    · rw [if_neg removes]
      exact kept.editedOnce

theorem seenTokens_append (log : List BudgetRecord) (entry : BudgetRecord) :
    seenTokens (log ++ [entry]) = seenTokens log + entry.tokens := by
  simp [seenTokens]

/-! ## The invariant -/

/-- While the session goes on, counting comes before everything else, and only one edit is
still to come in a state that may edit. -/
structure BudgetSound (budget : EffectiveReasoningBudget) (session : BudgetSession) : Prop where
  kept : BudgetKept budget session.log
  counting : session.state = .counting → session.terminal = false →
    .injected ∉ session.log ∧ .completed ∉ session.log ∧
      seenTokens session.log = session.tokenCount ∧ session.tokenCount < budget.maxTokens
  unpended : session.state ≠ .done → session.duplicateClosePending = false
  unedited : session.terminal = false →
    session.state ≠ .done ∨ session.duplicateClosePending = true →
      session.log.countP BudgetRecord.isRemoval = 0

theorem BudgetSound.of_terminal {session : BudgetSession} (kept : BudgetKept budget session.log)
    (unpended : session.state ≠ .done → session.duplicateClosePending = false)
    (terminal : session.terminal = true) : BudgetSound budget session := by
  refine ⟨kept, ?_, unpended, ?_⟩
  · intro _ alive
    rw [terminal] at alive
    cases alive
  · intro alive
    rw [terminal] at alive
    cases alive

structure Leaves (session next : BudgetSession) (added : List BudgetRecord) : Prop where
  log : next.log = session.log ++ added
  left : next.state ≠ .counting
  pending : next.duplicateClosePending = session.duplicateClosePending

theorem giveUp_leaves (session : BudgetSession)
    (alive : session.terminal = false) :
    Leaves session (session.giveUp budget) [] := by
  rw [BudgetSession.giveUp]
  cases budget.source with
  | serverDefault => exact ⟨(List.append_nil _).symm, by simp, rfl⟩
  | request =>
      dsimp only
      rw [BudgetSession.fail, if_neg (by simp [alive])]
      exact ⟨(List.append_nil _).symm, by simp, rfl⟩

theorem forceReasoningClose_leaves {session : BudgetSession} (answer : InjectAnswer)
    (counting : session.state = .counting) (alive : session.terminal = false) :
    Leaves session (session.forceReasoningClose budget answer) [.injected] := by
  have gives : Leaves session ((session.record .injected).giveUp budget) [.injected] := by
    have leaves : Leaves (session.record .injected) ((session.record .injected).giveUp budget) [] :=
      giveUp_leaves _ alive
    refine ⟨?_, leaves.left, leaves.pending⟩
    rw [leaves.log, List.append_nil]
    rfl
  rw [BudgetSession.forceReasoningClose, if_neg (not_not.mpr counting)]
  cases answer with
  | accepted => exact ⟨rfl, by simp, rfl⟩
  | terminating => exact ⟨rfl, by simp, rfl⟩
  | conflict => exact gives
  | raised => exact gives

theorem initial_sound (first : InjectAnswer) :
    BudgetSound budget (budgetMachine budget first).initial := by
  change BudgetSound budget (newBudgetSession.initializeReasoningBudget budget first)
  rw [BudgetSession.initializeReasoningBudget]
  split
  · rename_i zero
    have kept : BudgetKept budget [.injected] := by
      refine ⟨by decide, ?_, fun _ => rfl, ?_, by simp, by simp, by decide⟩
      · intro before after split
        cases before with
        | nil => simp
        | cons _ _ => simp at split
      · intro before tokens after split
        cases before <;> simp at split
    have leaves : Leaves newBudgetSession (newBudgetSession.forceReasoningClose budget first)
        [.injected] := forceReasoningClose_leaves first rfl rfl
    have log : (newBudgetSession.forceReasoningClose budget first).log = [.injected] := leaves.log
    refine ⟨log ▸ kept, fun counting => absurd counting leaves.left, fun _ => leaves.pending,
      ?_⟩
    intro _ _
    rw [log]
    rfl
  · rename_i positive
    refine ⟨⟨by decide, by simp [newBudgetSession], fun zero => absurd zero positive,
      by simp [newBudgetSession], by simp [newBudgetSession], by simp [newBudgetSession],
      by decide⟩, ?_, fun _ => rfl, fun _ _ => rfl⟩
    intro _ _
    exact ⟨by simp [newBudgetSession], by simp [newBudgetSession], rfl,
      Nat.pos_of_ne_zero positive⟩

/-! ## After the parser -/

structure Midway (budget : EffectiveReasoningBudget) (session : BudgetSession) (ended : Bool) :
    Prop where
  kept : BudgetKept budget session.log
  alive : session.terminal = false
  counting : session.state = .counting →
    .injected ∉ session.log ∧ (.completed ∈ session.log → ended = true) ∧
      seenTokens session.log = session.tokenCount ∧ session.tokenCount < budget.maxTokens
  unpended : session.state ≠ .done → session.duplicateClosePending = false
  merged : session.duplicateCloseConsumedInDelta = true → session.state = .forceRequested
  unedited : session.duplicateCloseConsumedInDelta = false →
    session.state ≠ .done ∨ session.duplicateClosePending = true →
      session.log.countP BudgetRecord.isRemoval = 0

theorem followTail_eq (events : List GenerationEvent) (session : BudgetSession) :
    ∃ tail, session.followTail budget events =
      { session with postForceReasoningTail := tail } := by
  unfold BudgetSession.followTail
  split
  · exact ⟨_, rfl⟩
  · exact ⟨session.postForceReasoningTail, rfl⟩

theorem BudgetKept.seen {log : List BudgetRecord} {tokens : Nat} {ended : Bool}
    (kept : BudgetKept budget log)
    (timely : ended = false → budget.maxTokens ≤ seenTokens log + tokens → .injected ∈ log) :
    BudgetKept budget (log ++ [.seen tokens ended]) := by
  apply kept.record
  · simp
  · intro seen same
    cases same
    exact timely rfl
  · simp
  · simp
  · simp [BudgetRecord.isRemoval]

/-- Counting, a delta leads out of the budget, to an injection, or to a higher count. -/
theorem apply_counting {session : BudgetSession} (given : RuntimeTextDelta)
    (events : List GenerationEvent) (inject : InjectAnswer) (counting : session.state = .counting)
    (alive : session.terminal = false) :
    (Leaves session (session.applyReasoningBudget budget given events inject) [] ∧
        (events.any isReasoningCompleted = true ∨ given.tokenIds = [])) ∨
      (Leaves session (session.applyReasoningBudget budget given events inject) [.injected] ∧
        events.any isReasoningCompleted = false) ∨
      (events.any isReasoningCompleted = false ∧
        session.tokenCount + given.tokenIds.length < budget.maxTokens ∧
        ∃ tail, session.applyReasoningBudget budget given events inject =
          { session with
            postForceReasoningTail := tail
            tokenCount := session.tokenCount + given.tokenIds.length }) := by
  rcases @followTail_eq budget events session with ⟨tail, followed⟩
  rw [BudgetSession.applyReasoningBudget, if_neg (by simp [counting]), followed]
  dsimp only
  cases ended : events.any isReasoningCompleted with
  | true =>
      refine .inl ⟨?_, .inl rfl⟩
      rw [if_pos rfl, BudgetSession.completeReasoning, if_neg (by simp [counting])]
      exact ⟨(List.append_nil _).symm, by simp, rfl⟩
  | false =>
      rw [if_neg Bool.false_ne_true, if_neg (by simp [counting])]
      by_cases untold : given.tokenIds = []
      · rw [if_pos untold]
        have leaves : Leaves { session with postForceReasoningTail := tail }
          (BudgetSession.giveUp budget { session with postForceReasoningTail := tail }) [] :=
          giveUp_leaves _ alive
        exact .inl ⟨⟨leaves.log, leaves.left, leaves.pending⟩, .inr untold⟩
      · rw [if_neg untold]
        split
        · have leaves : Leaves
              { session with
                postForceReasoningTail := tail
                tokenCount := session.tokenCount + given.tokenIds.length }
              (BudgetSession.forceReasoningClose budget inject
                { session with
                  postForceReasoningTail := tail
                  tokenCount := session.tokenCount + given.tokenIds.length }) [.injected] :=
            forceReasoningClose_leaves inject counting alive
          exact .inr (.inl ⟨⟨leaves.log, leaves.left, leaves.pending⟩, rfl⟩)
        · rename_i below
          exact .inr (.inr ⟨rfl, Nat.lt_of_not_le below, tail, rfl⟩)

theorem sound_counting {session : BudgetSession} {given : RuntimeTextDelta}
    {events : List GenerationEvent} (inject : InjectAnswer) (ends : Bool)
    (midway : Midway budget session (events.any isReasoningCompleted))
    (counting : session.state = .counting) :
    BudgetSound budget
      { (session.applyReasoningBudget budget given events inject).account .counting given
          events with
        terminal := ((session.applyReasoningBudget budget given events inject).account
          .counting given events).terminal || ends } := by
  rcases midway.counting counting with ⟨uninjected, uncompleted, count, below⟩
  have started : session.state ≠ .done := by
    rw [counting]
    simp
  have unmerged : session.duplicateCloseConsumedInDelta = false := by
    cases merged : session.duplicateCloseConsumedInDelta with
    | false => rfl
    | true => cases counting.symm.trans (midway.merged merged)
  have clean := midway.unedited unmerged (.inl started)
  -- A session that has left the counting.
  have leave {next : BudgetSession} {added : List BudgetRecord} {terminal : Bool}
      (leaves : Leaves session next added)
      (plain : added.countP BudgetRecord.isRemoval = 0)
      (kept : BudgetKept budget (session.log ++ added ++
        [.seen given.tokenIds.length (events.any isReasoningCompleted)])) :
      BudgetSound budget { next.account .counting given events with terminal := terminal } := by
    rw [BudgetSession.account, if_pos rfl, BudgetSession.record, leaves.log]
    refine ⟨kept, fun back => absurd back leaves.left, ?_, ?_⟩
    · intro _
      exact leaves.pending.trans (midway.unpended started)
    · intro _ _
      simp [List.countP_append, clean, plain, BudgetRecord.isRemoval]
  rcases @apply_counting budget _ given events inject counting midway.alive with
    ⟨leaves, quiet⟩ | ⟨leaves, running⟩ | ⟨running, more, tail, same⟩
  · apply leave leaves rfl
    rw [List.append_nil]
    apply midway.kept.seen
    intro running reached
    rcases quiet with ended | untold
    · rw [ended] at running
      cases running
    · rw [untold, List.length_nil, count] at reached
      omega
  · apply leave leaves rfl
    have injected : BudgetKept budget (session.log ++ [.injected]) := by
      apply midway.kept.record
      · intro _
        refine ⟨uninjected, fun completed => ?_⟩
        have ended := uncompleted completed
        rw [running] at ended
        cases ended
      · simp
      · simp
      · simp
      · simp [BudgetRecord.isRemoval]
    apply injected.seen
    intro _ _
    exact List.mem_append_right _ (List.mem_singleton_self _)
  · rw [same, BudgetSession.account, if_pos rfl, BudgetSession.record, running]
    refine ⟨?_, ?_, ?_, ?_⟩
    · apply midway.kept.seen
      intro _ reached
      rw [count] at reached
      omega
    · intro _ _
      refine ⟨by simp [uninjected], ?_, ?_, more⟩
      · intro completed
        have ended := uncompleted (by simpa using completed)
        rw [running] at ended
        cases ended
      · rw [seenTokens_append, count]
        rfl
    · intro _
      exact midway.unpended started
    · intro _ _
      simp [List.countP_append, clean, BudgetRecord.isRemoval]

/-- A session that is not counting, with the same log as before. -/
theorem Midway.sound {session next : BudgetSession} {ended : Bool}
    (midway : Midway budget session ended) (log : next.log = session.log)
    (counted : next.state ≠ .counting)
    (unpended : next.state ≠ .done → next.duplicateClosePending = false)
    (unedited : next.terminal = false →
      next.state ≠ .done ∨ next.duplicateClosePending = true →
        session.duplicateCloseConsumedInDelta = false ∧
          (session.state ≠ .done ∨ session.duplicateClosePending = true)) :
    BudgetSound budget next := by
  refine ⟨log ▸ midway.kept, fun counting => absurd counting counted, unpended, ?_⟩
  intro alive still
  rcases unedited alive still with ⟨unmerged, still⟩
  rw [log]
  exact midway.unedited unmerged still

/-- Not counting, nothing is injected. -/
theorem sound_forced {session : BudgetSession} {given : RuntimeTextDelta}
    {events : List GenerationEvent} (inject : InjectAnswer) (ends : Bool)
    (midway : Midway budget session (events.any isReasoningCompleted))
    (counted : session.state ≠ .counting)
    (merged : session.duplicateCloseConsumedInDelta = true →
      events.any isReasoningCompleted = true ∨ ends = true) :
    BudgetSound budget
      { session.applyReasoningBudget budget given events inject with
        terminal :=
          (session.applyReasoningBudget budget given events inject).terminal || ends } := by
  have unmerged (other : session.state ≠ .forceRequested) :
      session.duplicateCloseConsumedInDelta = false := by
    cases consumed : session.duplicateCloseConsumedInDelta with
    | false => rfl
    | true => exact absurd (midway.merged consumed) other
  by_cases forced : session.state = .forceRequested
  swap
  · have past : session.state = .disabled ∨ session.state = .done := by
      cases state : session.state with
      | disabled => exact .inl rfl
      | done => exact .inr rfl
      | counting => exact absurd state counted
      | forceRequested => exact absurd state forced
    rw [BudgetSession.applyReasoningBudget, if_pos past]
    exact midway.sound rfl counted midway.unpended fun _ still => ⟨unmerged forced, still⟩
  have started : session.state ≠ .done := by
    rw [forced]
    simp
  rcases @followTail_eq budget events session with ⟨tail, followed⟩
  rw [BudgetSession.applyReasoningBudget, if_neg (by simp [forced]), followed]
  dsimp only
  cases ended : events.any isReasoningCompleted with
  | true =>
      rw [if_pos rfl, BudgetSession.completeReasoning, if_pos forced]
      dsimp only
      split
      · -- The message has lost its race, and the session ends.
        rw [BudgetSession.fail, if_neg (by simp [midway.alive])]
        exact midway.sound rfl (by simp) (by simp) (by simp)
      · refine midway.sound rfl (by simp) (by simp) ?_
        intro _ still
        have pending := still.resolve_left (by simp)
        refine ⟨?_, .inl started⟩
        simpa using (Bool.and_eq_true_iff.mp pending).2
  | false =>
      rw [if_neg Bool.false_ne_true, if_pos forced]
      refine midway.sound rfl (by simp [forced]) (fun _ => midway.unpended started) ?_
      intro alive _
      refine ⟨?_, .inl started⟩
      cases consumed : session.duplicateCloseConsumedInDelta with
      | false => rfl
      | true =>
          have last := (merged consumed).resolve_left (by simp [ended])
          simp [last] at alive

/-! ## The whole delta -/

section Delta

variable {event : RuntimeTextDelta} {session next : BudgetSession}

theorem Prepared.unpended {given : Option RuntimeTextDelta}
    (prepared : Prepared budget event session given next) (sound : BudgetSound budget session) :
    next.state ≠ .done → next.duplicateClosePending = false := by
  rw [prepared.sameState]
  intro started
  rcases prepared.kind with ⟨_, same, _⟩ | ⟨_, _, _, same, _⟩ | ⟨_, cleared, _⟩
  · exact same.trans (sound.unpended started)
  · exact same.trans (sound.unpended started)
  · exact cleared

/-- Only an unedited session edits. -/
theorem Prepared.unedited {given : Option RuntimeTextDelta}
    (prepared : Prepared budget event session given next) (sound : BudgetSound budget session)
    (alive : session.terminal = false) (edits : given ≠ some event) :
    session.log.countP BudgetRecord.isRemoval = 0 := by
  rcases prepared.kind with ⟨same, _⟩ | ⟨_, forced, _⟩ | ⟨pending, _⟩
  · exact absurd same edits
  · exact sound.unedited alive (.inl (by simp [forced]))
  · exact sound.unedited alive (.inr pending)

theorem Prepared.suppressed (prepared : Prepared budget event session none next)
    (sound : BudgetSound budget session) (alive : session.terminal = false) :
    BudgetSound budget (next.record (.suppressed event)) := by
  have pending : session.duplicateClosePending = true ∧ next.duplicateClosePending = false := by
    rcases prepared.kind with ⟨impossible, _⟩ | ⟨impossible, _⟩ | ⟨pending, cleared, _⟩
    · cases impossible
    · exact absurd rfl impossible
    · exact ⟨pending, cleared⟩
  have ended : next.state = .done := by
    rw [prepared.sameState]
    by_contra started
    exact absurd (sound.unpended started) (by simp [pending.1])
  refine ⟨?_, ?_, ?_, ?_⟩
  · rw [BudgetSession.record, prepared.sameLog]
    apply sound.kept.record
    · simp
    · simp
    · simp
    · intro same equal
      cases equal
      exact prepared.suppresses rfl
    · intro _
      exact prepared.unedited sound alive (by simp)
  · intro counting
    cases ended.symm.trans counting
  · intro started
    exact absurd ended started
  · intro _ still
    rcases still with started | waits
    · exact absurd ended started
    · cases pending.2.symm.trans waits

theorem BudgetKept.completed {log : List BudgetRecord} (kept : BudgetKept budget log) :
    BudgetKept budget (log ++ [.completed]) := by
  apply kept.record
  · simp
  · simp
  · simp
  · simp
  · simp [BudgetRecord.isRemoval]

theorem Prepared.midway {given : RuntimeTextDelta}
    (prepared : Prepared budget event session (some given) next)
    (sound : BudgetSound budget session) (alive : session.terminal = false)
    (events : List GenerationEvent) :
    Midway budget ((next.record (.handed event given)).observe events)
      (events.any isReasoningCompleted) := by
  have handed : BudgetKept budget (next.log ++ [.handed event given]) := by
    rw [prepared.sameLog]
    apply sound.kept.record
    · simp
    · simp
    · intro same other equal
      cases equal
      exact prepared.edits given rfl
    · simp
    · intro removes
      apply prepared.unedited sound alive
      intro same
      cases same
      simp [BudgetRecord.isRemoval] at removes
  have clean (unconsumed : next.duplicateCloseConsumedInDelta = false)
      (still : next.state ≠ .done ∨ next.duplicateClosePending = true) :
      (next.log ++ [BudgetRecord.handed event given]).countP BudgetRecord.isRemoval = 0 := by
    rcases prepared.kind with ⟨same, waits, _⟩ | ⟨_, _, _, _, consumed⟩ | ⟨pending, cleared, _⟩
    · cases same
      rw [waits, prepared.sameState] at still
      simp [prepared.sameLog, sound.unedited alive still, BudgetRecord.isRemoval]
    · cases unconsumed.symm.trans consumed
    · rcases still with started | waits
      · rw [prepared.sameState] at started
        cases (sound.unpended started).symm.trans pending
      · cases cleared.symm.trans waits
  have merged (consumed : next.duplicateCloseConsumedInDelta = true) :
      next.state = .forceRequested := by
    rw [prepared.sameState]
    rcases prepared.kind with ⟨_, _, unconsumed⟩ | ⟨_, forced, _⟩ | ⟨_, _, unconsumed⟩
    · cases unconsumed.symm.trans consumed
    · exact forced
    · cases unconsumed.symm.trans consumed
  have counting (counting : next.state = .counting) :
      .injected ∉ next.log ++ [.handed event given] ∧
        .completed ∉ next.log ++ [.handed event given] ∧
        seenTokens (next.log ++ [.handed event given]) = next.tokenCount ∧
        next.tokenCount < budget.maxTokens := by
    rw [prepared.sameState] at counting
    rcases sound.counting counting alive with ⟨uninjected, uncompleted, count, below⟩
    rw [prepared.sameLog, prepared.sameCount, seenTokens_append, count]
    exact ⟨by simp [uninjected], by simp [uncompleted], rfl, below⟩
  rw [BudgetSession.observe]
  cases ended : events.any isReasoningCompleted with
  | false =>
      rw [if_neg Bool.false_ne_true]
      refine ⟨handed, prepared.sameTerminal.trans alive, ?_, prepared.unpended sound, merged,
        clean⟩
      intro counts
      rcases counting counts with ⟨uninjected, uncompleted, rest⟩
      exact ⟨uninjected, fun completed => absurd completed uncompleted, rest⟩
  | true =>
      rw [if_pos rfl]
      refine ⟨handed.completed, prepared.sameTerminal.trans alive, ?_, prepared.unpended sound,
        merged, ?_⟩
      · intro counts
        rcases counting counts with ⟨uninjected, _, count, below⟩
        refine ⟨?_, fun _ => rfl, ?_, below⟩
        · simpa [BudgetSession.record] using uninjected
        · exact (seenTokens_append _ _).trans count
      · intro unconsumed still
        have clean := clean unconsumed still
        simpa [BudgetSession.record, BudgetRecord.isRemoval] using clean

theorem observe_same (session : BudgetSession) (events : List GenerationEvent) :
    (session.observe events).state = session.state ∧
      (session.observe events).duplicateCloseConsumedInDelta =
        session.duplicateCloseConsumedInDelta := by
  unfold BudgetSession.observe
  split <;> exact ⟨rfl, rfl⟩

/-- A staged delta of no tokens, in which the reasoning goes on, costs no account. -/
theorem Midway.sound_staged {given : RuntimeTextDelta} {events : List GenerationEvent}
    {before : ReasoningBudgetState} {ends : Bool}
    (midway : Midway budget session (events.any isReasoningCompleted))
    (counting : session.state = .counting) (came : before = .counting)
    (running : events.any isReasoningCompleted = false) (untold : given.tokenIds = []) :
    BudgetSound budget
      (BudgetSession.account before given events { session with terminal := ends }) := by
  rcases midway.counting counting with ⟨uninjected, uncompleted, count, below⟩
  have started : session.state ≠ .done := by
    rw [counting]
    simp
  have unmerged : session.duplicateCloseConsumedInDelta = false := by
    cases merged : session.duplicateCloseConsumedInDelta with
    | false => rfl
    | true => cases counting.symm.trans (midway.merged merged)
  rw [BudgetSession.account, if_pos came, BudgetSession.record, running, untold]
  refine ⟨?_, ?_, fun _ => midway.unpended started, ?_⟩
  · apply midway.kept.seen
    intro _ reached
    rw [List.length_nil, count] at reached
    omega
  · intro _ _
    refine ⟨by simp [uninjected], ?_, ?_, below⟩
    · intro completed
      have ended := uncompleted (by simpa using completed)
      rw [running] at ended
      cases ended
    · exact (seenTokens_append _ _).trans count
  · intro _ _
    simp [midway.unedited unmerged (.inl started), BudgetRecord.isRemoval]

/-- The duplicate is taken from a delta with two close spans. -/
theorem Prepared.twice {given : Option RuntimeTextDelta}
    (prepared : Prepared budget event session given next)
    (consumed : next.duplicateCloseConsumedInDelta = true) :
    2 ≤ (closeSpans budget event).length := by
  rcases prepared.kind with ⟨_, _, unconsumed⟩ | ⟨_, _, two, _⟩ | ⟨_, _, unconsumed⟩
  · cases unconsumed.symm.trans consumed
  · exact two
  · cases unconsumed.symm.trans consumed

/-- While counting a delta is handed over as it is. -/
theorem Prepared.unchanged {given : RuntimeTextDelta}
    (prepared : Prepared budget event session (some given) next)
    (sound : BudgetSound budget session) (counting : session.state = .counting) :
    given = event := by
  rcases prepared.kind with ⟨same, _⟩ | ⟨_, forced, _⟩ | ⟨pending, _⟩
  · exact Option.some.inj same
  · cases counting.symm.trans forced
  · have unpended := sound.unpended (by simp [counting])
    cases unpended.symm.trans pending

/-- Behind an issue that is staged no account is kept. -/
theorem Midway.staged {given : RuntimeTextDelta} {events : List GenerationEvent} {ends : Bool}
    (midway : Midway budget session (events.any isReasoningCompleted))
    (quiet : session.state = .counting →
      events.any isReasoningCompleted = false ∧ given.tokenIds = [])
    (single : session.duplicateCloseConsumedInDelta = true → ends = true) :
    BudgetSound budget
      (BudgetSession.account session.state given events { session with terminal := ends }) := by
  by_cases counting : session.state = .counting
  · rcases quiet counting with ⟨running, untold⟩
    exact midway.sound_staged counting counting running untold
  · rw [BudgetSession.account, if_neg counting]
    refine midway.sound rfl counting midway.unpended ?_
    intro alive still
    refine ⟨?_, still⟩
    cases consumed : session.duplicateCloseConsumedInDelta with
    | false => rfl
    | true => cases (single consumed).symm.trans alive

theorem Midway.clear {given : RuntimeTextDelta} {events : List GenerationEvent}
    (inject : InjectAnswer) {ends : Bool}
    (midway : Midway budget session (events.any isReasoningCompleted))
    (single : session.duplicateCloseConsumedInDelta = true →
      events.any isReasoningCompleted = true ∨ ends = true) :
    BudgetSound budget
      { (session.applyReasoningBudget budget given events inject).account session.state given
          events with
        terminal := ((session.applyReasoningBudget budget given events inject).account
          session.state given events).terminal || ends } := by
  by_cases counting : session.state = .counting
  · rw [counting]
    exact sound_counting inject ends midway counting
  · rw [BudgetSession.account, if_neg counting]
    exact sound_forced inject ends midway counting single

theorem handleTextDelta_sound {action : DeltaAction} (sound : BudgetSound budget session)
    (orderly : ¬ BudgetFault budget session action) :
    BudgetSound budget (session.handleTextDelta budget action.event action.answer action.inject
      action.ends) := by
  have prepared := @prepare_prepared budget action.event session
  rw [BudgetSession.handleTextDelta]
  generalize session.prepareReasoningBudgetDelta budget action.event = result at prepared ⊢
  rcases result with ⟨given, next⟩
  dsimp only at prepared ⊢
  cases terminal : session.terminal with
  | true =>
      have ended : next.terminal = true := prepared.sameTerminal.trans terminal
      rw [if_pos ended]
      exact .of_terminal (prepared.sameLog ▸ sound.kept) (prepared.unpended sound) ended
  | false =>
      rw [if_neg (by simp [prepared.sameTerminal, terminal])]
      cases given with
      | none => exact prepared.suppressed sound terminal
      | some given =>
          dsimp only
          cases answered : action.answer with
          | failed =>
              have midway := prepared.midway sound terminal []
              exact .of_terminal midway.kept midway.unpended rfl
          | answered events issue =>
              have midway := prepared.midway sound terminal events
              have same := observe_same (next.record (.handed action.event given)) events
              dsimp only at same ⊢
              generalize (next.record (.handed action.event given)).observe events = seen
                at midway same ⊢
              have sameState : seen.state = session.state := same.1.trans prepared.sameState
              have twice (consumed : seen.duplicateCloseConsumedInDelta = true) :
                  session.state = .forceRequested ∧
                    2 ≤ (closeSpans budget action.event).length :=
                ⟨sameState.symm.trans (midway.merged consumed),
                  prepared.twice (same.2.symm.trans consumed)⟩
              have before : (next.record (.handed action.event given)).state = seen.state :=
                same.1.symm
              rw [before]
              cases issue with
              | refused => exact .of_terminal midway.kept midway.unpended rfl
              | staged =>
                  apply midway.staged
                  · intro counting
                    have counting := sameState.symm.trans counting
                    have quiet := mt (fun faulty => (⟨terminal, events, .staged, answered, by simp,
                      .inl ⟨counting, rfl, faulty⟩⟩ : BudgetFault budget session action)) orderly
                    rcases not_or.mp quiet with ⟨running, untold⟩
                    rw [prepared.unchanged sound counting]
                    exact ⟨Bool.eq_false_iff.mpr running, not_not.mp untold⟩
                  · intro consumed
                    by_contra going
                    exact orderly ⟨terminal, events, .staged, answered, by simp, .inr
                      ⟨(twice consumed).1, (twice consumed).2, Bool.eq_false_iff.mpr going,
                        by simp⟩⟩
              | clear =>
                  apply midway.clear
                  intro consumed
                  by_contra neither
                  rcases not_or.mp neither with ⟨running, going⟩
                  exact orderly ⟨terminal, events, .clear, answered, by simp, .inr
                    ⟨(twice consumed).1, (twice consumed).2, Bool.eq_false_iff.mpr going,
                      fun both => running both.2⟩⟩

end Delta

/-! ## Runs -/

/-- In a run that takes no path without an account the close is forced at most once and in
time, and at most one close token is kept from the parser. -/
theorem reasoning_budget_kept (budget : EffectiveReasoningBudget) (first : InjectAnswer)
    {actions : List DeltaAction} {session : BudgetSession}
    (run : (budgetMachine budget first).Runs actions session)
    (orderly : ¬ (budgetMachine budget first).Passes (BudgetFault budget) actions) :
    BudgetKept budget session.log := by
  have sound : BudgetSound budget session := by
    apply run.orderly (initial_sound first) _ orderly
    intro state action next sound fair taken
    cases taken
    exact handleTextDelta_sound sound fair
  exact sound.kept

theorem plainDelta_provenance :
    (none : Option (List NativeTokenSpan)).isSome = true → false = true := id

def plainDelta (text : String) (tokenIds : List Nat) (nonempty : py text ≠ []) :
    RuntimeTextDelta where
  requestId := py "r"
  text := py text
  tokenIds
  nativeTokenSpans := none
  nativeTokenProvenance := false
  textNonempty := nonempty
  spansNeedProvenance := plainDelta_provenance
  spansFit := by simp

def closeControl : ReasoningControlSpec := ⟨py "</t>", true, by decide⟩

def smallBudget : EffectiveReasoningBudget := ⟨1, [], .request, closeControl, 7⟩

def reasoningAction : DeltaAction :=
  ⟨plainDelta "a" [1] (by decide), .answered [.reasoningDelta (py "r") (py "a")] .clear,
    .accepted, false⟩

def mergedDelta : RuntimeTextDelta where
  requestId := py "r"
  text := py "</t></t>"
  tokenIds := [7, 7]
  nativeTokenSpans := some [⟨0, 4, 7, py "</t>", by decide, by decide⟩,
    ⟨4, 8, 7, py "</t>", by decide, by decide⟩]
  nativeTokenProvenance := true
  textNonempty := by decide
  spansNeedProvenance := fun _ => rfl
  spansFit := by
    intro spans same
    cases same
    exact ⟨by decide, by decide, by decide⟩

def closingAction : DeltaAction :=
  ⟨mergedDelta, .answered [.reasoningCompleted (py "r") (py "a")] .clear, .accepted, false⟩

def afterReasoning : BudgetSession :=
  newBudgetSession.handleTextDelta smallBudget reasoningAction.event reasoningAction.answer
    .accepted false

def afterClosing : BudgetSession :=
  afterReasoning.handleTextDelta smallBudget closingAction.event closingAction.answer
    .accepted false

theorem reasoning_budget_kept_forced :
    BudgetKept smallBudget afterClosing.log ∧ ∃ given,
      RemovesClose smallBudget mergedDelta given ∧ given.text = py "</t>" ∧
      afterClosing.log = [.handed reasoningAction.event reasoningAction.event, .injected,
        .seen 1 false, .handed mergedDelta given, .completed] := by
  have first : (budgetMachine smallBudget .accepted).Runs [reasoningAction] afterReasoning := rfl
  have run : (budgetMachine smallBudget .accepted).Runs [reasoningAction, closingAction]
      afterClosing := rfl
  have orderly : ¬ (budgetMachine smallBudget .accepted).Passes (BudgetFault smallBudget)
      [reasoningAction, closingAction] := by
    intro passes
    rcases (Machine.passes_snoc first).mp passes with earlier | fault
    · rcases (Machine.passes_snoc Machine.runs_nil).mp earlier with before | fault
      · exact Machine.not_passes_nil before
      · rcases fault with ⟨_, events, issue, answered, _, ⟨_, staged, _⟩ | ⟨forced, _⟩⟩
        · cases answered
          cases staged
        · cases forced
    · rcases fault with ⟨_, events, issue, answered, _, ⟨_, staged, _⟩ | ⟨_, _, _, late⟩⟩
      · cases answered
        cases staged
      · cases answered
        exact late ⟨rfl, rfl⟩
  have kept := reasoning_budget_kept smallBudget .accepted run orderly
  refine ⟨kept, _, ?_, ?_, rfl⟩
  · have edits := kept.edits mergedDelta _ (show _ ∈ afterClosing.log from
      .tail _ (.tail _ (.tail _ (.head _))))
    rcases edits with same | removes
    · exact absurd same (by decide)
    · exact removes
  · rfl

/-- The parser reports the end of the reasoning one delta late, and a close token of the answer
is removed as well; or the end comes in a staged delta, and the close is forced behind it. -/
theorem budget_path_without_account :
    (∃ session, (budgetMachine ⟨0, [], .request, closeControl, 7⟩ .accepted).Runs
        [⟨mergedDelta, .answered [] .clear, .accepted, false⟩,
          ⟨plainDelta "x" [1] (by decide),
            .answered [.reasoningCompleted (py "r") (py "x")] .clear, .accepted, false⟩,
          ⟨mergedDelta, .answered [] .clear, .accepted, false⟩] session ∧
        session.log.countP BudgetRecord.isRemoval = 2) ∧
      ∃ session before after, (budgetMachine smallBudget .accepted).Runs
        [⟨plainDelta "x" [1] (by decide),
            .answered [.reasoningCompleted (py "r") (py "x")] .staged, .accepted, false⟩,
          ⟨plainDelta "y" [1] (by decide), .answered [] .clear, .accepted, false⟩] session ∧
        session.log = before ++ .injected :: after ∧ .completed ∈ before := by
  constructor
  · exact ⟨_, rfl, by decide⟩
  · refine ⟨_, [.handed (plainDelta "x" [1] (by decide)) (plainDelta "x" [1] (by decide)),
      .completed, .seen 1 true,
      .handed (plainDelta "y" [1] (by decide)) (plainDelta "y" [1] (by decide))], [.seen 1 false],
      rfl, rfl, by simp⟩

end ExQServe.Serving.ReasoningBudget
