import ExQServe.ToolWire.SessionOwnership

/-! # Chunks of a session

How the text is cut into chunks does not show in the session: a piece of text
leaves the same session whether it is fed whole or in two parts. -/

namespace ExQServe.ToolWire.ProductionToolWireSession

open ExQServe.Search ExQServe.Stream

def TokensSeparate (config : SessionConfig) : Prop :=
  ∀ insideParameter, InfixFree (config.tokens insideParameter)

theorem qwenSessionConfig_tokensSeparate (plan : QwenProductionPlan)
    (completedCallOffset : Nat) (validateMembership : Bool) :
    TokensSeparate
      (qwenSessionConfig plan completedCallOffset validateMembership) := by
  intro insideParameter
  cases insideParameter with
  | true =>
      change InfixFree [nativeParameterClose, nativeParameterClose].eraseDups
      decide
  | false =>
      change InfixFree ([parameterOpenPrefix, parameterOpenPrefix].eraseDups ++
        [toolCloseText])
      decide

variable {config : SessionConfig} {session : ProductionToolWireSession}

/-! ## Envelopes -/

theorem scanEnvelope_eq (turn : ProductionToolWireSession × PyStr) :
    scanEnvelope config turn =
      envelopeStep config turn >>= Sum.elim (scanEnvelope config) Except.ok :=
  whileLoop_eq (envelopeStep_decreases config) turn

theorem appendEnvelope_append (session : ProductionToolWireSession) (left right : PyStr) :
    (session.appendEnvelope left).appendEnvelope right =
      session.appendEnvelope (left ++ right) := by
  simp [appendEnvelope, Nat.add_assoc]

/-- What the rest of the text does after an envelope's scanner stopped. -/
def resumeEnvelope (config : SessionConfig) (more : PyStr)
    (turn : ProductionToolWireSession × PyStr) :
    EngineResult (ProductionToolWireSession × PyStr) :=
  match turn.1.state with
  | .envelope => consumeEnvelope config turn.1 more
  | .error => .ok (turn.1, [])
  | .between | .tail => .ok (turn.1, turn.2 ++ more)

/-- The scanner does not need the text in front of an unfinished token. -/
theorem scanEnvelope_skip {source : PyStr} (more : PyStr) (noTail : session.scanTail = [])
    (missing : firstToken source (config.tokens session.insideParameter) = none) :
    let safe := safePrefixLength source (config.tokens session.insideParameter)
    scanEnvelope config (session, source ++ more) =
      scanEnvelope config
        (session.appendEnvelope (source.take safe), source.drop safe ++ more) := by
  intro safe
  have safeLe : safe ≤ source.length - keepLength (config.tokens session.insideParameter) :=
    Nat.le_refl _
  have shifted := firstToken_append_of_none (fun token => config.tokens_ne_nil) safeLe
    missing more
  have taken : (source.take safe).length = safe := by
    rw [List.length_take]
    omega
  have whole : source ++ more = source.take safe ++ (source.drop safe ++ more) := by
    rw [← List.append_assoc, List.take_append_drop]
  have taking : ∀ count, (source ++ more).take (safe + count) =
      source.take safe ++ (source.drop safe ++ more).take count := by
    intro count
    rw [whole, List.take_append, taken, List.take_of_length_le (by omega)]
    congr 2
    omega
  have dropping : ∀ count, (source ++ more).drop (safe + count) =
      (source.drop safe ++ more).drop count := by
    intro count
    rw [whole, List.drop_append, taken, List.drop_of_length_le (by omega)]
    simp
  by_cases empty : source.drop safe ++ more = []
  · rw [List.append_eq_nil_iff] at empty
    rw [empty.1, empty.2, List.append_nil, List.append_nil, scanEnvelope_eq,
      scanEnvelope_eq (session.appendEnvelope _, _), envelopeStep_nil]
    by_cases sourceEmpty : source = []
    · subst sourceEmpty
      simp [envelopeStep_nil, appendEnvelope]
    · rw [envelopeStep_of_none sourceEmpty missing]
      rw [show source.drop (safePrefixLength source (config.tokens session.insideParameter)) = []
        from empty.1]
      simp only [appendEnvelope, noTail]
      rfl
  · have nonempty : source ++ more ≠ [] := by
      intro none
      rw [whole] at none
      exact empty (List.append_eq_nil_iff.mp none).2
    rw [scanEnvelope_eq, scanEnvelope_eq (session.appendEnvelope _, _)]
    cases found : firstToken (source.drop safe ++ more) (config.tokens session.insideParameter) with
    | none =>
        rw [found, Option.map_none] at shifted
        rw [envelopeStep_of_none nonempty shifted,
          @envelopeStep_of_none config (session.appendEnvelope _) _ empty found]
        have safes : safePrefixLength (source ++ more) (config.tokens session.insideParameter) =
            safe + safePrefixLength (source.drop safe ++ more)
              (config.tokens session.insideParameter) := by
          simp only [safePrefixLength, List.length_append, List.length_drop, safe]
          omega
        rw [safes, taking, dropping, appendEnvelope_append]
        rfl
    | some match_ =>
        rcases match_ with ⟨position, token⟩
        rw [found, Option.map_some] at shifted
        rw [envelopeStep_of_some nonempty shifted,
          @envelopeStep_of_some config (session.appendEnvelope _) _ empty _ _ found]
        simp only [Nat.add_assoc, taking, dropping, appendEnvelope_append]

theorem tokenStep_append (token rest more : PyStr) :
    tokenStep config session token (rest ++ more) =
      tokenStep config session token rest >>= fun outcome => .ok
        (outcome.map (fun next => (next.1, next.2 ++ more))
          fun turn => (turn.1, if turn.1.state = .error then [] else turn.2 ++ more)) := by
  unfold tokenStep
  split
  · rfl
  · split
    · rfl
    · cases parseCompletedEnvelope config session with
      | error failure => rfl
      | ok parsed =>
          simp only [bind, Except.bind, Sum.map_inr]
          split <;> rfl

/-- A token of the scanner ends its envelope, or the scanner goes on. -/
theorem tokenStep_cases (inEnvelope : session.state = .envelope)
    (noTail : session.scanTail = []) (token rest : PyStr) :
    Outcome (fun _ => True)
      (Sum.elim (fun next => next.1.state = .envelope ∧ next.1.scanTail = [])
        fun turn => turn.1.state = .between ∨ turn.1.state = .error)
      (tokenStep config session token rest) := by
  unfold tokenStep
  split
  · exact ⟨inEnvelope, noTail⟩
  · split
    · exact ⟨inEnvelope, noTail⟩
    · refine (parseCompletedEnvelope_frame config session).bind ?_
      rintro parsed _ ⟨_, _, state⟩
      exact state

theorem resumeEnvelope_of_closed {turn : ProductionToolWireSession × PyStr}
    (closed : turn.1.state = .between ∨ turn.1.state = .error) (more : PyStr) :
    resumeEnvelope config more turn =
      .ok (turn.1, if turn.1.state = .error then [] else turn.2 ++ more) := by
  unfold resumeEnvelope
  rcases closed with state | state <;> simp [state]

theorem scanEnvelope_append (separate : TokensSeparate config) (more : PyStr)
    (turn : ProductionToolWireSession × PyStr) :
    turn.1.state = .envelope → turn.1.scanTail = [] →
      scanEnvelope config (turn.1, turn.2 ++ more) =
        scanEnvelope config turn >>= resumeEnvelope config more := by
  induction turn using (envelopeStep_decreases config).induction with
  | turn turn induction =>
      rcases turn with ⟨session, source⟩
      intro inEnvelope noTail
      simp only at inEnvelope noTail ⊢
      rw [scanEnvelope_eq (session, source)]
      cases missing : firstToken source (config.tokens session.insideParameter) with
      | none =>
          rw [scanEnvelope_skip more noTail missing]
          by_cases empty : source = []
          · subst empty
            simp [envelopeStep_nil, resumeEnvelope, inEnvelope, consumeEnvelope, noTail,
              appendEnvelope, bind, Except.bind]
          · rw [envelopeStep_of_none empty missing]
            simp only [resumeEnvelope, appendEnvelope, inEnvelope, consumeEnvelope, noTail,
              bind, Except.bind, Sum.elim_inr]
      | some match_ =>
          rcases match_ with ⟨position, token⟩
          have bounds := firstToken_bounds missing
          have nonempty : source ≠ [] := by
            rintro rfl
            simp only [List.length_nil] at bounds
            omega
          have extended := firstToken_append_of_some (separate _) missing more
          have stepped : envelopeStep config (session, source) = _ :=
            envelopeStep_of_some nonempty missing
          rw [scanEnvelope_eq, envelopeStep_of_some (by simp [nonempty]) extended,
            List.take_append_of_le_length bounds.2.2.2,
            List.drop_append_of_le_length bounds.2.2.2, tokenStep_append, stepped]
          have cases_ := @tokenStep_cases config
            (session.appendEnvelope (source.take (position + token.length)))
            inEnvelope noTail token (source.drop (position + token.length))
          rw [← stepped] at cases_ ⊢
          cases outcome : envelopeStep config (session, source) with
          | error failure => rfl
          | ok result =>
              rw [outcome] at cases_
              cases result with
              | inl next => exact induction next outcome cases_.1 cases_.2
              | inr turn => exact (resumeEnvelope_of_closed cases_ more).symm

/-! ## Between envelopes -/

/-- What the rest of the text does after whitespace and openers were consumed. -/
def resumeBetween (config : SessionConfig) (more : PyStr)
    (turn : ProductionToolWireSession × PyStr) : ProductionToolWireSession × PyStr :=
  match turn.1.state with
  | .between => consumeBetween config turn.1 more
  | .tail => ({ turn.1 with remainder := turn.1.remainder ++ more }, [])
  | .error => (turn.1, [])
  | .envelope => (turn.1, turn.2 ++ more)

theorem holdWhitespace_of_invalid (session : ProductionToolWireSession)
    (invalid : session.betweenWsInvalid = true) (whitespace : PyStr) :
    session.holdWhitespace whitespace =
      { session with remainder := session.remainder ++ whitespace } := by
  unfold holdWhitespace
  split
  · rename_i empty
    rw [empty, List.append_nil]
  · rfl

theorem holdWhitespace_of_separator (session : ProductionToolWireSession)
    (valid : session.betweenWsInvalid = false)
    {whitespace : PyStr} (separator : IsSeparator (session.betweenWs ++ whitespace)) :
    session.holdWhitespace whitespace =
      { session with betweenWs := session.betweenWs ++ whitespace } := by
  unfold holdWhitespace
  split
  · rename_i empty
    rw [empty, List.append_nil]
  · rw [if_neg (by simp [valid])]
    exact if_pos separator

theorem holdWhitespace_of_not_separator (session : ProductionToolWireSession)
    (valid : session.betweenWsInvalid = false)
    {whitespace : PyStr} (nonempty : whitespace ≠ [])
    (unstructured : ¬IsSeparator (session.betweenWs ++ whitespace)) :
    session.holdWhitespace whitespace =
      { session with
        remainder := session.remainder ++ (session.betweenWs ++ whitespace)
        betweenWs := []
        betweenWsInvalid := true } := by
  unfold holdWhitespace
  rw [if_neg nonempty, if_neg (by simp [valid])]
  exact if_neg unstructured

theorem whitespace_regroup {held left right : PyStr} :
    IsSeparator ((held ++ left) ++ right) ↔ IsSeparator (held ++ (left ++ right)) := by
  rw [List.append_assoc]

theorem holdWhitespace_append (session : ProductionToolWireSession) (left right : PyStr) :
    (session.holdWhitespace left).holdWhitespace right =
      session.holdWhitespace (left ++ right) := by
  by_cases leftEmpty : left = []
  · rw [leftEmpty]
    rfl
  by_cases rightEmpty : right = []
  · rw [rightEmpty, List.append_nil]
    rfl
  have nonempty : left ++ right ≠ [] := by simp [leftEmpty]
  cases valid : session.betweenWsInvalid with
  | true =>
      have later := holdWhitespace_of_invalid
        { session with remainder := session.remainder ++ left } valid right
      rw [holdWhitespace_of_invalid session valid, holdWhitespace_of_invalid session valid,
        later, List.append_assoc]
  | false =>
      by_cases separator : IsSeparator (session.betweenWs ++ left)
      · rw [holdWhitespace_of_separator session valid separator]
        by_cases joined : IsSeparator (session.betweenWs ++ (left ++ right))
        · have later := holdWhitespace_of_separator
            { session with betweenWs := session.betweenWs ++ left } valid
            (whitespace_regroup.mpr joined)
          rw [holdWhitespace_of_separator session valid joined, later, List.append_assoc]
        · have later := holdWhitespace_of_not_separator
            { session with betweenWs := session.betweenWs ++ left } valid rightEmpty
            (mt whitespace_regroup.mp joined)
          rw [holdWhitespace_of_not_separator session valid nonempty joined, later,
            List.append_assoc]
      · have joined : ¬IsSeparator (session.betweenWs ++ (left ++ right)) :=
          fun whole => separator (whitespace_regroup.mpr whole).of_append
        rw [holdWhitespace_of_not_separator session valid leftEmpty separator,
          holdWhitespace_of_not_separator session valid nonempty joined,
          holdWhitespace_of_invalid _ rfl]
        simp only [List.append_assoc]

theorem openAdjacent_append (opened more : PyStr) :
    openAdjacent config session (opened ++ more) =
      resumeBetween config more (openAdjacent config session opened) := by
  unfold openAdjacent
  simp only
  repeat' split
  all_goals rfl

theorem settleBetween_nil (held : ProductionToolWireSession) :
    settleBetween config held [] = (held, []) := by
  simp [settleBetween]

theorem consumeBetween_of_between (noOpener : session.between = []) (incoming : PyStr) :
    consumeBetween config session incoming =
      settleBetween config (session.holdWhitespace (incoming.takeWhile PyChar.isSpace))
        (incoming.dropWhile PyChar.isSpace) := by
  have same : { session with between := [] } = session := by
    rw [← noOpener]
  unfold consumeBetween
  rw [same, noOpener]
  rfl

/-- A part of an opener decides the same when it comes back in front of more. -/
theorem settleBetween_append {held : ProductionToolWireSession}
    (isBetween : held.state = .between) (noOpener : held.between = [])
    {remainder : PyStr} (nonempty : remainder ≠ [])
    (noSpace : remainder.takeWhile PyChar.isSpace = []) (more : PyStr) :
    settleBetween config held (remainder ++ more) =
      resumeBetween config more (settleBetween config held remainder) := by
  have nonempty' : remainder ++ more ≠ [] := by simp [nonempty]
  unfold settleBetween
  simp only [if_neg nonempty, if_neg nonempty']
  by_cases opens : config.spec.toolOpen.text <+: remainder
  · rw [if_pos opens, if_pos (opens.trans (List.prefix_append _ _))]
    exact openAdjacent_append remainder more
  · by_cases partial_ : remainder <+: config.spec.toolOpen.text
    · rw [if_neg opens, if_pos partial_]
      have resumed : resumeBetween config more ({ held with between := remainder }, []) =
          consumeBetween config { held with between := remainder } more := by
        simp [resumeBetween, isBetween]
      have same : { held with between := [] } = held := by
        rw [← noOpener]
      have taken : (remainder ++ more).takeWhile PyChar.isSpace = [] := by
        rcases List.exists_cons_of_ne_nil nonempty with ⟨first, rest, rfl⟩
        simp only [List.takeWhile_cons, List.cons_append] at noSpace ⊢
        split at noSpace <;> simp_all
      have dropped : (remainder ++ more).dropWhile PyChar.isSpace = remainder ++ more := by
        have whole := List.takeWhile_append_dropWhile (p := PyChar.isSpace)
          (l := remainder ++ more)
        rwa [taken] at whole
      rw [resumed]
      unfold consumeBetween settleBetween
      simp only [same, taken, dropped, if_neg nonempty']
      rfl
    · have opens' : ¬config.spec.toolOpen.text <+: remainder ++ more := by
        intro prefix_
        rcases List.prefix_or_prefix_of_prefix prefix_ (List.prefix_append remainder more) with
          shorter | longer
        · exact opens shorter
        · exact partial_ longer
      have partial' : ¬remainder ++ more <+: config.spec.toolOpen.text := fun prefix_ =>
        partial_ ((List.prefix_append _ _).trans prefix_)
      rw [if_neg opens, if_neg partial_, if_neg opens', if_neg partial']
      simp [resumeBetween]

theorem consumeBetween_append (isBetween : session.state = .between) (incoming more : PyStr) :
    consumeBetween config session (incoming ++ more) =
      resumeBetween config more (consumeBetween config session incoming) := by
  have state := (holdWhitespace_state { session with between := [] }
    ((session.between ++ incoming).takeWhile PyChar.isSpace)).trans isBetween
  have between := holdWhitespace_between { session with between := [] }
    ((session.between ++ incoming).takeWhile PyChar.isSpace)
  unfold consumeBetween
  simp only [← List.append_assoc]
  by_cases blank : (session.between ++ incoming).dropWhile PyChar.isSpace = []
  · have all := List.dropWhile_eq_nil_iff.mp blank
    have taken := List.takeWhile_eq_self_iff.mpr all
    rw [taken] at state between ⊢
    rw [List.takeWhile_append_of_pos all, List.dropWhile_append_of_pos all, blank,
      settleBetween_nil, ← holdWhitespace_append]
    simp only [resumeBetween, state]
    exact (consumeBetween_of_between between more).symm
  · have notAll : ((session.between ++ incoming).dropWhile PyChar.isSpace).isEmpty = false := by
      simpa using blank
    have taken : (session.between ++ incoming ++ more).takeWhile PyChar.isSpace =
        (session.between ++ incoming).takeWhile PyChar.isSpace := by
      rw [List.takeWhile_append, if_neg]
      intro whole
      have same := (List.takeWhile_prefix PyChar.isSpace
        (l := session.between ++ incoming)).eq_of_length whole
      exact blank (List.dropWhile_eq_nil_iff.mpr (List.takeWhile_eq_self_iff.mp same))
    rw [taken, List.dropWhile_append, notAll]
    refine settleBetween_append state between blank ?_ more
    rcases List.exists_cons_of_ne_nil blank with ⟨first, rest, equal⟩
    have notSpace := List.head_dropWhile_not PyChar.isSpace blank
    rw [equal]
    simp only [equal, List.head_cons] at notSpace
    simp [notSpace]

/-! ## Chunks -/

theorem consume_eq (session : ProductionToolWireSession) (chunk : PyStr) :
    consume config session chunk =
      feedStep config (session, chunk) >>=
        Sum.elim (fun next => consume config next.1 next.2) Except.ok :=
  whileLoop_eq (feedStep_decreases config) (session, chunk)

@[simp] theorem consume_nil (session : ProductionToolWireSession) :
    consume config session [] = .ok session := by
  rw [consume_eq]
  rfl

theorem consume_of_error (failed : session.state = .error) (chunk : PyStr) :
    consume config session chunk = .ok session := by
  rw [consume_eq]
  unfold feedStep
  simp only [failed]
  split <;> rfl

theorem consume_of_tail (inTail : session.state = .tail) (chunk : PyStr) :
    consume config session chunk =
      .ok { session with remainder := session.remainder ++ chunk } := by
  rw [consume_eq]
  unfold feedStep
  simp only [inTail]
  split
  · rename_i empty
    rw [empty, List.append_nil, ← inTail]
    rfl
  · rfl

theorem consume_of_envelope (inEnvelope : session.state = .envelope) {chunk : PyStr}
    (nonempty : chunk ≠ []) :
    consume config session chunk =
      consumeEnvelope config session chunk >>= fun next => consume config next.1 next.2 := by
  rw [consume_eq]
  simp only [feedStep, if_neg nonempty, inEnvelope]
  cases consumeEnvelope config session chunk <;> rfl

theorem consume_of_between (isBetween : session.state = .between) {chunk : PyStr}
    (nonempty : chunk ≠ []) :
    consume config session chunk =
      consume config (consumeBetween config session chunk).1
        (consumeBetween config session chunk).2 := by
  rw [consume_eq]
  simp only [feedStep, if_neg nonempty, isBetween]
  rfl

theorem consumeEnvelope_append (separate : TokensSeparate config)
    (inEnvelope : session.state = .envelope) (chunk more : PyStr) :
    consumeEnvelope config session (chunk ++ more) =
      consumeEnvelope config session chunk >>= resumeEnvelope config more := by
  unfold consumeEnvelope
  rw [← List.append_assoc]
  exact scanEnvelope_append separate more
    ({ session with scanTail := [] }, session.scanTail ++ chunk) inEnvelope rfl

theorem consume_append (separate : TokensSeparate config) (more : PyStr)
    (turn : ProductionToolWireSession × PyStr) :
    consume config turn.1 (turn.2 ++ more) =
      consume config turn.1 turn.2 >>= fun next => consume config next more := by
  by_cases moreEmpty : more = []
  · subst moreEmpty
    simp only [List.append_nil, consume_nil]
    exact (bind_pure _).symm
  induction turn using (feedStep_decreases config).induction with
  | turn turn induction =>
      rcases turn with ⟨session, pending⟩
      simp only at induction ⊢
      by_cases empty : pending = []
      · subst empty
        rfl
      have nonempty : pending ++ more ≠ [] := by simp [empty]
      cases state : session.state with
      | error => simp only [consume_of_error state, bind, Except.bind]
      | tail =>
          have later := @consume_of_tail config
            { session with remainder := session.remainder ++ pending } state more
          simp only [consume_of_tail state, bind, Except.bind, later, List.append_assoc]
      | envelope =>
          rw [consume_of_envelope state nonempty, consume_of_envelope state empty,
            consumeEnvelope_append separate state, bind_assoc, bind_assoc]
          have stopped := scanEnvelope_length config { session with scanTail := [] }
            (session.scanTail ++ pending) rfl
          cases consumed : consumeEnvelope config session pending with
          | error failure => rfl
          | ok next =>
              have stepped : feedStep config (session, pending) = .ok (.inl next) := by
                simp only [feedStep, if_neg empty, state, consumed, bind, Except.bind]
              rw [show scanEnvelope config _ = _ from consumed] at stopped
              change resumeEnvelope config more next >>= _ =
                consume config next.1 next.2 >>= _
              cases nextState : next.1.state with
              | envelope =>
                  have noRest : next.2 = [] := by
                    rcases stopped.2 with stopped | stopped
                    · exact stopped.1
                    · exact absurd nextState stopped.1
                  rw [noRest, consume_nil]
                  simp only [resumeEnvelope, nextState]
                  exact (consume_of_envelope nextState moreEmpty).symm
              | error =>
                  simp only [resumeEnvelope, nextState, consume_of_error nextState, bind,
                    Except.bind]
              | between =>
                  simp only [resumeEnvelope, nextState]
                  exact induction next stepped
              | tail =>
                  simp only [resumeEnvelope, nextState]
                  exact induction next stepped
      | between =>
          rw [consume_of_between state nonempty, consume_of_between state empty,
            consumeBetween_append state]
          have stopped := consumeBetween_length config session pending
          have stepped : feedStep config (session, pending) =
              .ok (.inl (consumeBetween config session pending)) := by
            simp only [feedStep, if_neg empty, state]
          have continued := induction _ stepped
          generalize consumeBetween config session pending = next at *
          cases nextState : next.1.state with
          | envelope =>
              simp only [resumeBetween, nextState]
              exact continued
          | between =>
              have noRest : next.2 = [] := by
                rcases stopped.2.2 with stopped | stopped
                · exact stopped
                · rw [nextState] at stopped
                  cases stopped
              rw [noRest, consume_nil]
              simp only [resumeBetween, nextState]
              exact (consume_of_between nextState moreEmpty).symm
          | tail =>
              have noRest : next.2 = [] := by
                rcases stopped.2.2 with stopped | stopped
                · exact stopped
                · rw [nextState] at stopped
                  cases stopped
              have later : (Except.ok next.1 >>= fun next => consume config next more) = _ :=
                consume_of_tail nextState more
              rw [noRest, consume_nil, later]
              simp only [resumeBetween, nextState, consume_nil]
          | error =>
              simp only [resumeBetween, nextState, consume_of_error nextState, bind,
                Except.bind]

theorem consume_cutFree (separate : TokensSeparate config) :
    CutFree (fun _ => True) (consume config) where
  nil := fun session _ => consume_nil session
  append := fun session first second _ => consume_append separate second (session, first)
  preserves := fun _ _ _ _ _ => trivial

/-- The session after a call of `feed`, whatever the call reports. -/
theorem feed_session {session : ProductionToolWireSession} {fed : PyStr}
    (owns : Owns config fed session) (chunk : PyStr) :
    (feed config session chunk).map Prod.fst = consume config session chunk := by
  unfold feed
  rcases owns.final with ⟨unfinished, _⟩ | ⟨failed, result, final, _⟩
  · rw [unfinished]
    simp only
    split
    · rename_i empty
      subst empty
      rw [consume_nil]
      exact congrArg Except.ok (progressResult_of_owns owns).1
    · have consumedOwns := consume_owns chunk owns
      cases consumed : consume config session chunk with
      | error failure => rfl
      | ok next =>
          rw [consumed] at consumedOwns
          simp only [bind, Except.bind]
          cases final : next.finalResult with
          | some result => rfl
          | none => exact congrArg Except.ok (progressResult_of_owns consumedOwns).1
  · rw [final, consume_of_error failed]
    rfl

theorem feedChunks_session (chunks : List PyStr) :
    ∀ {session : ProductionToolWireSession} {fed : PyStr}, Owns config fed session →
      (feedChunks config session chunks).map Prod.fst =
        feedAll (consume config) session chunks := by
  induction chunks with
  | nil => exact fun _ => rfl
  | cons chunk chunks induction =>
      intro session fed owns
      have first := feed_session owns chunk
      have answers := feed_owns chunk owns
      unfold feedChunks feedAll
      rw [List.foldlM_cons, ← first]
      cases answer : feed config session chunk with
      | error failure => rfl
      | ok answer' =>
          rcases answer' with ⟨next, result⟩
          rw [answer] at answers
          have rest := induction answers.1
          unfold feedAll at rest
          simp only [bind, Except.bind, Except.map] at rest ⊢
          rw [← rest]
          cases feedChunks config next chunks <;> rfl

theorem run_eq_feedAll (chunks : List PyStr) :
    run config chunks =
      feedAll (consume config) fresh chunks >>= fun session =>
        .ok (finish config session).2 := by
  rw [← feedChunks_session chunks (owns_fresh config)]
  unfold run
  cases feedChunks config fresh chunks <;> rfl

/-- A production session gives the same result however the text is cut. -/
theorem qwenSession_run_chunks (plan : QwenProductionPlan) (completedCallOffset : Nat)
    (validateMembership : Bool) (chunks : List PyStr) :
    let config := qwenSessionConfig plan completedCallOffset validateMembership
    run config chunks = run config [chunks.flatten] := by
  intro config
  have cutFree := consume_cutFree
    (qwenSessionConfig_tokensSeparate plan completedCallOffset validateMembership)
  rw [run_eq_feedAll, run_eq_feedAll, cutFree.feedAll_eq chunks fresh trivial,
    cutFree.feedAll_eq [chunks.flatten] fresh trivial]
  simp only [List.flatten_cons, List.flatten_nil, List.append_nil]

end ExQServe.ToolWire.ProductionToolWireSession
