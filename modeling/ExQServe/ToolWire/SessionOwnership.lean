import ExQServe.ToolWire.EngineBounds
import ExQServe.ToolWire.Session

/-! # Ownership of text in a session

The text fed so far is always the join of the session's buffers: which ones, and
in which order, depends on the state. Every step of the session keeps that. -/

namespace ExQServe.ToolWire.ProductionToolWireSession

open ExQServe.Search ExQServe.Stream

/-! ## Regions -/

/-- The parser decodes the envelope, alone and whole, to one call. -/
def Decodes (config : SessionConfig) (envelope : PyStr) (call : WireToolCall) : Prop :=
  parseSequence envelope config.spec config.plan = .ok (⟨[call]⟩, envelope.length)

def IsSeparator (text : PyStr) : Prop :=
  text.length ≤ structuralWsMax ∧ text.all isStructuralWs = true

/-- Envelopes with their calls in order, separated by structural whitespace. A
call's index is its position. -/
inductive OwnedRegion (config : SessionConfig) : PyStr → List WireToolCall → Prop
  | first {envelope : PyStr} {call : WireToolCall} :
      Decodes config envelope call →
      OwnedRegion config envelope [{ call with index := 0 }]
  | next {region separator envelope : PyStr} {calls : List WireToolCall}
      {call : WireToolCall} :
      OwnedRegion config region calls →
      IsSeparator separator →
      Decodes config envelope call →
      OwnedRegion config (region ++ separator ++ envelope)
        (calls ++ [{ call with index := calls.length }])

inductive EnvelopeStart (config : SessionConfig) : PyStr → List WireToolCall → Prop
  | first : EnvelopeStart config [] []
  | next {region separator : PyStr} {calls : List WireToolCall} :
      OwnedRegion config region calls →
      IsSeparator separator →
      EnvelopeStart config (region ++ separator) calls

theorem EnvelopeStart.extend {config : SessionConfig} {start envelope : PyStr}
    {calls : List WireToolCall} {call : WireToolCall}
    (started : EnvelopeStart config start calls) (decodes : Decodes config envelope call) :
    OwnedRegion config (start ++ envelope)
      (calls ++ [{ call with index := calls.length }]) := by
  cases started with
  | first => exact .first decodes
  | next region separator => exact .next region separator decodes

/-- Text that ends with what a session refuses: an envelope that cannot be
decoded, or an adjacent opener. The number is that of the accepted envelopes. -/
inductive Rejected (config : SessionConfig) : PyStr → Nat → Prop
  | envelope {start envelope close : PyStr} {calls : List WireToolCall} :
      EnvelopeStart config start calls →
      close ∈ config.toolCloseForms →
      close <:+ envelope →
      (atCallLimit config calls.length = true ∨
        ∀ call, decodeEnvelope config envelope ≠ .ok call) →
      Rejected config (start ++ envelope) calls.length
  | opener {region whitespace : PyStr} {calls : List WireToolCall} :
      OwnedRegion config region calls →
      whitespace.all PyChar.isSpace = true →
      (¬IsSeparator whitespace ∨ config.plan.allowParallel = false ∨
        atCallLimit config calls.length = true) →
      Rejected config (region ++ whitespace ++ config.spec.toolOpen.text) calls.length

def Reports (result : ProductionToolWireResult) : Prop :=
  result.status = .incomplete ∨ result.status = .malformed

structure RejectedResult (config : SessionConfig) (fed : PyStr)
    (result : ProductionToolWireResult) : Prop where
  reports : Reports result
  fedPrefix : result.rawRegion <+: fed
  rejected : Rejected config result.rawRegion result.completedEnvelopes
  offset : ∃ issue offset, result.issues = [issue] ∧ issue.offset = some offset ∧
    offset ≤ result.rawRegion.length

theorem RejectedResult.extend {config : SessionConfig} {fed : PyStr}
    {result : ProductionToolWireResult} (rejected : RejectedResult config fed result)
    (more : PyStr) : RejectedResult config (fed ++ more) result :=
  { rejected with fedPrefix := rejected.fedPrefix.trans (List.prefix_append _ _) }

/-! ## The invariant -/

structure OwnsEnvelope (config : SessionConfig) (fed : PyStr)
    (session : ProductionToolWireSession) : Prop where
  start : EnvelopeStart config session.region session.calls
  whole : fed = session.region ++ session.envelope ++ session.scanTail
  owned : session.ownedPrefixChars = session.region.length + session.envelope.length
  between : session.between = []
  betweenWs : session.betweenWs = []
  valid : session.betweenWsInvalid = false
  remainder : session.remainder = []
  unfinished : session.finalResult = none

/-- After an envelope, while only whitespace and a part of an opener followed. -/
structure OwnsBetween (config : SessionConfig) (fed : PyStr)
    (session : ProductionToolWireSession) : Prop where
  accepted : OwnedRegion config session.region session.calls
  whole : fed = session.region ++ session.betweenSource
  owned : session.ownedPrefixChars = session.region.length
  envelope : session.envelope = []
  scanTail : session.scanTail = []
  separator : session.betweenWsInvalid = false →
    IsSeparator session.betweenWs ∧ session.betweenWs.all PyChar.isSpace = true ∧
      session.remainder = []
  whitespace : session.betweenWsInvalid = true →
    session.remainder.all PyChar.isSpace = true ∧ ¬IsSeparator session.remainder ∧
      session.betweenWs = []
  unfinished : session.finalResult = none

structure OwnsTail (config : SessionConfig) (fed : PyStr)
    (session : ProductionToolWireSession) : Prop where
  accepted : OwnedRegion config session.region session.calls
  whole : fed = session.region ++ session.remainder
  unfinished : session.finalResult = none

structure OwnsError (config : SessionConfig) (fed : PyStr)
    (session : ProductionToolWireSession) : Prop where
  rejected : ∃ result, session.finalResult = some result ∧ RejectedResult config fed result

def Owns (config : SessionConfig) (fed : PyStr) (session : ProductionToolWireSession) :
    Prop :=
  match session.state with
  | .envelope => OwnsEnvelope config fed session
  | .between => OwnsBetween config fed session
  | .tail => OwnsTail config fed session
  | .error => OwnsError config fed session

theorem owns_fresh (config : SessionConfig) : Owns config [] fresh where
  start := .first
  whole := rfl
  owned := rfl
  between := rfl
  betweenWs := rfl
  valid := rfl
  remainder := rfl
  unfinished := rfl

/-! ## Envelopes -/

variable {config : SessionConfig}

theorem decodeEnvelope_decodes {envelope : PyStr} {call : WireToolCall}
    (decoded : decodeEnvelope config envelope = .ok call) : Decodes config envelope call := by
  unfold decodeEnvelope at decoded
  unfold Decodes
  cases parsed : parseSequence envelope config.spec config.plan with
  | error failure =>
      rw [parsed] at decoded
      cases decoded
  | ok value =>
      rcases value with ⟨⟨calls⟩, consumed⟩
      rw [parsed] at decoded
      simp only [bind, Except.bind] at decoded
      split at decoded
      · cases decoded
      · rename_i whole
        rw [ne_eq, not_not] at whole
        rw [whole]
        split at decoded
        · rename_i only
          cases only
          split at decoded
          · split at decoded
            · cases decoded; rfl
            · cases decoded
          · cases decoded; rfl
        · cases decoded

/-- An issue of an envelope points into it. -/
theorem decodeEnvelope_failure {envelope : PyStr} {failure : EngineFailure}
    (failed : decodeEnvelope config envelope = .error failure) :
    failure.Within envelope.length := by
  have bounds := parseSequence_advances envelope config.spec config.plan
  unfold decodeEnvelope at failed
  cases parsed : parseSequence envelope config.spec config.plan with
  | error inner =>
      rw [parsed] at bounds failed
      cases failed
      exact bounds
  | ok value =>
      rcases value with ⟨⟨calls⟩, consumed⟩
      rw [parsed] at bounds failed
      simp only [bind, Except.bind] at failed
      split at failed
      · cases failed
        exact bounds.2
      · split at failed
        · split at failed
          · split at failed
            · cases failed
            · cases failed
              exact Nat.zero_le _
          · cases failed
        · cases failed
          exact Nat.zero_le _

def RaisesKeyError (failure : EngineFailure) : Prop := ∃ key, failure = .keyError key

/-- A session that has just read an envelope up to its close either accepts it or
reports an error in it. -/
theorem parseCompletedEnvelope_owns {session : ProductionToolWireSession} {close : PyStr}
    (inEnvelope : session.state = .envelope)
    (owns : OwnsEnvelope config (session.region ++ session.envelope) session)
    (noTail : session.scanTail = [])
    (member : close ∈ config.toolCloseForms) (closes : close <:+ session.envelope) :
    Outcome RaisesKeyError
      (fun next => (next.state = .between ∨ next.state = .error) ∧
        Owns config (session.region ++ session.envelope) next)
      (parseCompletedEnvelope config session) := by
  have source : session.diagnosticSource = session.region ++ session.envelope := by
    simp [diagnosticSource, inEnvelope, noTail, owns.remainder]
  have refuse : ∀ (status : EngineStatus) (code : String) (message : Message) (offset : Nat),
      (status = .incomplete ∨ status = .malformed) →
      offset ≤ session.region.length + session.envelope.length →
      (atCallLimit config session.calls.length = true ∨
        ∀ call, decodeEnvelope config session.envelope ≠ .ok call) →
      Owns config (session.region ++ session.envelope)
        (session.errorResult status code message offset) := by
    intro status code message offset reports inside reason
    refine ⟨⟨_, rfl, ?_⟩⟩
    simp only [source]
    exact ⟨reports, List.prefix_refl _, .envelope owns.start member closes reason,
      _, offset, rfl, rfl, by simpa using inside⟩
  unfold parseCompletedEnvelope
  by_cases limit : atCallLimit config session.calls.length
  · simp only [limit, if_true]
    exact ⟨.inr rfl, refuse _ _ _ _ (.inr rfl) (Nat.le_add_right _ _) (.inl limit)⟩
  · simp only [limit]
    cases decoded : decodeEnvelope config session.envelope with
    | ok call =>
        exact ⟨.inl rfl, {
          accepted := owns.start.extend (decodeEnvelope_decodes decoded)
          whole := by simp [betweenSource, owns.valid, owns.betweenWs, owns.between]
          owned := by simp [owns.owned]
          envelope := rfl
          scanTail := noTail
          separator := by simp [owns.betweenWs, owns.remainder, IsSeparator]
          whitespace := by simp [owns.valid]
          unfinished := owns.unfinished }⟩
    | error failure =>
        have within := decodeEnvelope_failure decoded
        have undecoded : ∀ call, decodeEnvelope config session.envelope ≠ .ok call := by
          rw [decoded]
          exact fun _ => nofun
        cases failure with
        | needMore =>
            exact ⟨.inr rfl, refuse _ _ _ _ (.inl rfl) (Nat.le_refl _) (.inr undecoded)⟩
        | malformed code message offset =>
            exact ⟨.inr rfl, refuse _ _ _ _ (.inr rfl) (Nat.add_le_add_left within _)
              (.inr undecoded)⟩
        | keyError key => exact ⟨key, rfl⟩
        | fuelExhausted => exact within.elim

/-- The envelope text of a session grows; the text in front of it stays. -/
theorem OwnsEnvelope.append {session : ProductionToolWireSession} {fed text : PyStr}
    (owns : OwnsEnvelope config fed session)
    (whole : fed ++ text = session.region ++ (session.envelope ++ text)) :
    OwnsEnvelope config (fed ++ text) { session.appendEnvelope text with scanTail := [] } :=
  { owns with
    whole := by simpa [appendEnvelope] using whole
    owned := by simp [appendEnvelope, owns.owned, Nat.add_assoc] }

/-- While the scanner runs it holds the unread text apart. -/
def Scanning (config : SessionConfig) (fed : PyStr)
    (turn : ProductionToolWireSession × PyStr) : Prop :=
  turn.1.state = .envelope ∧ turn.1.scanTail = [] ∧
    ∃ read, fed = read ++ turn.2 ∧ OwnsEnvelope config read turn.1

/-- The session owns what was read of the text; what it left it will read next. -/
def Consumed (config : SessionConfig) (fed : PyStr)
    (turn : ProductionToolWireSession × PyStr) : Prop :=
  ∃ read, fed = read ++ turn.2 ∧ Owns config read turn.1

theorem tokenStep_owns {session : ProductionToolWireSession} {fed token rest : PyStr}
    (inEnvelope : session.state = .envelope) (noTail : session.scanTail = [])
    (member : token ∈ config.tokens session.insideParameter)
    (closes : token <:+ session.envelope) (owns : OwnsEnvelope config fed session) :
    Outcome RaisesKeyError
      (Sum.elim (Scanning config (fed ++ rest)) (Consumed config (fed ++ rest)))
      (tokenStep config session token rest) := by
  unfold tokenStep
  split
  · exact ⟨inEnvelope, noTail, fed, rfl, { owns with }⟩
  · rename_i outside
    split
    · exact ⟨inEnvelope, noTail, fed, rfl, { owns with }⟩
    · rename_i notOpener
      have whole : fed = session.region ++ session.envelope := by
        simpa [noTail] using owns.whole
      have closer : token ∈ config.toolCloseForms := by
        rw [SessionConfig.tokens, if_neg outside] at member
        rcases List.mem_append.mp member with member | member
        · exact absurd (List.contains_iff_mem.mpr member) notOpener
        · exact member
      refine (parseCompletedEnvelope_owns inEnvelope (whole ▸ owns) noTail closer closes).bind ?_
      rintro parsed _ ⟨state, parsedOwns⟩
      rw [← whole] at parsedOwns
      rcases state with state | state
      · refine ⟨fed, ?_, parsedOwns⟩
        simp [state]
      · refine ⟨fed ++ rest, by simp [state], ?_⟩
        unfold Owns at parsedOwns ⊢
        rw [state] at parsedOwns ⊢
        rcases parsedOwns.rejected with ⟨result, final, rejected⟩
        exact ⟨result, final, rejected.extend rest⟩

theorem envelopeStep_owns {fed : PyStr} (turn : ProductionToolWireSession × PyStr)
    (scanning : Scanning config fed turn) :
    Outcome RaisesKeyError (Sum.elim (Scanning config fed) (Consumed config fed))
      (envelopeStep config turn) := by
  rcases turn with ⟨session, source⟩
  rcases scanning with ⟨inEnvelope, noTail, read, rfl, owns⟩
  simp only at inEnvelope noTail owns ⊢
  have whole : read = session.region ++ session.envelope := by
    simpa [noTail] using owns.whole
  have grown : ∀ text, OwnsEnvelope config (read ++ text)
      { session.appendEnvelope text with scanTail := [] } := fun text =>
    owns.append (by rw [whole, List.append_assoc])
  by_cases empty : source = []
  · subst empty
    refine ⟨read, rfl, ?_⟩
    unfold Owns
    rw [inEnvelope]
    exact owns
  · cases found : firstToken source (config.tokens session.insideParameter) with
    | none =>
        rw [envelopeStep_of_none empty found]
        refine ⟨read ++ source, (List.append_nil _).symm, ?_⟩
        unfold Owns
        simp only [appendEnvelope, inEnvelope]
        exact { grown (source.take _) with
          whole := by simp [whole] }
    | some match_ =>
        rcases match_ with ⟨position, token⟩
        have bounds := firstToken_bounds found
        rw [envelopeStep_of_some empty found]
        have split : read ++ source =
            (read ++ source.take (position + token.length)) ++
              source.drop (position + token.length) := by
          rw [List.append_assoc, List.take_append_drop]
        have noTail' : (session.appendEnvelope
            (source.take (position + token.length))).scanTail = [] := noTail
        rw [split]
        refine tokenStep_owns inEnvelope noTail' bounds.1 ?_ ?_
        · have suffix : token <:+ source.take (position + token.length) := by
            rcases bounds.2.1.split (by omega) with ⟨before, after, rfl, rfl⟩
            rw [← List.length_append, List.take_left' rfl]
            exact List.suffix_append _ _
          exact suffix.trans (List.suffix_append _ _)
        · have := grown (source.take (position + token.length))
          rwa [← noTail'] at this

theorem consumeEnvelope_owns {session : ProductionToolWireSession} {fed incoming : PyStr}
    (inEnvelope : session.state = .envelope) (owns : OwnsEnvelope config fed session) :
    Outcome RaisesKeyError (Consumed config (fed ++ incoming))
      (consumeEnvelope config session incoming) := by
  refine whileLoop_invariant (envelopeStep_decreases config) _
    (fun turn => envelopeStep_owns turn) _ ?_
  refine ⟨inEnvelope, rfl, session.region ++ session.envelope, ?_, ?_⟩
  · rw [owns.whole, List.append_assoc]
  · exact { owns with whole := by simp }

/-! ## Between envelopes -/

theorem IsSeparator.of_append {left right : PyStr} (separator : IsSeparator (left ++ right)) :
    IsSeparator left := by
  rcases separator with ⟨short, structural⟩
  rw [List.length_append] at short
  rw [List.all_append, Bool.and_eq_true] at structural
  exact ⟨by omega, structural.1⟩

theorem holdWhitespace_owns {session : ProductionToolWireSession} {fed whitespace : PyStr}
    (owns : OwnsBetween config fed session) (noOpener : session.between = [])
    (blank : whitespace.all PyChar.isSpace = true) :
    OwnsBetween config (fed ++ whitespace) (session.holdWhitespace whitespace) := by
  have whole := owns.whole
  unfold holdWhitespace
  split
  · rename_i empty
    subst empty
    rw [List.append_nil]
    exact owns
  · split
    · rename_i invalid
      have facts := owns.whitespace invalid
      exact { owns with
        whole := by simp [whole, betweenSource, invalid, noOpener]
        separator := by simp [invalid]
        whitespace := fun _ =>
          ⟨by simp [facts.1, blank], fun separator => facts.2.1 separator.of_append, facts.2.2⟩ }
    · rename_i valid
      rw [Bool.not_eq_true] at valid
      rcases owns.separator valid with ⟨separator, heldBlank, noRemainder⟩
      have joined : (session.betweenWs ++ whitespace).all PyChar.isSpace = true := by
        rw [List.all_append, heldBlank, blank]
        rfl
      simp only
      split
      · rename_i structural
        exact { owns with
          whole := by simp [whole, betweenSource, valid, noOpener]
          separator := fun _ => ⟨structural, joined, noRemainder⟩
          whitespace := by simp [valid] }
      · rename_i unstructured
        exact { owns with
          whole := by simp [whole, betweenSource, valid, noOpener, noRemainder]
          separator := by simp
          whitespace := fun _ => ⟨by simp [noRemainder, joined], by
            rw [noRemainder]
            exact unstructured, rfl⟩ }

@[simp] theorem holdWhitespace_between (session : ProductionToolWireSession)
    (whitespace : PyStr) :
    (session.holdWhitespace whitespace).between = session.between := by
  unfold holdWhitespace
  split
  · rfl
  · split
    · rfl
    · simp only
      split <;> rfl

@[simp] theorem holdWhitespace_state (session : ProductionToolWireSession)
    (whitespace : PyStr) : (session.holdWhitespace whitespace).state = session.state := by
  unfold holdWhitespace
  split
  · rfl
  · split
    · rfl
    · simp only
      split <;> rfl

/-- Giving the held part of an opener back to the text to read. -/
theorem OwnsBetween.release {session : ProductionToolWireSession} {fed : PyStr}
    (owns : OwnsBetween config fed session) :
    ∃ read, fed = read ++ session.between ∧
      OwnsBetween config read { session with between := [] } := by
  refine ⟨session.region ++ ({ session with between := [] } :
    ProductionToolWireSession).betweenSource, ?_, { owns with whole := rfl }⟩
  rw [owns.whole]
  unfold betweenSource
  simp only
  split <;> simp

theorem openAdjacent_owns {session : ProductionToolWireSession} {fed opened : PyStr}
    (isBetween : session.state = .between) (noOpener : session.between = [])
    (owns : OwnsBetween config fed session)
    (opens : config.spec.toolOpen.text <+: opened) :
    Consumed config (fed ++ opened) (openAdjacent config session opened) := by
  rcases opens with ⟨rest, rfl⟩
  have refuse : ∀ (whitespace : PyStr) (code : String) (message : Message) (offset : Nat),
      fed = session.region ++ whitespace →
      whitespace.all PyChar.isSpace = true →
      (¬IsSeparator whitespace ∨ config.plan.allowParallel = false ∨
        atCallLimit config session.calls.length = true) →
      offset ≤ fed.length →
      Consumed config (fed ++ (config.spec.toolOpen.text ++ rest))
        (({ session with between := config.spec.toolOpen.text } :
          ProductionToolWireSession).errorResult .malformed code message offset, []) := by
    intro whitespace code message offset isWhole blank reason inside
    refine ⟨_, (List.append_nil _).symm, _, rfl, ?_⟩
    have source : ({ session with between := config.spec.toolOpen.text } :
        ProductionToolWireSession).diagnosticSource = fed ++ config.spec.toolOpen.text := by
      rw [owns.whole]
      unfold diagnosticSource betweenSource
      rw [if_pos isBetween]
      cases invalid : session.betweenWsInvalid <;>
        simp [owns.envelope, owns.scanTail, noOpener]
    simp only [source]
    refine ⟨.inr rfl, by simp, ?_, _, offset, rfl, rfl, by simp; omega⟩
    simp only
    rw [isWhole]
    exact .opener owns.accepted blank reason
  have length : fed.length = session.region.length + session.betweenSource.length := by
    rw [owns.whole, List.length_append]
  unfold openAdjacent
  simp only
  split
  · rename_i invalid
    have facts := owns.whitespace invalid
    refine refuse session.remainder _ _ _ ?_ facts.1 (.inl facts.2.1)
      (by have := owns.owned; omega)
    simpa [betweenSource, invalid, noOpener] using owns.whole
  · rename_i valid
    rw [Bool.not_eq_true] at valid
    rcases owns.separator valid with ⟨separator, blank, noRemainder⟩
    have whole : fed = session.region ++ session.betweenWs := by
      simpa [betweenSource, valid, noOpener] using owns.whole
    have inside : session.ownedPrefixChars + session.betweenWs.length ≤ fed.length := by
      rw [whole, List.length_append, owns.owned]
    split
    · rename_i notParallel
      exact refuse session.betweenWs _ _ _ whole blank
        (.inr (.inl (by simpa using notParallel.2))) inside
    · split
      · rename_i limit
        exact refuse session.betweenWs _ _ _ whole blank (.inr (.inr limit)) inside
      · refine ⟨fed, rfl, ?_⟩
        exact {
          start := .next owns.accepted separator
          whole := by simp [whole, owns.envelope, owns.scanTail]
          owned := by simp [owns.owned, owns.envelope]
          between := noOpener
          betweenWs := rfl
          valid := rfl
          remainder := noRemainder
          unfinished := owns.unfinished }

theorem settleBetween_owns {held : ProductionToolWireSession} {read : PyStr}
    (isBetween : held.state = .between) (noOpener : held.between = [])
    (owns : OwnsBetween config read held) (remainder : PyStr) :
    Consumed config (read ++ remainder) (settleBetween config held remainder) := by
  have whole := owns.whole
  unfold settleBetween
  simp only
  split
  · rename_i empty
    subst empty
    refine ⟨read, rfl, ?_⟩
    simpa only [Owns, isBetween] using owns
  · split
    · rename_i opens
      exact openAdjacent_owns isBetween noOpener owns opens
    · split
      · refine ⟨_, (List.append_nil _).symm, ?_⟩
        simp only [Owns, isBetween]
        exact { owns with
          whole := by
            rw [whole]
            unfold betweenSource
            cases held.betweenWsInvalid <;> simp [noOpener] }
      · refine ⟨_, (List.append_nil _).symm, ?_⟩
        exact {
          accepted := owns.accepted
          whole := by
            rw [whole]
            unfold betweenSource
            cases invalid : held.betweenWsInvalid with
            | true => simp [noOpener]
            | false => simp [noOpener, (owns.separator invalid).2.2]
          unfinished := owns.unfinished }

theorem consumeBetween_owns {session : ProductionToolWireSession} {fed incoming : PyStr}
    (isBetween : session.state = .between) (owns : OwnsBetween config fed session) :
    Consumed config (fed ++ incoming) (consumeBetween config session incoming) := by
  rcases owns.release with ⟨read, rfl, released⟩
  have blank : ((session.between ++ incoming).takeWhile PyChar.isSpace).all
      PyChar.isSpace = true := List.all_takeWhile
  have whole : read ++ session.between ++ incoming =
      (read ++ (session.between ++ incoming).takeWhile PyChar.isSpace) ++
        (session.between ++ incoming).dropWhile PyChar.isSpace := by
    rw [List.append_assoc, List.append_assoc, List.takeWhile_append_dropWhile]
  have held := holdWhitespace_owns released rfl blank
  have state := (holdWhitespace_state { session with between := [] }
    ((session.between ++ incoming).takeWhile PyChar.isSpace)).trans isBetween
  rw [whole]
  exact settleBetween_owns state (holdWhitespace_between _ _) held _

/-! ## The loop of `feed` -/

theorem parseCompletedEnvelope_frame (config : SessionConfig)
    (session : ProductionToolWireSession) :
    Outcome (fun _ => True)
      (fun next => next.scanTail = session.scanTail ∧ next.between = session.between ∧
        (next.state = .between ∨ next.state = .error))
      (parseCompletedEnvelope config session) := by
  unfold parseCompletedEnvelope
  by_cases limit : atCallLimit config session.calls.length
  · simp only [limit, if_true]
    exact ⟨rfl, rfl, .inr rfl⟩
  · simp only [limit]
    cases decodeEnvelope config session.envelope with
    | ok call => exact ⟨rfl, rfl, .inl rfl⟩
    | error failure =>
        cases failure with
        | needMore => exact ⟨rfl, rfl, .inr rfl⟩
        | malformed code message offset => exact ⟨rfl, rfl, .inr rfl⟩
        | keyError key => trivial
        | fuelExhausted => trivial

/-- The text a session keeps for later, inside it or beside it, does not grow. -/
theorem scanEnvelope_length (config : SessionConfig) (session : ProductionToolWireSession)
    (source : PyStr) (noTail : session.scanTail = []) :
    Outcome (fun _ => True)
      (fun turn => turn.1.between = session.between ∧
        ((turn.2 = [] ∧ turn.1.scanTail.length ≤ source.length) ∨
          (turn.1.state ≠ .envelope ∧ turn.1.scanTail = [] ∧
            turn.2.length < source.length)))
      (scanEnvelope config (session, source)) := by
  refine whileLoop_invariant (envelopeStep_decreases config)
    (fun turn => turn.1.scanTail = [] ∧ turn.1.between = session.between ∧
      turn.2.length ≤ source.length) ?_ _ ⟨noTail, rfl, Nat.le_refl _⟩
  rintro ⟨turn, rest⟩ ⟨turnTail, turnBetween, shorter⟩
  simp only at turnTail turnBetween shorter
  by_cases empty : rest = []
  · subst empty
    exact ⟨turnBetween, .inl ⟨rfl, by simp [turnTail]⟩⟩
  · cases found : firstToken rest (config.tokens turn.insideParameter) with
    | none =>
        rw [envelopeStep_of_none empty found]
        exact ⟨turnBetween, .inl ⟨rfl, by simp only [List.length_drop]; omega⟩⟩
    | some match_ =>
        have bounds := firstToken_bounds found
        rw [envelopeStep_of_some empty found]
        unfold tokenStep
        split
        · exact ⟨turnTail, turnBetween, by simp only [List.length_drop]; omega⟩
        · split
          · exact ⟨turnTail, turnBetween, by simp only [List.length_drop]; omega⟩
          · refine (parseCompletedEnvelope_frame config _).bind ?_
            rintro parsed _ ⟨parsedTail, parsedBetween, closed⟩
            refine ⟨parsedBetween.trans turnBetween, .inr ⟨?_, parsedTail.trans turnTail, ?_⟩⟩
            · rcases closed with state | state <;> simp [state]
            simp only
            split
            · simp only [List.length_nil]
              omega
            · rw [List.length_drop]
              omega

theorem openAdjacent_length {session : ProductionToolWireSession} {opened : PyStr}
    (noOpener : session.between = []) (opens : config.spec.toolOpen.text <+: opened) :
    (openAdjacent config session opened).1.scanTail = session.scanTail ∧
      (openAdjacent config session opened).1.between.length +
        (openAdjacent config session opened).2.length ≤ opened.length ∧
      ((openAdjacent config session opened).2 = [] ∨
        (openAdjacent config session opened).1.state = .envelope) := by
  have short := opens.length_le
  unfold openAdjacent
  simp only
  repeat' split
  all_goals
    first
      | exact ⟨rfl, short, .inl rfl⟩
      | exact ⟨rfl, by simp [noOpener], .inr rfl⟩

theorem holdWhitespace_scanTail (session : ProductionToolWireSession) (whitespace : PyStr) :
    (session.holdWhitespace whitespace).scanTail = session.scanTail := by
  unfold holdWhitespace
  split
  · rfl
  · split
    · rfl
    · simp only
      split <;> rfl

theorem consumeBetween_length (config : SessionConfig) (session : ProductionToolWireSession)
    (incoming : PyStr) :
    (consumeBetween config session incoming).1.scanTail = session.scanTail ∧
      (consumeBetween config session incoming).1.between.length +
        (consumeBetween config session incoming).2.length ≤
        session.between.length + incoming.length ∧
      ((consumeBetween config session incoming).2 = [] ∨
        (consumeBetween config session incoming).1.state = .envelope) := by
  have shorter := (List.dropWhile_sublist PyChar.isSpace
    (l := session.between ++ incoming)).length_le
  rw [List.length_append] at shorter
  have between := holdWhitespace_between { session with between := [] }
    ((session.between ++ incoming).takeWhile PyChar.isSpace)
  have scanTail := holdWhitespace_scanTail { session with between := [] }
    ((session.between ++ incoming).takeWhile PyChar.isSpace)
  simp only at between scanTail
  unfold consumeBetween settleBetween
  simp only
  split
  · exact ⟨scanTail, by simp, .inl rfl⟩
  · split
    · rename_i opens
      have opened := openAdjacent_length between opens
      exact ⟨opened.1.trans scanTail, opened.2.1.trans shorter, opened.2.2⟩
    · split
      · exact ⟨scanTail, shorter, .inl rfl⟩
      · exact ⟨scanTail, by simp, .inl rfl⟩

theorem pendingRank_nil (state : SessionState) : pendingRank state [] = 0 := rfl

theorem pendingRank_le (state : SessionState) (pending : PyStr) :
    pendingRank state pending ≤ if state = .envelope then 1 else 2 := by
  unfold pendingRank
  cases state <;> split <;> simp

theorem pendingRank_of_ne_nil {state : SessionState} {pending : PyStr}
    (nonempty : pending ≠ []) :
    pendingRank state pending = if state = .between then 2 else 1 :=
  if_neg nonempty

theorem feedStep_decreases (config : SessionConfig) :
    Decreases feedMeasure (feedStep config) where
  less := by
    rintro ⟨session, pending⟩ ⟨next, left⟩ stepped
    by_cases empty : pending = []
    · subst empty
      cases stepped
    · have before : pendingRank session.state pending = _ := pendingRank_of_ne_nil empty
      have after := pendingRank_le next.state left
      simp only [feedStep, if_neg empty] at stepped
      simp only [feedMeasure]
      cases state : session.state with
      | error => simp [state] at stepped
      | tail => simp [state] at stepped
      | envelope =>
          have length := scanEnvelope_length config { session with scanTail := [] }
            (session.scanTail ++ pending) rfl
          rw [state] at before
          simp only [state] at stepped
          unfold consumeEnvelope at stepped
          revert length stepped
          cases scanEnvelope config
              ({ session with scanTail := [] }, session.scanTail ++ pending) with
          | error failure => exact fun _ impossible => by cases impossible
          | ok turn =>
              rintro ⟨between, lengths⟩ equal
              cases equal
              simp only [List.length_append, reduceCtorEq, if_false] at between lengths before
              rw [between, before]
              rcases lengths with ⟨rfl, shorter⟩ | ⟨_, noTail, shorter⟩
              · rw [pendingRank_nil, List.length_nil]
                omega
              · rw [noTail, List.length_nil]
                split at after <;> omega
      | between =>
          have length := consumeBetween_length config session pending
          rw [state, if_pos rfl] at before
          simp only [state] at stepped
          have equal : consumeBetween config session pending = (next, left) := by
            injection stepped with stepped
            injection stepped
          rw [equal] at length
          rcases length with ⟨scanTail, shorter, none | opened⟩
          · simp only at scanTail shorter none
            rw [none, List.length_nil] at shorter
            rw [scanTail, none, pendingRank_nil, before, List.length_nil]
            omega
          · simp only at scanTail shorter opened
            rw [opened, if_pos rfl] at after
            rw [scanTail, before, opened]
            omega

theorem Owns.extend_error {session : ProductionToolWireSession} {fed : PyStr}
    (failed : session.state = .error) (owns : Owns config fed session) (more : PyStr) :
    Owns config (fed ++ more) session := by
  unfold Owns at owns ⊢
  rw [failed] at owns ⊢
  rcases owns.rejected with ⟨result, final, rejected⟩
  exact ⟨result, final, rejected.extend more⟩

theorem consume_owns {session : ProductionToolWireSession} {fed : PyStr} (chunk : PyStr)
    (owns : Owns config fed session) :
    Outcome RaisesKeyError (Owns config (fed ++ chunk)) (consume config session chunk) := by
  refine whileLoop_invariant (feedStep_decreases config)
    (Consumed config (fed ++ chunk)) ?_ _ ⟨fed, rfl, owns⟩
  rintro ⟨session, pending⟩ ⟨read, whole, owns⟩
  rw [whole]
  unfold feedStep
  simp only at owns ⊢
  split
  · rename_i empty
    subst empty
    rw [List.append_nil]
    exact owns
  · split
    · rename_i failed
      exact owns.extend_error failed pending
    · rename_i inTail
      unfold Owns at owns
      rw [inTail] at owns
      have appended : OwnsTail config (read ++ pending)
          { session with remainder := session.remainder ++ pending } :=
        { owns with whole := by simp [owns.whole] }
      simpa only [Outcome, Sum.elim_inr, Owns, inTail] using appended
    · rename_i inEnvelope
      unfold Owns at owns
      rw [inEnvelope] at owns
      exact (consumeEnvelope_owns inEnvelope owns).bind fun _ _ consumed => consumed
    · rename_i isBetween
      unfold Owns at owns
      rw [isBetween] at owns
      exact consumeBetween_owns isBetween owns

theorem OwnedRegion.calls_ne_nil {region : PyStr} {calls : List WireToolCall}
    (owned : OwnedRegion config region calls) : calls ≠ [] := by
  cases owned <;> simp

/-- A session has a final result exactly when it is in the error state. -/
theorem Owns.final {session : ProductionToolWireSession} {fed : PyStr}
    (owns : Owns config fed session) :
    (session.finalResult = none ∧ session.state ≠ .error) ∨
      (session.state = .error ∧
        ∃ result, session.finalResult = some result ∧ RejectedResult config fed result) := by
  unfold Owns at owns
  cases state : session.state with
  | envelope =>
      rw [state] at owns
      exact .inl ⟨owns.unfinished, by simp⟩
  | between =>
      rw [state] at owns
      exact .inl ⟨owns.unfinished, by simp⟩
  | tail =>
      rw [state] at owns
      exact .inl ⟨owns.unfinished, by simp⟩
  | error =>
      rw [state] at owns
      exact .inr ⟨rfl, owns.rejected⟩

theorem completeResult_of_ne_nil {session : ProductionToolWireSession}
    (accepted : session.calls ≠ []) (remainder : Option PyStr) :
    session.completeResult remainder =
      (session,
        { status := .complete
          sequence := some ⟨session.calls⟩
          issues := []
          consumedChars := session.region.length
          remainder := remainder.getD session.remainder
          rawRegion := session.region
          completedEnvelopes := session.calls.length
          awaitingNextEnvelope := false }) := by
  unfold completeResult
  rw [if_neg accepted]

/-- Progress is reported without a change of the session, and is no error. -/
theorem progressResult_of_owns {session : ProductionToolWireSession} {fed : PyStr}
    (owns : Owns config fed session) :
    session.progressResult.1 = session ∧ ¬Reports session.progressResult.2 := by
  unfold progressResult
  split
  · rename_i inTail
    unfold Owns at owns
    rw [inTail] at owns
    rw [completeResult_of_ne_nil owns.accepted.calls_ne_nil]
    exact ⟨rfl, by simp [Reports]⟩
  · exact ⟨rfl, by simp [Reports]⟩

/-- A call of `feed` either reports the session's final result or no error. -/
def Answers (config : SessionConfig) (fed : PyStr)
    (answer : ProductionToolWireSession × ProductionToolWireResult) : Prop :=
  Owns config fed answer.1 ∧
    ((answer.1.finalResult = some answer.2 ∧ RejectedResult config fed answer.2) ∨
      (answer.1.finalResult = none ∧ ¬Reports answer.2))

theorem answers_progress {session : ProductionToolWireSession} {fed : PyStr}
    (owns : Owns config fed session) (unfinished : session.finalResult = none) :
    Answers config fed session.progressResult := by
  have progress := progressResult_of_owns owns
  unfold Answers
  rw [progress.1]
  exact ⟨owns, .inr ⟨unfinished, progress.2⟩⟩

theorem feed_owns {session : ProductionToolWireSession} {fed : PyStr} (chunk : PyStr)
    (owns : Owns config fed session) :
    Outcome RaisesKeyError (Answers config (fed ++ chunk)) (feed config session chunk) := by
  unfold feed
  rcases owns.final with ⟨unfinished, _⟩ | ⟨failed, result, final, rejected⟩
  · rw [unfinished]
    simp only
    split
    · rename_i empty
      subst empty
      rw [List.append_nil]
      exact answers_progress owns unfinished
    · refine (consume_owns chunk owns).bind ?_
      intro consumed _ consumedOwns
      rcases consumedOwns.final with ⟨unfinished, _⟩ | ⟨_, result, final, rejected⟩
      · rw [unfinished]
        exact answers_progress consumedOwns unfinished
      · rw [final]
        exact ⟨consumedOwns, .inl ⟨final, rejected⟩⟩
  · rw [final]
    exact ⟨owns.extend_error failed chunk, .inl ⟨final, rejected.extend chunk⟩⟩

/-! ## Runs -/

/-- A session with a final result repeats it. -/
theorem feedChunks_of_final {session : ProductionToolWireSession}
    {result : ProductionToolWireResult} (final : session.finalResult = some result)
    (chunks : List PyStr) :
    feedChunks config session chunks =
      .ok (session, List.replicate chunks.length result) := by
  induction chunks with
  | nil => rfl
  | cons chunk chunks induction =>
      have repeated : feed config session chunk = .ok (session, result) := by
        unfold feed
        rw [final]
      unfold feedChunks
      simp only [repeated, bind, Except.bind, induction]
      rfl

/-- What a run leaves: the session owns the fed text, and an error that a feed
reports is the result of every later call. -/
structure RunOwns (config : SessionConfig) (fed : PyStr) (chunks : List PyStr)
    (unfinished : Prop)
    (last : ProductionToolWireSession × List ProductionToolWireResult) : Prop where
  owns : Owns config (fed ++ chunks.flatten) last.1
  reported : ∀ index result, last.2[index]? = some result → Reports result →
    RejectedResult config (fed ++ (chunks.take (index + 1)).flatten) result ∧
      last.1.finalResult = some result ∧
      ∀ later repeated, index ≤ later → last.2[later]? = some repeated → repeated = result
  quiet : unfinished → (∀ result ∈ last.2, ¬Reports result) → last.1.finalResult = none

theorem feedChunks_owns (chunks : List PyStr) :
    ∀ {session : ProductionToolWireSession} {fed : PyStr}, Owns config fed session →
      Outcome RaisesKeyError (RunOwns config fed chunks (session.finalResult = none))
        (feedChunks config session chunks) := by
  induction chunks with
  | nil =>
      intro session fed owns
      exact {
        owns := by simpa using owns
        reported := by simp
        quiet := fun unfinished _ => unfinished }
  | cons chunk chunks induction =>
      intro session fed owns
      unfold feedChunks
      refine (feed_owns chunk owns).bind ?_
      rintro ⟨next, result⟩ fedEq ⟨nextOwns, answer⟩
      simp only at nextOwns answer ⊢
      refine (induction nextOwns).bind ?_
      rintro ⟨last, results⟩ lastEq runOwns
      refine ⟨by simpa using runOwns.owns, ?_, ?_⟩
      · rintro (_ | index) reported found reports
        · rw [List.getElem?_cons_zero, Option.some.injEq] at found
          subst found
          rcases answer with ⟨final, rejected⟩ | ⟨_, quiet⟩
          · rw [feedChunks_of_final final] at lastEq
            cases lastEq
            refine ⟨by simpa using rejected, final, ?_⟩
            rintro (_ | later) repeated _ foundLater
            · simpa using foundLater.symm
            · rw [List.getElem?_cons_succ, List.getElem?_replicate] at foundLater
              split at foundLater
              · simpa using foundLater.symm
              · cases foundLater
          · exact absurd reports quiet
        · rw [List.getElem?_cons_succ] at found
          have facts := runOwns.reported index reported found reports
          refine ⟨by simpa using facts.1, facts.2.1, ?_⟩
          rintro (_ | later) repeated order foundLater
          · omega
          · rw [List.getElem?_cons_succ] at foundLater
            exact facts.2.2 later repeated (by omega) foundLater
      · intro _ quiet
        refine runOwns.quiet ?_ fun result member => quiet result (by simp [member])
        rcases answer with ⟨final, rejected⟩ | ⟨unfinished, _⟩
        · exact absurd rejected.reports (quiet result (by simp))
        · exact unfinished

theorem diagnosticSource_of_owns {session : ProductionToolWireSession} {fed : PyStr}
    (owns : Owns config fed session)
    (inside : session.state = .envelope ∨ session.state = .between) :
    session.diagnosticSource = fed := by
  unfold Owns at owns
  unfold diagnosticSource
  rcases inside with state | state
  · rw [state] at owns
    simp [state, owns.whole, owns.remainder]
  · rw [state] at owns
    simp [state, owns.whole, owns.envelope, owns.scanTail]

/-- The text of a complete result: the region of its calls and the rest. -/
structure CompleteOwns (config : SessionConfig) (fed : PyStr)
    (result : ProductionToolWireResult) : Prop where
  whole : result.rawRegion ++ result.remainder = fed
  consumed : result.consumedChars = result.rawRegion.length
  region : ∃ calls, result.sequence = some ⟨calls⟩ ∧ OwnedRegion config result.rawRegion calls

theorem completeResult_owns {session : ProductionToolWireSession} {fed : PyStr}
    (remainder : Option PyStr) (accepted : OwnedRegion config session.region session.calls)
    (whole : fed = session.region ++ remainder.getD session.remainder) :
    CompleteOwns config fed (session.completeResult remainder).2 ∧
      (session.completeResult remainder).2.status = .complete := by
  rw [completeResult_of_ne_nil accepted.calls_ne_nil]
  exact ⟨⟨whole.symm, rfl, session.calls, rfl, accepted⟩, rfl⟩

theorem terminalResult_owns {session : ProductionToolWireSession} {fed : PyStr}
    (owns : Owns config fed session) (noError : session.state ≠ .error) :
    ((terminalResult config session).2.status = .complete ∧
        CompleteOwns config fed (terminalResult config session).2) ∨
      ((terminalResult config session).2.status = .incomplete ∧
        (terminalResult config session).2.rawRegion = fed) := by
  have owned := owns
  unfold Owns at owned
  unfold terminalResult
  cases state : session.state with
  | error => exact absurd state noError
  | tail =>
      rw [state] at owned
      exact .inl (completeResult_owns none owned.accepted owned.whole).symm
  | envelope => exact .inr ⟨rfl, diagnosticSource_of_owns owns (.inl state)⟩
  | between =>
      rw [state] at owned
      simp only
      split
      · exact .inr ⟨rfl, diagnosticSource_of_owns owns (.inr state)⟩
      · exact .inl (completeResult_owns (some session.betweenSource) owned.accepted
          owned.whole).symm

theorem Owns.close {session : ProductionToolWireSession} {fed : PyStr}
    (owns : Owns config fed session) : Owns config fed { session with finished := true } := by
  unfold Owns at owns ⊢
  simp only
  split at owns
  · exact { owns with }
  · exact { owns with }
  · exact { owns with }
  · exact { owns with }

theorem finish_owns {session : ProductionToolWireSession} {fed : PyStr}
    (owns : Owns config fed session) :
    ((finish config session).2.status = .complete →
        CompleteOwns config fed (finish config session).2) ∧
      (session.finalResult = none → (finish config session).2.status = .incomplete →
        (finish config session).2.rawRegion = fed) ∧
      ∀ result, session.finalResult = some result → (finish config session).2 = result := by
  unfold finish
  rcases owns.final with ⟨unfinished, noError⟩ | ⟨_, result, final, rejected⟩
  · rw [unfinished]
    have terminal := terminalResult_owns owns.close noError
    rw [unfinished] at terminal
    refine ⟨?_, ?_, nofun⟩
    · intro complete
      rcases terminal with terminal | terminal
      · exact terminal.2
      · exact absurd (complete.symm.trans terminal.1) (by decide)
    · intro _ incomplete
      rcases terminal with terminal | terminal
      · exact absurd (incomplete.symm.trans terminal.1) (by decide)
      · exact terminal.2
  · rw [final]
    refine ⟨?_, nofun, fun _ equal => Option.some.inj equal⟩
    intro complete
    rcases rejected.reports with status | status <;>
      exact absurd (complete.symm.trans status) (by decide)

/-- Every character fed to a production session is owned exactly once. -/
theorem qwenSession_owns (plan : QwenProductionPlan) (completedCallOffset : Nat)
    (validateMembership : Bool) (chunks : List PyStr) (session : ProductionToolWireSession)
    (results : List ProductionToolWireResult)
    (fed : feedChunks (qwenSessionConfig plan completedCallOffset validateMembership) fresh
      chunks = .ok (session, results)) :
    let config := qwenSessionConfig plan completedCallOffset validateMembership
    let final := (finish config session).2
    (final.status = .complete → CompleteOwns config chunks.flatten final) ∧
      ((∀ result ∈ results, ¬Reports result) → final.status = .incomplete →
        final.rawRegion = chunks.flatten) ∧
      ∀ index result, results[index]? = some result → Reports result →
        (∀ later repeated, index ≤ later → results[later]? = some repeated →
          repeated = result) ∧
        final = result ∧
        RejectedResult config (chunks.take (index + 1)).flatten result := by
  intro config final
  have run := feedChunks_owns chunks (owns_fresh config)
  rw [fed] at run
  have finished := finish_owns run.owns
  refine ⟨finished.1, fun quiet => finished.2.1 (run.quiet rfl quiet), ?_⟩
  intro index result found reports
  have reported := run.reported index result found reports
  exact ⟨reported.2.2, finished.2.2 result reported.2.1, reported.1⟩

def emptyPlan : QwenProductionPlan :=
  ⟨{ specFingerprint := qwenProductionToolWireSpec
     allowParallel := true
     tools := []
     disposition := .validationOnly
     maxCallsPerSequence := none
     maxCallsPositive := noLimit_positive
     toolNamesUnique := noTools_unique }, rfl⟩

/-- Two envelopes with a line break between them, and text behind them; the first is cut inside
its close and the second inside its opening. -/
def twoCallChunks : List PyStr :=
  [py "<tool_call>\n<function=f>\n</func", py "tion>\n</tool_call>\n<tool_",
    py "call>\n<function=g>\n</function>\n</tool_call> tail"]

/-- Both calls are taken; a session that checks membership refuses the second chunk, and keeps
refusing it. -/
theorem qwenSession_owns_twoCalls :
    (∃ session results,
      feedChunks (qwenSessionConfig emptyPlan 0 false) fresh twoCallChunks =
          .ok (session, results) ∧
        (finish (qwenSessionConfig emptyPlan 0 false) session).2.completedEnvelopes = 2 ∧
        CompleteOwns (qwenSessionConfig emptyPlan 0 false) twoCallChunks.flatten
          (finish (qwenSessionConfig emptyPlan 0 false) session).2) ∧
    ∃ session first refused last,
      feedChunks (qwenSessionConfig emptyPlan 0 true) fresh twoCallChunks =
          .ok (session, [first, refused, last]) ∧
        last = refused ∧ (finish (qwenSessionConfig emptyPlan 0 true) session).2 = refused ∧
        RejectedResult (qwenSessionConfig emptyPlan 0 true) (twoCallChunks.take 2).flatten
          refused := by
  constructor
  · have computed : (feedChunks (qwenSessionConfig emptyPlan 0 false) fresh
        twoCallChunks).toOption.map (fun last =>
          ((finish (qwenSessionConfig emptyPlan 0 false) last.1).2.status,
            (finish (qwenSessionConfig emptyPlan 0 false) last.1).2.completedEnvelopes)) =
        some (.complete, 2) := by decide
    cases fed : feedChunks (qwenSessionConfig emptyPlan 0 false) fresh twoCallChunks with
    | error failure =>
        rw [fed] at computed
        cases computed
    | ok last =>
        rw [fed] at computed
        rcases Prod.mk.inj (Option.some.inj computed) with ⟨status, envelopes⟩
        exact ⟨last.1, last.2, rfl, envelopes,
          (qwenSession_owns emptyPlan 0 false twoCallChunks last.1 last.2 fed).1 status⟩
  · have computed : (feedChunks (qwenSessionConfig emptyPlan 0 true) fresh
        twoCallChunks).toOption.map (fun last => last.2.map (·.status)) =
        some [.inProgress, .malformed, .malformed] := by decide
    cases fed : feedChunks (qwenSessionConfig emptyPlan 0 true) fresh twoCallChunks with
    | error failure =>
        rw [fed] at computed
        cases computed
    | ok last =>
        rw [fed] at computed
        rcases last with ⟨session, results⟩
        have statuses : results.map (·.status) = [.inProgress, .malformed, .malformed] :=
          Option.some.inj computed
        rcases List.map_eq_cons_iff.mp statuses with ⟨first, others, rfl, -, statuses⟩
        rcases List.map_eq_cons_iff.mp statuses with ⟨refused, others, rfl, malformed, statuses⟩
        rcases List.map_eq_singleton_iff.mp statuses with ⟨again, rfl, -⟩
        have owns := (qwenSession_owns emptyPlan 0 true twoCallChunks session _ fed).2.2 1
          refused rfl (.inr malformed)
        exact ⟨session, first, refused, again, rfl, owns.1 2 again (by decide) rfl, owns.2⟩

end ExQServe.ToolWire.ProductionToolWireSession
