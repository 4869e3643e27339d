import ExQServe.ToolWire.QwenDecoder

/-! # Chunks of a Qwen decoder

A Qwen decoder does not see how a Tool region was cut into chunks. -/

namespace ExQServe.ToolWire.QwenToolRegionDecoder

open ExQServe.Model ExQServe.Stream ProductionToolWireSession

/-- A constrained decoder's session owns the text that was fed to it. -/
def Lawful (decoder : QwenToolRegionDecoder) : Prop :=
  match decoder.reading with
  | .constrained plan session =>
      ∃ fed, Owns (qwenSessionConfig plan decoder.completedCalls true) fed session
  | .compatibility _ _ _ _ => True

theorem create_lawful (authority : QwenDecodeAuthority) (completedCalls : Nat) :
    Lawful (create authority completedCalls) := by
  cases authority with
  | constrained plan => exact ⟨[], owns_fresh _⟩
  | compatibility authority => trivial

def withSession (completedCalls : Nat) (plan : QwenProductionPlan)
    (session : ProductionToolWireSession) : QwenToolRegionDecoder :=
  ⟨completedCalls, .constrained plan session⟩

theorem feed_compatibility (completedCalls : Nat) (authority : QwenToolWireDecodeCompilation)
    (source chunk : PyStr) (probeWorkChars : Nat) (work : SemanticWork) :
    feed ⟨completedCalls, .compatibility authority source probeWorkChars work⟩ chunk =
      .ok ⟨completedCalls,
        .compatibility authority (source ++ chunk) probeWorkChars work⟩ :=
  rfl

theorem feed_constrained {completedCalls : Nat} {plan : QwenProductionPlan}
    {session : ProductionToolWireSession}
    (lawful : Lawful (withSession completedCalls plan session)) (chunk : PyStr) :
    feed (withSession completedCalls plan session) chunk =
      toolWire ((consume (qwenSessionConfig plan completedCalls true) session chunk).map
        (withSession completedCalls plan)) := by
  rcases lawful with ⟨fed, owns⟩
  have session := feed_session owns chunk
  simp only [withSession] at session ⊢
  unfold feed
  simp only
  rw [← session]
  cases ProductionToolWireSession.feed _ _ chunk <;> rfl

theorem feed_lawful {decoder next : QwenToolRegionDecoder} {chunk : PyStr}
    (lawful : Lawful decoder) (fed : feed decoder chunk = .ok next) : Lawful next := by
  rcases decoder with ⟨completedCalls, reading⟩
  cases reading with
  | compatibility authority source probeWorkChars work =>
      cases fed
      trivial
  | constrained plan session =>
      rcases lawful with ⟨read, owns⟩
      have later := consume_owns chunk owns
      change feed (withSession completedCalls plan session) chunk = .ok next at fed
      rw [feed_constrained ⟨read, owns⟩] at fed
      simp only at later
      cases consumed : consume (qwenSessionConfig plan completedCalls true) session chunk with
      | error failure =>
          rw [consumed] at fed
          cases fed
      | ok last =>
          rw [consumed] at fed later
          cases fed
          exact ⟨read ++ chunk, later⟩

/-- Two pieces of a region leave a decoder in the state the whole leaves it in. -/
theorem feed_append {decoder : QwenToolRegionDecoder} (lawful : Lawful decoder)
    (first second : PyStr) :
    feed decoder (first ++ second) = feed decoder first >>= fun next => feed next second := by
  rcases decoder with ⟨completedCalls, reading⟩
  cases reading with
  | compatibility authority source probeWorkChars work =>
      rw [feed_compatibility, feed_compatibility, ← List.append_assoc]
      exact (feed_compatibility ..).symm
  | constrained plan session =>
      have separate := qwenSessionConfig_tokensSeparate plan completedCalls true
      change feed (withSession completedCalls plan session) _ =
        feed (withSession completedCalls plan session) first >>= _
      have preserved : ∀ next, feed (withSession completedCalls plan session) first =
          .ok next → Lawful next := fun next fed => feed_lawful lawful fed
      rw [feed_constrained lawful] at preserved ⊢
      rw [feed_constrained lawful, consume_append separate second (session, first)]
      cases consumed : consume (qwenSessionConfig plan completedCalls true) session first with
      | error failure => rfl
      | ok middle =>
          rw [consumed] at preserved
          exact (feed_constrained (preserved _ rfl) second).symm

theorem qwenToolRegionDecoder_cutFree (isValid : JsonSchema → JsonValue → Bool)
    (authority : QwenDecodeAuthority) :
    (qwenToolRegionDecoder isValid authority).CutFree Lawful where
  fresh := create_lawful authority
  feed :=
    { nil := by
        rintro ⟨completedCalls, reading⟩ lawful
        cases reading with
        | compatibility authority source probeWorkChars work =>
            exact (feed_compatibility ..).trans (by rw [List.append_nil])
        | constrained plan session =>
            show feed (withSession completedCalls plan session) [] = _
            rw [feed_constrained lawful, consume_nil]
            rfl
      append := fun decoder first second lawful => feed_append lawful first second
      preserves := fun decoder chunk next lawful fed => feed_lawful lawful fed }

end ExQServe.ToolWire.QwenToolRegionDecoder
