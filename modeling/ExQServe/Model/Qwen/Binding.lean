import ExQServe.Model.Qwen.PlainChunking
import ExQServe.ToolWire.QwenDecoderChunking

/-! # Parsers with Qwen's own decoders

The parsers that `server/qwen_parser_binding.py` and `model/registry.py` create: their
Tool-region decoder is one of `tool_wire/controls/qwen.py`, where they have any. -/

namespace ExQServe.Model.Qwen

open ExQServe.Emission ExQServe.ToolWire

structure QwenParserContext where
  hardConstraintInstalled : Option Bool
  triggerTokenIds : List Nat
  generationGuarantee : GenerationGuarantee
  decodeAuthority : Option QwenDecodeAuthority

structure QwenParserArguments where
  requestId : PyStr
  startInReasoning : Bool
  toolPolicy : Option ToolPolicy
  context : Option QwenParserContext
  requestIdNonBlank : NonBlank requestId

/-- What validates arguments against a schema, and what digests a text, are other
packages' functions. -/
structure QwenServices where
  isValid : JsonSchema → JsonValue → Bool
  sha256Hexdigest : PyStr → PyStr

namespace QwenParserArguments

def config (arguments : QwenParserArguments) (services : QwenServices) :
    ParserConfig QwenToolRegionDecoder where
  requestId := arguments.requestId
  startInReasoning := arguments.startInReasoning
  toolPolicy := arguments.toolPolicy
  context := arguments.context.map fun context =>
    { hardConstraintInstalled := context.hardConstraintInstalled
      triggerTokenIds := context.triggerTokenIds
      generationGuarantee := context.generationGuarantee
      toolRegionDecoder :=
        context.decodeAuthority.map (qwenToolRegionDecoder services.isValid) }
  sha256Hexdigest := services.sha256Hexdigest
  requestIdNonBlank := arguments.requestIdNonBlank

theorem config_decoder {arguments : QwenParserArguments} {services : QwenServices}
    {decoder : ToolRegionDecoder QwenToolRegionDecoder}
    (template : (arguments.config services).sharedToolDecoderTemplate = some decoder) :
    ∃ authority, decoder = qwenToolRegionDecoder services.isValid authority := by
  unfold ParserConfig.sharedToolDecoderTemplate config at template
  rcases Option.bind_eq_some_iff.mp template with ⟨context, isContext, isDecoder⟩
  rcases Option.map_eq_some_iff.mp isContext with ⟨given, -, rfl⟩
  rcases Option.map_eq_some_iff.mp isDecoder with ⟨authority, -, rfl⟩
  exact ⟨authority, rfl⟩

end QwenParserArguments

/-- What a run shows: its events with adjacent deltas merged, and what `finish` returns;
or what it raises. -/
def shown {δ : Type}
    (ended : ParserResult (Ending (QwenIncrementalParser δ) ParserAction QwenParserFinish)) :
    ParserResult (List GenerationEvent × QwenParserFinish) :=
  ended.map fun ending => (mergeDeltas (eventsOf ending.log), ending.value)

theorem shown_of_alike {δ : Type}
    {left right :
      ParserResult (Ending (QwenIncrementalParser δ) ParserAction QwenParserFinish)}
    (alike : Alike actionJoining left right) : shown left = shown right := by
  cases left with
  | error failure =>
      cases right with
      | error failure' => exact congrArg Except.error alike
      | ok ending => exact absurd alike id
  | ok ending =>
      cases right with
      | error failure => exact absurd alike id
      | ok ending' =>
          rcases alike with ⟨value, -, log⟩
          refine congrArg Except.ok (Prod.ext ?_ value)
          show mergeDeltas (eventsOf ending.log) = mergeDeltas (eventsOf ending'.log)
          rw [← mergeDeltas_eventsOf ending.log, log, mergeDeltas_eventsOf]

/-- Text fed in chunks shows what the whole text shows. -/
theorem qwenRun_feeds (arguments : QwenParserArguments) (services : QwenServices)
    (depth turns : Nat) (chunks : List PyStr) :
    shown (run (arguments.config services) depth turns (chunks.map .feed)) =
      shown (run (arguments.config services) depth turns [.feed chunks.flatten]) := by
  have cutFree : ∀ decoder, (arguments.config services).sharedToolDecoderTemplate =
      some decoder → decoder.CutFree QwenToolRegionDecoder.Lawful := by
    intro decoder template
    rcases QwenParserArguments.config_decoder template with ⟨authority, rfl⟩
    exact QwenToolRegionDecoder.qwenToolRegionDecoder_cutFree services.isValid authority
  exact shown_of_alike (run_feeds _ cutFree depth turns chunks)

end ExQServe.Model.Qwen
