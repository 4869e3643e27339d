import ExQServe.Agent.JsonWriter
import ExQServe.Agent.JsonLoads
import ExQServe.Observability.CaptureFile
import ExQServe.Model.DeepSeekV4.PromptGrowth
import ExQServe.Observability.Observer
import ExQServe.Observability.ActiveRequests
import ExQServe.Observability.CaptureFailures
import ExQServe.Model.PropertyResolution
import ExQServe.Model.PropertyTyping
import ExQServe.Core.CanonicalStream
import ExQServe.Protocol.AnthropicCommon
import ExQServe.Protocol.AnthropicOutput
import ExQServe.Protocol.AnthropicMessages
import ExQServe.Protocol.AnthropicStream
import ExQServe.Protocol.OpenAICommon
import ExQServe.Protocol.ResponsesItems
import ExQServe.Protocol.ResponsesOutput
import ExQServe.Protocol.ResponsesRuns
import ExQServe.Foundation.Search
import ExQServe.Foundation.Stream
import ExQServe.Foundation.Text
import ExQServe.Foundation.PlaceholderReading
import ExQServe.Agent.Float
import ExQServe.Agent.Json
import ExQServe.ToolWire.Contracts
import ExQServe.ToolWire.Engine
import ExQServe.ToolWire.QwenSpec
import ExQServe.ToolWire.Session
import ExQServe.ToolWire.EngineBounds
import ExQServe.ToolWire.SessionChunking
import ExQServe.Model.Contracts
import ExQServe.Model.Qwen.Parser
import ExQServe.Model.Qwen.PlainChunking
import ExQServe.Model.Qwen.Binding
import ExQServe.State.StoreRefusal
import ExQServe.State.StorePins
import ExQServe.State.LifecycleInvariant
import ExQServe.Control.Admission
import ExQServe.Runtime.LiteralProtection
import ExQServe.Serving.ToolBatchAtomic
import ExQServe.Serving.RecoverySession
import ExQServe.Runtime.VisionCache
import ExQServe.Runtime.VisionCacheRetention
import ExQServe.Foundation.Markers
import ExQServe.Foundation.Cutting
import ExQServe.Foundation.TaggedText
import ExQServe.Foundation.Machines
import ExQServe.Model.Content
import ExQServe.Model.Glm5.Parser
import ExQServe.Model.Glm5.Chunking
import ExQServe.Model.Glm5.Reading
import ExQServe.Model.Step3p5.Parser
import ExQServe.Model.Step3p5.Reading
import ExQServe.Model.Step3p5.Trimming
import ExQServe.Model.Step3p5.Exactness
import ExQServe.Agent.JsonText
import ExQServe.Model.Glm5.Decoding
import ExQServe.Model.DeepSeekV4.Parser
import ExQServe.Model.DeepSeekV4.Chunking
import ExQServe.Model.DeepSeekV4.Resuming
import ExQServe.Model.DeepSeekV4.Plain
import ExQServe.Agent.JsonDump
import ExQServe.Model.DeepSeekV4.Dump
import ExQServe.Model.DeepSeekV4.Layout
import ExQServe.Model.DeepSeekV4.Encoding
import ExQServe.Model.DeepSeekV4.History
import ExQServe.Runtime.ReadyResults
import ExQServe.Serving.MidSystemNormal
import ExQServe.Protocol.SetupSettled
import ExQServe.Server.ModelOwnership
import ExQServe.Runtime.GeneratorRuns
import ExQServe.Serving.Terminal
import ExQServe.ToolWire.RawValues
import ExQServe.ToolWire.Membership
import ExQServe.Runtime.RemoteImages
import ExQServe.Control.SessionRelease
import ExQServe.Serving.ReasoningBudget
import ExQServe.Serving.ReasoningBudgetRuns
import ExQServe.Serving.RendererLanes
import ExQServe.ToolWire.PlanCompiler
import ExQServe.ToolWire.PlanPreparation
import ExQServe.ToolWire.PlanAccounting
import ExQServe.ToolWire.QwenCompile
import ExQServe.ToolWire.QwenCompileCache
import ExQServe.State.Authority
import ExQServe.State.AuthorityAgreement
import ExQServe.State.AuthorityReplies
import ExQServe.Protocol.OpenAIContent
import ExQServe.Protocol.ResponsesHistory
