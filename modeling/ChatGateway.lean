import ChatGateway.Account.ExplicitRetry
import ChatGateway.Account.WaitQueue
import ChatGateway.RouteHealth.SingleFlight
import ChatGateway.RouteHealth.StaleSuccess
import ChatGateway.RouteHealth.Capacity
import ChatGateway.Redis.LeaseCaps
import ChatGateway.Redis.CapacityNeutral
import ChatGateway.Redis.LostReply
import ChatGateway.Redis.RetryHints
import ChatGateway.Stream.AggregateRuns
import ChatGateway.Stream.HistoryOffers
import ChatGateway.Stream.ForwardChunking
import ChatGateway.Stream.CommitAgreement
import ChatGateway.Redis.FreshLeases
import ChatGateway.Routing.RetryBounds
import ChatGateway.Protocol.CanonicalStream
import ChatGateway.Gateway.ContextRetry
import ChatGateway.Gateway.ClaudeRuns
import ChatGateway.Gateway.HistoryKept
import ChatGateway.Capabilities.ProbeConservation
import ChatGateway.Capabilities.ProbeOutcomes
import ChatGateway.Capabilities.RuntimeHints
import ChatGateway.Models.Access
import ChatGateway.Models.WireNames
import ChatGateway.Models.ContextFallback
import ChatGateway.Local.LapsedLeases
import ChatGateway.Local.ResponseHistory
import ChatGateway.Admission.BackendsAgree
import ChatGateway.Gateway.ConversationFrame
import ChatGateway.Protocol.NameAssignment
import ChatGateway.Routing.LedgerViews
import ChatGateway.RouteHealth.Forecast
import ChatGateway.Protocol.OutputPositions
import ChatGateway.Protocol.TruthfulFinish
import ChatGateway.Protocol.AnsweredCalls
import ChatGateway.Protocol.StreamedCalls
import ChatGateway.Protocol.ToolArguments
import ChatGateway.Feedback.BodyExcerpt
import ChatGateway.Gateway.ResponsesFallback
import ChatGateway.Routing.WeightedPick
import ChatGateway.Local.UsageJournal
import ChatGateway.Settings.SettingsUpdates
import ChatGateway.Stream.FrameRoundTrip
