import Cupping.Console.Performance
import Cupping.EventStream.Events
import Cupping.Exchange.Advice
import Cupping.Exchange.Refusal
import Cupping.Exchange.Request
import Cupping.Http.Service
import Cupping.Json.Writing
import Cupping.Main
import Cupping.Settings
import Cupping.Tracking.Rehearsal
import Cupping.Proofs.EventStream.Chunking
import Cupping.Proofs.EventStream.Draining
import Cupping.Proofs.Tracking.History
import Cupping.Proofs.Tracking.SingleSource
import Cupping.Proofs.Tracking.KnownRun
import Cupping.Proofs.Tracking.LiveEnd
import Cupping.Proofs.Tracking.LatestRun
import Cupping.Proofs.Tracking.Record
import Cupping.Proofs.Tracking.Failure
import Cupping.Proofs.Tracking.Coordination
import Cupping.Proofs.Ranking.Order
import Cupping.Proofs.Dataset.Lookup
import Cupping.Proofs.Dataset.Description
import Cupping.Proofs.Recommendation.Choice
import Cupping.Proofs.Recommendation.Lines
import Cupping.Proofs.Recommendation.Relevance
import Cupping.Proofs.Tracking.Identity
import Cupping.Proofs.Tracking.Connection
import Cupping.Proofs.Tracking.Renewal
import Cupping.Proofs.Tracking.Polling
import Cupping.Proofs.EventStream.Rendering
import Cupping.Proofs.EventStream.Delivery
import Cupping.Proofs.Exchange.Fields
import Cupping.Proofs.Exchange.RoundTrip
import Cupping.Proofs.Exchange.Tolerance
import Cupping.Proofs.Tracking.LateAnswer
import Cupping.Proofs.Text.Blank
import Cupping.Proofs.Dataset.Columns
import Cupping.Proofs.Dataset.WellFormed
import Cupping.Proofs.Dataset.Layout
import Cupping.Proofs.Dataset.Wording
import Cupping.Proofs.Recommendation.Bounds
import Cupping.Proofs.Ranking.Objective
import Cupping.Proofs.Recommendation.Finite
import Cupping.Proofs.Recommendation.LoggingOrder
import Cupping.Proofs.Binary64.TotalOrder
import Cupping.Proofs.Recommendation.Elite
import Cupping.Proofs.Recommendation.Vote
import Cupping.Proofs.Insight.Course
import Cupping.Proofs.Http.Refusal
import Cupping.Proofs.Ranking.Statistics
import Cupping.Proofs.Binary64.Finite
import Cupping.Proofs.Binary64.Multiples
import Cupping.Proofs.Binary64.SquareRoot
import Cupping.Proofs.Binary64.Summation
import Cupping.Proofs.Console.Submission
import Cupping.Proofs.Insight.Correlation
import Cupping.Proofs.Dataset.Coercion
import Cupping.Proofs.Settings.Layers
