import SeriesClient.Batch.TypeText
import SeriesClient.Client.Query
import SeriesClient.Point.CallName
import SeriesClient.Query.Feed
import SeriesClient.Stream.Script
import SeriesClient.WriteQueue.Service
import SeriesClient.Proofs.Point.Consistency
import SeriesClient.Proofs.LineProtocol.Line
import SeriesClient.Proofs.LineProtocol.Tags
import SeriesClient.Proofs.LineProtocol.RoundTrip
import SeriesClient.Proofs.LineProtocol.Names
import SeriesClient.Proofs.WriteQueue.Chunks
import SeriesClient.Proofs.WriteQueue.Sharing
import SeriesClient.Proofs.WriteQueue.Accounting
import SeriesClient.Proofs.WriteQueue.Failing
import SeriesClient.Proofs.WriteQueue.Returning
import SeriesClient.Proofs.WriteQueue.Delays
import SeriesClient.Proofs.WriteQueue.Confirming
import SeriesClient.Proofs.WriteQueue.Splitting
import SeriesClient.Proofs.WriteQueue.Retrying
import SeriesClient.Proofs.WriteQueue.Abandoning
import SeriesClient.Proofs.WriteQueue.Pairing
import SeriesClient.Proofs.Stream.Recording
import SeriesClient.Proofs.Stream.Tracking
import SeriesClient.Proofs.Stream.Closing
import SeriesClient.Proofs.Stream.Aggregation
import SeriesClient.Proofs.Stream.Reporting
import SeriesClient.Proofs.Stream.Laziness
import SeriesClient.Proofs.Stream.Cancelling
import SeriesClient.Proofs.Batch.Caching
import SeriesClient.Proofs.Batch.Reading
import SeriesClient.Proofs.Batch.Routing
import SeriesClient.Proofs.Batch.Shapes
import SeriesClient.Proofs.Batch.RowIndependence
import SeriesClient.Proofs.Batch.ColumnIndependence
import SeriesClient.Proofs.Batch.Contribution
import SeriesClient.Proofs.Batch.Instants
import SeriesClient.Proofs.Batch.DistinctInstants
import SeriesClient.Proofs.Query.Feeding
import SeriesClient.Proofs.Query.Streaming
import SeriesClient.Proofs.Query.Ticket
import SeriesClient.Proofs.Query.Parameters
import SeriesClient.Proofs.Query.HeaderLayers
import SeriesClient.Proofs.Http.Reason
import SeriesClient.Proofs.Json.Search
import SeriesClient.Proofs.Client.Lifecycle
import SeriesClient.Proofs.Client.Writing
import SeriesClient.Proofs.Client.Layering
import SeriesClient.Proofs.Client.Levels
import SeriesClient.Proofs.Client.Delivering
import SeriesClient.Proofs.Point.Objects
import SeriesClient.Proofs.Point.Refusals
import SeriesClient.Proofs.LineProtocol.Anatomy
import SeriesClient.Proofs.LineProtocol.Canonical
import SeriesClient.Proofs.LineProtocol.Incomplete
import SeriesClient.Proofs.LineProtocol.Finite
import SeriesClient.Proofs.Timestamp.UnitConversion
import SeriesClient.Proofs.Calendar.DayCount
import SeriesClient.Proofs.Timestamp.Exactness
import SeriesClient.Proofs.Timestamp.TickCounts
import SeriesClient.Proofs.Column.Narrowing
import SeriesClient.Proofs.Column.Declaration
import SeriesClient.Proofs.Batch.NamelessFields
