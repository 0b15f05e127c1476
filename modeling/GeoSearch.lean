import GeoSearch.Binary64
import GeoSearch.Command.Arguments
import GeoSearch.Command.Run
import GeoSearch.Config
import GeoSearch.Decimal.Layout
import GeoSearch.Decimal.Reader
import GeoSearch.Decimal.Shortest
import GeoSearch.Document.Lookup
import GeoSearch.Document.Order
import GeoSearch.Geometry.Basic
import GeoSearch.Geometry.Centroid
import GeoSearch.Geometry.Distance
import GeoSearch.Geometry.Document
import GeoSearch.Geometry.Envelope
import GeoSearch.Geometry.Grid
import GeoSearch.Geometry.Location
import GeoSearch.Geometry.Measure
import GeoSearch.Geometry.Relation
import GeoSearch.Geometry.Scalar
import GeoSearch.Geometry.Wkt
import GeoSearch.Geometry.World
import GeoSearch.Json.Basic
import GeoSearch.Json.Number
import GeoSearch.Json.Parser
import GeoSearch.Json.Printer
import GeoSearch.Json.Record
import GeoSearch.Log.Event
import GeoSearch.Log.Line
import GeoSearch.Main
import GeoSearch.Paging.Basic
import GeoSearch.Paging.Pages
import GeoSearch.Paging.Run
import GeoSearch.Predicate.Basic
import GeoSearch.Predicate.Bounds
import GeoSearch.Predicate.Document
import GeoSearch.Predicate.Evaluation
import GeoSearch.Predicate.Like
import GeoSearch.Predicate.Temporal
import GeoSearch.Predicate.Tree
import GeoSearch.Proofs.Document.Order
import GeoSearch.Proofs.Query.Comparison
import GeoSearch.Proofs.Query.Degradation
import GeoSearch.Proofs.Query.Document
import GeoSearch.Proofs.Query.Envelope
import GeoSearch.Proofs.Query.Leaf
import GeoSearch.Query.Clause
import GeoSearch.Query.Document
import GeoSearch.Query.Compile
import GeoSearch.Query.Filter
import GeoSearch.Query.Native
import GeoSearch.Query.Placement
import GeoSearch.Query.Selection
import GeoSearch.Query.Spatial
import GeoSearch.Replay.Recording
import GeoSearch.Replay.Step
import GeoSearch.Replay.World
import GeoSearch.Schema.Basic
import GeoSearch.Schema.Document
import GeoSearch.Scroll.Cursor
import GeoSearch.Scroll.Stream
import GeoSearch.Search.Connection
import GeoSearch.Search.Request
import GeoSearch.Search.Response
import GeoSearch.Source.Reader
import GeoSearch.Source.FeatureQuery
import GeoSearch.Source.Preparation
import GeoSearch.Source.Read
import GeoSearch.Source.Summary
import GeoSearch.Text.Split
import GeoSearch.Text.Fold
import GeoSearch.Text.Quoted
import GeoSearch.Text.Sorted
import GeoSearch.Time.Date
import GeoSearch.Time.Instant
import GeoSearch.Time.Pattern
import GeoSearch.Time.Rfc3339
import GeoSearch.Time.Scan
import GeoSearch.Timers
import GeoSearch.Trigonometry
import GeoSearch.Proofs.Paging.Operations
import GeoSearch.Proofs.Paging.Effects
import GeoSearch.Proofs.Paging.Custody
import GeoSearch.Proofs.Paging.Position
import GeoSearch.Proofs.Search.Exchange
import GeoSearch.Proofs.Scroll.Batches
import GeoSearch.Proofs.Scroll.Yields
import GeoSearch.Proofs.Source.Reading
import GeoSearch.Source.Through
import GeoSearch.Proofs.Source.Features
import GeoSearch.Proofs.Paging.Succession
import GeoSearch.Proofs.Source.Pages
import GeoSearch.Proofs.Predicate.Fields
import GeoSearch.Proofs.Source.Narrowing
import GeoSearch.Proofs.Decimal.Rounding
import GeoSearch.Proofs.Decimal.Shortest
import GeoSearch.Proofs.Decimal.Layout
import GeoSearch.Proofs.Json.Text
import GeoSearch.Proofs.Source.Key
import GeoSearch.Proofs.Scroll.Course
import GeoSearch.Paging.Answer
import GeoSearch.Proofs.Paging.Alike
import GeoSearch.Proofs.Paging.Rejection
import GeoSearch.Paging.Clock
import GeoSearch.Proofs.Paging.Deadlines
import GeoSearch.Proofs.Paging.Fate
import GeoSearch.Proofs.Paging.Settling
import GeoSearch.Proofs.Paging.Expiry
import GeoSearch.Paging.Sessions
import GeoSearch.Scroll.Cursors
import GeoSearch.Proofs.Paging.Ownership
import GeoSearch.Proofs.Scroll.Cursors
import GeoSearch.Proofs.Paging.Conduct
import GeoSearch.Proofs.Paging.Following
import GeoSearch.Proofs.Paging.Pairing
import GeoSearch.Proofs.Paging.Agreement
import GeoSearch.Proofs.Paging.Sparing
import GeoSearch.Proofs.Paging.Abreast
import GeoSearch.Proofs.Paging.Independence
import GeoSearch.Proofs.Source.Count
import GeoSearch.Proofs.Source.Buckets
import GeoSearch.Proofs.Time.Calendar
import GeoSearch.Proofs.Time.Timestamp
import GeoSearch.Proofs.Predicate.Bounds
import GeoSearch.Proofs.Predicate.Document
import GeoSearch.Proofs.Binary64.Order
import GeoSearch.Proofs.Binary64.Nearest
import GeoSearch.Proofs.Binary64.Rounding
import GeoSearch.Proofs.Binary64.Difference
import GeoSearch.Proofs.Geometry.Location
import GeoSearch.Proofs.Geometry.Box
import GeoSearch.Proofs.Geometry.Frame
import GeoSearch.Proofs.Geometry.Relation
import GeoSearch.Proofs.Geometry.World
import GeoSearch.Proofs.Geometry.Wrap
import GeoSearch.Query.Values
import GeoSearch.Proofs.Predicate.Like
import GeoSearch.Proofs.Query.Like
import GeoSearch.Proofs.Query.Identifiers
import GeoSearch.Query.Nested
import GeoSearch.Proofs.Document.Nested
import GeoSearch.Proofs.Query.Nested
import GeoSearch.Proofs.Time.Milliseconds
import GeoSearch.Proofs.Query.Temporal
import GeoSearch.Query.Positions
import GeoSearch.Proofs.Query.Spatial
import GeoSearch.Proofs.Query.Ring
import GeoSearch.Proofs.Query.Dated
import GeoSearch.Proofs.Query.Box
import GeoSearch.Proofs.Query.Antimeridian
import GeoSearch.Proofs.Query.Sent
import GeoSearch.Proofs.Binary64.Correct
import GeoSearch.Proofs.Binary64.Arithmetic
import GeoSearch.Proofs.Geometry.Centroid
import GeoSearch.Proofs.Query.Distance
import GeoSearch.Proofs.Decimal.Reader
import GeoSearch.Proofs.Geometry.Distance
import GeoSearch.Proofs.Query.Buffer
import GeoSearch.Proofs.Geometry.Ruler
import GeoSearch.Proofs.Geometry.Grid
import GeoSearch.Proofs.Geometry.Nearby
import GeoSearch.Geometry.Cover
import GeoSearch.Proofs.Geometry.Mosaic
import GeoSearch.Proofs.Geometry.Area
import GeoSearch.Proofs.Geometry.Whole
import GeoSearch.Proofs.Geometry.Document
import GeoSearch.Proofs.Geometry.Precision
import GeoSearch.Document.Exchange
import GeoSearch.Proofs.Geometry.PointText
import GeoSearch.Proofs.Predicate.Objects
import GeoSearch.Proofs.Binary64.Infinite
import GeoSearch.Proofs.Binary64.Approximation
import GeoSearch.Proofs.Binary64.Root
import GeoSearch.Proofs.Trigonometry.FixedPoint
import GeoSearch.Proofs.Trigonometry.Series
import GeoSearch.Proofs.Trigonometry.Angle
import GeoSearch.Proofs.Trigonometry.Turn
import GeoSearch.Proofs.Trigonometry.Rounded
import GeoSearch.Proofs.Geometry.Meridian
import GeoSearch.Proofs.Predicate.Buffer
import GeoSearch.Proofs.Scroll.Life
import GeoSearch.Proofs.Predicate.Pieces
import GeoSearch.Proofs.Predicate.Combination
import GeoSearch.Proofs.Source.Levels
import GeoSearch.Proofs.Binary64.Integers
import GeoSearch.Proofs.Query.Rendering
import GeoSearch.Proofs.Query.Integers
import GeoSearch.Proofs.Geometry.Turns
import GeoSearch.Proofs.Source.Attributes
import GeoSearch.Proofs.Text.Bytes
import GeoSearch.Proofs.Json.Reading
import GeoSearch.Proofs.Document.Traversal
import GeoSearch.Proofs.Log.Line
