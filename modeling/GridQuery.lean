import GridQuery.Proofs.Rounding
import GridQuery.Proofs.CellOrder
import GridQuery.Json.Writer
import GridQuery.Sql
import GridQuery.Proofs.Masking
import GridQuery.Proofs.Resolution
import GridQuery.Proofs.DottedName
import GridQuery.Proofs.IsoDay
import GridQuery.Proofs.Walk
import GridQuery.Proofs.Registration
import GridQuery.Schema.Declaration
import GridQuery.Proofs.CalendarOrder
import GridQuery.Proofs.Chain
import GridQuery.Proofs.Descent
import GridQuery.Proofs.Operand
import GridQuery.Proofs.SelfReference
import GridQuery.Proofs.SortPath
import GridQuery.Proofs.Selection
import GridQuery.Proofs.Composition
import GridQuery.Proofs.Conjunction
import GridQuery.Proofs.Faults
import GridQuery.Proofs.BlankValue
import GridQuery.Proofs.Declared
import GridQuery.Proofs.Overrun
import GridQuery.Proofs.Containment
import GridQuery.Proofs.Acceptance
import GridQuery.Proofs.PageWindow
import GridQuery.Proofs.RowFilter
import GridQuery.Proofs.OrderModes
import GridQuery.Proofs.Constraint
import GridQuery.Proofs.Constants
import GridQuery.Proofs.Opposites
import GridQuery.Proofs.SortOrder
import GridQuery.Proofs.SortDetermined
import GridQuery.Proofs.Substring
import GridQuery.Proofs.Tolerance
import GridQuery.Proofs.Strictness
import GridQuery.Proofs.UserText
import GridQuery.Proofs.WholeDay
import GridQuery.Proofs.DayModes
import GridQuery.Proofs.RangeModes
import GridQuery.Proofs.Coherence
import GridQuery.Proofs.WireForms
import GridQuery.Boundary.Endpoint
import GridQuery.Proofs.View
import GridQuery.Proofs.Hiding
import GridQuery.Sample.Endpoints
import GridQuery.Proofs.Answer
import GridQuery.Proofs.Paging
import GridQuery.Value.Plain
import GridQuery.Proofs.Exchange
import GridQuery.Proofs.RepeatedParameter
import GridQuery.Proofs.Attribution
import GridQuery.Proofs.Instant
import GridQuery.Proofs.Numerals
import GridQuery.Proofs.MomentText
import GridQuery.Proofs.Spelling
import GridQuery.Proofs.WallClock
import GridQuery.Proofs.ColumnType
