import RouteAudit.Audit
import RouteAudit.AuditResult
import RouteAudit.Cache
import RouteAudit.Command
import RouteAudit.Command.Argument
import RouteAudit.Command.Request
import RouteAudit.Command.Usage
import RouteAudit.Conflict
import RouteAudit.Decimal.Double
import RouteAudit.Decimal.Layout
import RouteAudit.Decimal.Shortest
import RouteAudit.Event
import RouteAudit.Event.Decoder
import RouteAudit.Event.Encoder
import RouteAudit.Event.Refusal
import RouteAudit.EventFile
import RouteAudit.Files
import RouteAudit.Finding
import RouteAudit.Json.Compound
import RouteAudit.Json.Reader
import RouteAudit.Json.Shown
import RouteAudit.Json.Value
import RouteAudit.Json.Writer
import RouteAudit.Ledger
import RouteAudit.Level
import RouteAudit.Machine
import RouteAudit.Main
import RouteAudit.Named
import RouteAudit.Normalizer
import RouteAudit.Options
import RouteAudit.Path
import RouteAudit.Pattern.Cursor
import RouteAudit.Pattern.Escape
import RouteAudit.Pattern.Flags
import RouteAudit.Pattern.Matcher
import RouteAudit.Pattern.Part
import RouteAudit.Pattern.Reader
import RouteAudit.Pattern.Syntax
import RouteAudit.Pattern.Token
import RouteAudit.Proofs.AcceptedOptions
import RouteAudit.Proofs.AlignedClashes
import RouteAudit.Proofs.AuditTables
import RouteAudit.Proofs.CacheHistories
import RouteAudit.Proofs.CacheLookups
import RouteAudit.Proofs.CacheSoundness
import RouteAudit.Proofs.CacheTransparency
import RouteAudit.Proofs.CallHistories
import RouteAudit.Proofs.CanonicalForms
import RouteAudit.Proofs.CheckOutcomes
import RouteAudit.Proofs.CoarserLevels
import RouteAudit.Proofs.CodePoints
import RouteAudit.Proofs.ComposedForms
import RouteAudit.Proofs.ConstraintAnswers
import RouteAudit.Proofs.DocumentReading
import RouteAudit.Proofs.DocumentRefusals
import RouteAudit.Proofs.DocumentRoundTrip
import RouteAudit.Proofs.DuplicateVerdicts
import RouteAudit.Proofs.FaithfulForms
import RouteAudit.Proofs.FaultlessChecks
import RouteAudit.Proofs.FileOrder
import RouteAudit.Proofs.FindingKinds
import RouteAudit.Proofs.FirstRegistrations
import RouteAudit.Proofs.FormOptions
import RouteAudit.Proofs.GlobalPaths
import RouteAudit.Proofs.InertEvents
import RouteAudit.Proofs.JoinedPaths
import RouteAudit.Proofs.JsonReading
import RouteAudit.Proofs.KeyCollisions
import RouteAudit.Proofs.KeySeparation
import RouteAudit.Proofs.LargeBounds
import RouteAudit.Proofs.LargerCaches
import RouteAudit.Proofs.LastEntries
import RouteAudit.Proofs.LocalMounts
import RouteAudit.Proofs.MountTransparency
import RouteAudit.Proofs.NestedJoins
import RouteAudit.Proofs.NewRuns
import RouteAudit.Proofs.Newcomers
import RouteAudit.Proofs.NormalizerHistories
import RouteAudit.Proofs.OverlappingPaths
import RouteAudit.Proofs.OwnRouters
import RouteAudit.Proofs.PathPieces
import RouteAudit.Proofs.PatternFaults
import RouteAudit.Proofs.PatternSteps
import RouteAudit.Proofs.PlainAudit
import RouteAudit.Proofs.PublishedRouters
import RouteAudit.Proofs.Reanalysis
import RouteAudit.Proofs.Recurrences
import RouteAudit.Proofs.Refusals
import RouteAudit.Proofs.RouterHistories
import RouteAudit.Proofs.RoutingConsistency
import RouteAudit.Proofs.RunContinuation
import RouteAudit.Proofs.RunLookups
import RouteAudit.Proofs.RunOutcomes
import RouteAudit.Proofs.SegmentGrammar
import RouteAudit.Proofs.ShortNumbers
import RouteAudit.Proofs.SwappedPaths
import RouteAudit.Proofs.TextBytes
import RouteAudit.Proofs.UnusableInput
import RouteAudit.PublicName
import RouteAudit.RouterTable
import RouteAudit.Routing
import RouteAudit.Segment
import RouteAudit.Segment.Constraint
import RouteAudit.Settings
import RouteAudit.Text.Blank
import RouteAudit.Text.CaseFolding
import RouteAudit.Text.CodePoint
import RouteAudit.Text.CodeRange
import RouteAudit.Text.Digit
import RouteAudit.Text.Identifier
import RouteAudit.Text.Integer
import RouteAudit.Text.LetterCase
import RouteAudit.Text.Numeral
import RouteAudit.Text.Printable
import RouteAudit.Text.Quoted
import RouteAudit.Text.Upper
import RouteAudit.Text.Utf8
import RouteAudit.Text.Word
import RouteAudit.Trace
import RouteAudit.Whole
