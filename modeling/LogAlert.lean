import LogAlert.Main
import LogAlert.Query.Like
import LogAlert.Simulation.Desk
import LogAlert.Proofs.Table
import LogAlert.Proofs.Script
import LogAlert.Proofs.Book
import LogAlert.Proofs.ReachableStores
import LogAlert.Proofs.World
import LogAlert.Proofs.Evaluation
import LogAlert.Proofs.Records
import LogAlert.Proofs.Administration
import LogAlert.Proofs.Change
import LogAlert.Proofs.Rounding
import LogAlert.Proofs.CooldownBoundary
import LogAlert.Proofs.CooldownSafety
import LogAlert.Proofs.MatchProgress
import LogAlert.Proofs.Gregorian
import LogAlert.Proofs.Digits
import LogAlert.Proofs.IsoReading
import LogAlert.Proofs.Characters
import LogAlert.Proofs.InstantText
import LogAlert.Proofs.Lexing
import LogAlert.Proofs.Scanning
import LogAlert.Proofs.Classification
import LogAlert.Proofs.CanonicalForm
import LogAlert.Proofs.JsonText
import LogAlert.Proofs.JsonReading
import LogAlert.Proofs.StoredForms
import LogAlert.Proofs.StoreKeys
import LogAlert.Proofs.Commands
import LogAlert.Proofs.KeptBook
import LogAlert.Proofs.Mirror
import LogAlert.Proofs.MirrorWrites
import LogAlert.Proofs.MirrorProgress
import LogAlert.Proofs.StoreAgreement
import LogAlert.Proofs.Calls
import LogAlert.Proofs.TickCalls
import LogAlert.Proofs.LargeIntegers
import LogAlert.Proofs.LongIntegers
import LogAlert.Proofs.Answering
import LogAlert.Proofs.Searches
import LogAlert.Proofs.Conjunction
import LogAlert.Proofs.Lines
import LogAlert.Proofs.LogFiles
import LogAlert.Proofs.TickDecisions
import LogAlert.Proofs.EnablingEdits
import LogAlert.Proofs.SharedServer
import LogAlert.Proofs.Interference
import LogAlert.Proofs.TidyStore
import LogAlert.Proofs.SharedOperations
import LogAlert.Proofs.SharedProgress
import LogAlert.Proofs.SharedCursors
import LogAlert.Proofs.SharedTriggers
import LogAlert.Proofs.Refusals
import LogAlert.Proofs.Interleavings
import LogAlert.Proofs.Reenabling
import LogAlert.Proofs.Revisions
import LogAlert.Proofs.StoredRevisions
import LogAlert.Proofs.Workers
import LogAlert.Proofs.Consistency
import LogAlert.Proofs.Courses
import LogAlert.Proofs.Identity
import LogAlert.Proofs.Ownership
import LogAlert.Proofs.Failures
import LogAlert.Proofs.Validity
import LogAlert.Proofs.Rotations
import LogAlert.Proofs.LayoutReading
import LogAlert.Proofs.InstantSurvival
import LogAlert.Proofs.DecodingFailures
import LogAlert.Proofs.StoreReads
import LogAlert.Proofs.Grammar
import LogAlert.Proofs.Quoting
import LogAlert.Proofs.Readings
import LogAlert.Proofs.Complements
import LogAlert.Proofs.Excerpts
import LogAlert.Proofs.Wildcards
import LogAlert.Proofs.CalendarDays
import LogAlert.Proofs.Deliveries
import LogAlert.Proofs.KeyOrder
import LogAlert.Proofs.LetterCase
import LogAlert.Proofs.Escapes
import LogAlert.Proofs.MissedTexts
import LogAlert.Proofs.FreeText
import LogAlert.Proofs.Dialogues
import LogAlert.Proofs.SlotEffects
import LogAlert.Proofs.IntegerComparison
import LogAlert.Proofs.Recasing
import LogAlert.Proofs.HistoryLimits
import LogAlert.Proofs.ChannelLinks
import LogAlert.Proofs.Documents
import LogAlert.Proofs.Reloading
import LogAlert.Proofs.LineReading
import LogAlert.Proofs.LevelSpellings
import LogAlert.Proofs.TickAccounts
import LogAlert.Proofs.LikePatterns
import LogAlert.Proofs.Addresses
