import CommonChangelog.Main
import CommonChangelog.Repository.Store
import CommonChangelog.Proofs.ReadNumbers
import CommonChangelog.Proofs.RetrofitCoverage
import CommonChangelog.Proofs.RetrofitValidity
import CommonChangelog.Proofs.RoundTrip
import CommonChangelog.Proofs.Skeleton
import CommonChangelog.Proofs.SortedFindings
import CommonChangelog.Proofs.SuggestedVersion
import CommonChangelog.Proofs.Validity
import CommonChangelog.Proofs.HeadingCategories
import CommonChangelog.Proofs.ReleaseOrder
import CommonChangelog.Proofs.HistoryImpact
import CommonChangelog.Proofs.CarriedEntries
import CommonChangelog.Proofs.CommandEffects
import CommonChangelog.Proofs.KeptEntries
import CommonChangelog.Proofs.MarkedEntries
import CommonChangelog.Proofs.SemanticPrecedence
import CommonChangelog.Proofs.MigratedDocuments
import CommonChangelog.Proofs.VersionHeadings
import CommonChangelog.Proofs.Formatting
import CommonChangelog.Proofs.SortedLabels
import CommonChangelog.Proofs.BumpRuns
import CommonChangelog.Proofs.Segmentation
import CommonChangelog.Proofs.LineEnds
import CommonChangelog.Proofs.CoveredLines
import CommonChangelog.Proofs.RetrofitOrder
import CommonChangelog.Proofs.LegacySegments
import CommonChangelog.Proofs.ImportedNumbers
import CommonChangelog.Proofs.TimestampOrder
import CommonChangelog.Proofs.NewestFirst
import CommonChangelog.Proofs.GrowingHistory
import CommonChangelog.Proofs.HeaderGrammar
import CommonChangelog.Proofs.ScopedEntries
import CommonChangelog.Proofs.ImportMarkers
import CommonChangelog.Proofs.DecoratedSubjects
import CommonChangelog.Proofs.ImperativeMood
import CommonChangelog.Proofs.ExcludedPaths
import CommonChangelog.Proofs.CommittedUpdates
import CommonChangelog.Proofs.EditedGroups
