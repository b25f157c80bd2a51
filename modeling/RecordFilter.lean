import RecordFilter.Main
import RecordFilter.Record.Basic
import RecordFilter.Sql.Reading
import RecordFilter.Sql.Normal
import RecordFilter.Proofs.Calendar.Bounds
import RecordFilter.Proofs.Calendar.CalendarLimits
import RecordFilter.Proofs.Calendar.CivilDates
import RecordFilter.Proofs.Calendar.DayStarts
import RecordFilter.Proofs.Calendar.NamedDates
import RecordFilter.Proofs.Calendar.DayOrder
import RecordFilter.Proofs.Calendar.LocalOrder
import RecordFilter.Proofs.Calendar.MonthStarts
import RecordFilter.Proofs.Calendar.MovedMoments
import RecordFilter.Proofs.Calendar.TextForms
import RecordFilter.Proofs.Calendar.WrittenMoments
import RecordFilter.Proofs.Calendar.ZoneClocks
import RecordFilter.Proofs.Filter.AskedTests
import RecordFilter.Proofs.Filter.DayWindows
import RecordFilter.Proofs.Filter.LocalRanges
import RecordFilter.Proofs.Filter.RollingWindows
import RecordFilter.Proofs.Filter.ScalarKinds
import RecordFilter.Proofs.Filter.TestMeaning
import RecordFilter.Proofs.Filter.TestValues
import RecordFilter.Proofs.Filter.TimeOrder
import RecordFilter.Proofs.Filter.TreeEdits
import RecordFilter.Proofs.Filter.TreeFolds
import RecordFilter.Proofs.Filter.WholeMillis
import RecordFilter.Proofs.Filter.WindowSources
import RecordFilter.Proofs.Filter.WrittenCounts
import RecordFilter.Proofs.Filter.WrittenNumbers
import RecordFilter.Proofs.Match.ExtendedValues
import RecordFilter.Proofs.Match.ProperMatches
import RecordFilter.Proofs.Match.TestedDocuments
import RecordFilter.Proofs.Plan.Assembly
import RecordFilter.Proofs.Plan.Complements
import RecordFilter.Proofs.Plan.ConditionTests
import RecordFilter.Proofs.Plan.DialectSwitch
import RecordFilter.Proofs.Plan.Handles
import RecordFilter.Proofs.Plan.IdleParts
import RecordFilter.Proofs.Plan.Judgements
import RecordFilter.Proofs.Plan.Negation
import RecordFilter.Proofs.Plan.Parity
import RecordFilter.Proofs.Plan.ProperPlans
import RecordFilter.Proofs.Plan.ReadFields
import RecordFilter.Proofs.Plan.Relations
import RecordFilter.Proofs.Plan.Selection
import RecordFilter.Proofs.Plan.StorageTypes
import RecordFilter.Proofs.Plan.TargetReadings
import RecordFilter.Proofs.Plan.ZoneChanges
import RecordFilter.Proofs.Record.Addresses
import RecordFilter.Proofs.Results
import RecordFilter.Proofs.Schema.StoreRuns
import RecordFilter.Proofs.Sql.ClauseReader
import RecordFilter.Proofs.Sql.ColumnRanges
import RecordFilter.Proofs.Sql.NegatedClauses
import RecordFilter.Proofs.Sql.PlaceholderReading
import RecordFilter.Proofs.Sql.PlainLike
import RecordFilter.Proofs.Sql.ProperClauses
import RecordFilter.Proofs.Sql.Rendering
import RecordFilter.Proofs.Sql.SelectedWindows
import RecordFilter.Proofs.Sql.StoredColumns
import RecordFilter.Proofs.Sql.Subclauses
import RecordFilter.Proofs.Sql.TestedRows
import RecordFilter.Proofs.Sql.TextOutsideNames
import RecordFilter.Proofs.Sql.TextReader
import RecordFilter.Proofs.Sql.TruthValues
import RecordFilter.Proofs.Sql.TypedClauses
import RecordFilter.Proofs.Sql.WindowBounds
import RecordFilter.Proofs.Text.DecimalDigits
import RecordFilter.Proofs.Text.FoundTexts
import RecordFilter.Proofs.Text.PlainPatterns
import RecordFilter.Proofs.Filter.PeriodWindows
import RecordFilter.Proofs.Filter.CutWindows
import RecordFilter.Proofs.Match.WrittenWindows
import RecordFilter.Proofs.Calendar.SkippedTimes
import RecordFilter.Proofs.Filter.ResolvedPeriods
import RecordFilter.Proofs.Filter.TakenValues
import RecordFilter.Proofs.Filter.WrittenIntegers
import RecordFilter.Proofs.Plan.DayRanges
import RecordFilter.Proofs.Plan.GivenIntegers
import RecordFilter.Proofs.Plan.SingleConditions
import RecordFilter.Proofs.Plan.ValueVerdicts
import RecordFilter.Proofs.Settings.LayeredSettings
import RecordFilter.Proofs.Json.SpelledValues
import RecordFilter.Proofs.Filter.WrittenFilters
import RecordFilter.Proofs.Filter.NamedDays
import RecordFilter.Proofs.Calendar.ShownMoments
import RecordFilter.Proofs.Match.StableValues
import RecordFilter.Proofs.Filter.OperatorKeys
