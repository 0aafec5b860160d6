import Tickler.Main
import Tickler.Proofs.Grammar
import Tickler.Proofs.DateReading
import Tickler.Proofs.MeasureReading
import Tickler.Proofs.Zones
import Tickler.Proofs.LeftmostToken
import Tickler.Proofs.CanonicalLine
import Tickler.Proofs.History
import Tickler.Proofs.Centuries
import Tickler.Proofs.Months
import Tickler.Proofs.Series
import Tickler.Proofs.Suppression
import Tickler.Proofs.Jumps
import Tickler.Proofs.MonthWeekdays
import Tickler.Proofs.NumberedWeekdays
import Tickler.Proofs.WeekdayListing
import Tickler.Proofs.FailureSignal
import Tickler.Proofs.FullDates
import Tickler.Proofs.ReferenceDates
import Tickler.Proofs.JsonGrammar
import Tickler.Proofs.JsonReading
import Tickler.Proofs.ReportReading
import Tickler.Proofs.DateSearch
import Tickler.Proofs.Succession
import Tickler.Proofs.OffsetTargets
import Tickler.Proofs.SearchWindow
import Tickler.Proofs.InputLines
import Tickler.Proofs.SuccessiveLines
import Tickler.Proofs.RunFiles
import Tickler.Proofs.LateYears
import Tickler.Proofs.ExtraDays
import Tickler.Proofs.OffsetSpellings
import Tickler.Proofs.IsoReading
import Tickler.Proofs.ReferenceForms
