import Formulary.Calendar.DateTime
import Std.Time.Zoned

/-!
# The clock

`Clock.now` is the present time as people read it where the program runs; if the time zone of the place
is not known, that of Greenwich.
-/

namespace Formulary.Clock

/-- By how many nanoseconds the clocks of the place are ahead of Greenwich at a moment. -/
def localOffset (stamp : Std.Time.Timestamp) : IO Int :=
  try
    let rules ← Std.Time.Database.defaultGetLocalZoneRules
    return (rules.timezoneAt stamp).offset.second.val * 1000000000
  catch _ => return 0

/-- The present time. -/
def now : IO DateTime := do
  let stamp ← Std.Time.Timestamp.now
  let offset ← localOffset stamp
  match DateTime.ofEpochNanosecond? (stamp.toNanosecondsSinceUnixEpoch.val + offset) with
  | some time => return time
  | none => throw (IO.userError "the time lies outside of the calendar")

end Formulary.Clock
