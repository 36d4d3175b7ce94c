import Specimen.Random.Uniform
import Specimen.Calendar.Format
import Specimen.Locale

set_option autoImplicit false

/-!
# Random points in time

## Main definitions

* `Specimen.Draw.dateTime?` — a moment between the start of 1970 and now, formatted.
* `Specimen.Draw.time?` — a time of day, formatted.
* `Specimen.Setting.now?` — the present moment, formatted.
-/

namespace Specimen

/-- The present moment in a format. -/
def Setting.now? (setting : Setting) (format : String) : Option String :=
  Calendar.format? (Moment.ofSeconds setting.now) format

namespace Draw

/-- A moment between the start of 1970 and now. -/
def moment (setting : Setting) : Draw Moment := Moment.ofSeconds <$> integer 0 setting.now

/-- A moment between the start of 1970 and now in a format. The draw comes before the format is
found to be invalid. -/
def dateTime? (setting : Setting) (format : String) : Draw (Option String) := do
  let moment ← moment setting
  pure (Calendar.format? moment format)

/-- A time on the first of January 1970 in a format. -/
def time? (format : String) : Draw (Option String) := do
  let hour ← below .w32 24
  let minute ← below .w32 60
  let second ← below .w32 60
  pure (Calendar.format? ⟨1970, 1, 1, hour, minute, second⟩ format)

end Draw

end Specimen
