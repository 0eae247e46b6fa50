import SourceGrade.Configuration.Basic
/-!
# Thresholds in use

The thresholds of a configuration as an analysis computes with them: the limits keep the kinds that
they were written in, and other numbers are amounts.
-/

namespace SourceGrade

/-- The thresholds that an analysis runs with. -/
abbrev ActiveThresholds : Type := Thresholds Setting Amount

/-- Settings put to use as thresholds. -/
def Thresholds.active (t : Thresholds Setting Setting) : ActiveThresholds :=
  t.map id Setting.toAmount

def Configuration.activeThresholds (c : Configuration) : ActiveThresholds := c.thresholds.active

end SourceGrade
