import Attenuation.Decimal.Layout

/-!
# Levels

An attenuation, a calibration offset, a maximum and a step size are all doubles in decibels.
-/

namespace Attenuation

/-- An attenuation in decibels. -/
abbrev Level := Float

/-- Messages write a level by its shortest digits, never with an exponent, and write a whole
number without a point. -/
def Level.layout : Decimal.Layout where
  positional := none
  wholeKeepsPoint := false
  signedExponent := false
  tie := .upward
  notANumber := ['N', 'a', 'N']
  infinity := ['i', 'n', 'f']
  negativeInfinity := ['-', 'i', 'n', 'f']

/-- A level as messages write it. -/
def Level.text (level : Level) : String :=
  String.ofList (Level.layout.render level)

end Attenuation
