/-! Why a text is no YAML document, or a value of it cannot be had. -/

set_option autoImplicit false

namespace Arrears.Yaml

inductive Fault where
  | malformed
  /-- A number that is none, a date that does not exist, a character beyond all. -/
  | noSuchValue
  /-- A number of which nothing is left behind its sign. -/
  | nothingLeft
  | tooLarge
  /-- A truth value by none of its words. -/
  | unknownWord (word : String)
  | notATime
  /-- A time that is given as the value of a mapping. -/
  | timeInMapping
  /-- A text that is given as its own value. -/
  | endless
  deriving DecidableEq, Repr

end Arrears.Yaml
