/-!
# Faults of a document

Why a text cannot be read as a document.  Most faults are of form; the others
arise when a scalar cannot become the value that its tag asks for.
-/

namespace AlertRelay.Yaml

inductive Fault where
  /-- the text breaks a rule of the format, or a tag does not fit its node -/
  | malformed
  /-- a number, a date or a character number has no value -/
  | noSuchValue
  /-- a number beyond what a machine can hold where it is used -/
  | tooLarge
  /-- collections stand in one another too deeply -/
  | tooDeep
  /-- a number without any character -/
  | emptyNumber
  /-- a truth value that is none of the known words -/
  | unknownWord
  /-- a timestamp of no known form -/
  | notTimestamp
  /-- a timestamp that is not written as a scalar -/
  | notScalar
  deriving DecidableEq, Repr, Inhabited

end AlertRelay.Yaml
