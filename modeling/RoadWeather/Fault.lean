/-! # Failures -/

namespace RoadWeather

/-- What kind of failure ended an operation. -/
inductive FaultKind where
  | assertion
  | index
  | badValue
  | wrongKind
  | missingKey
  | noAttribute
  | overflow
  | zeroDivision
  | general
  | runtime
  | exhausted
  | connection
  | illegalCharacter
  | missingFile
  | notFolder
  | isFolder
  | unsupportedFile
  | badArchive
  | system
  deriving DecidableEq, Repr, Inhabited

/-- A failure with its message. -/
structure Fault where
  kind : FaultKind
  message : String
  deriving DecidableEq, Repr, Inhabited

/-- The class name a kind of failure is known by. -/
def FaultKind.label : FaultKind → String
  | .assertion => "AssertionError"
  | .index => "IndexError"
  | .badValue => "ValueError"
  | .wrongKind => "TypeError"
  | .missingKey => "KeyError"
  | .noAttribute => "AttributeError"
  | .overflow => "OverflowError"
  | .zeroDivision => "ZeroDivisionError"
  | .general => "Exception"
  | .runtime => "RuntimeError"
  | .exhausted => "StopIteration"
  | .connection => "OperationalError"
  | .illegalCharacter => "IllegalCharacterError"
  | .missingFile => "FileNotFoundError"
  | .notFolder => "NotADirectoryError"
  | .isFolder => "IsADirectoryError"
  | .unsupportedFile => "InvalidFileException"
  | .badArchive => "BadZipFile"
  | .system => "OSError"

end RoadWeather
