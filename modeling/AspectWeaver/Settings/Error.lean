/-
**What can go wrong with settings: a file that cannot be read, a document that is malformed or does
not fit, a value that is no value of its key, and a log sink that is already installed.**
-/

namespace AspectWeaver

/-- Why a file cannot be read. -/
inductive ReadFault where
  /-- The path holds the character that ends paths. -/
  | nulInPath
  /-- The path, or a name in it, has too many bytes. -/
  | tooLong
  /-- A name stands after one that leads to no directory. -/
  | throughFile
  | missing
  | isDirectory
  /-- The bytes of the file are no text. -/
  | notText
  deriving DecidableEq

/-- The wording of a fault. -/
def ReadFault.message : ReadFault → String
  | .nulInPath => "file name contained an unexpected NUL byte"
  | .tooLong => "File name too long (os error 36)"
  | .throughFile => "Not a directory (os error 20)"
  | .missing => "No such file or directory (os error 2)"
  | .isDirectory => "Is a directory (os error 21)"
  | .notText => "stream did not contain valid UTF-8"

/-- What can go wrong with settings. -/
inductive SettingsError where
  | sinkInstalled
  | unreadable (path : String) (fault : ReadFault)
  | malformed
  | invalidValue (key value : String)
  deriving DecidableEq

namespace SettingsError

/-- The wording of an error. -/
def message : SettingsError → String
  | .sinkInstalled =>
      "Failed to initialize logging: a global default trace dispatcher has already been set"
  | .unreadable path fault =>
      "Failed to read config file '" ++ path ++ "': " ++ fault.message
  | .malformed => "Failed to parse config"
  | .invalidValue key value => "Invalid value '" ++ value ++ "' for " ++ key

/-- What an error stems from, in words, if that is an error too. What a reader says of a malformed
document is left out, here and in `message`. -/
def source? : SettingsError → Option String
  | .unreadable _ fault => some fault.message
  | .sinkInstalled | .malformed | .invalidValue _ _ => none

/-- The word for the kind of an error. -/
def label : SettingsError → String
  | .sinkInstalled => "LoggingInitFailed"
  | .unreadable _ _ => "ConfigIo"
  | .malformed => "ConfigParse"
  | .invalidValue _ _ => "InvalidConfigValue"

end SettingsError

end AspectWeaver
