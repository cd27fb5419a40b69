import ModelSchema.Glob
import ModelSchema.Path

/-!
# Failures

What can go wrong, by cause, and the wording of each cause.

## Main definitions

* `IoFault` — why an operation on files fails.
* `Failure` — why a pass or a command fails, or why a file is skipped.
* `Failure.endsPass` — whether a failure ends a pass.
-/

namespace ModelSchema

/-- Why an operation on files fails. -/
inductive IoFault where
  | notFound
  | busy
  | alreadyExists
  | notADirectory
  | isADirectory
  | notEmpty
  | nameTooLong
  | tooManyLinks
  | nulInName
  | invalidUtf8
  | noWholeTree
  | other (text : String)
deriving DecidableEq, Repr

/-- The wording of a fault, with the system's number for it. -/
def IoFault.message : IoFault → String
  | .notFound => "No such file or directory (os error 2)"
  | .busy => "Device or resource busy (os error 16)"
  | .alreadyExists => "File exists (os error 17)"
  | .notADirectory => "Not a directory (os error 20)"
  | .isADirectory => "Is a directory (os error 21)"
  | .nameTooLong => "File name too long (os error 36)"
  | .notEmpty => "Directory not empty (os error 39)"
  | .tooManyLinks => "Too many levels of symbolic links (os error 40)"
  | .nulInName => "file name contained an unexpected NUL byte"
  | .invalidUtf8 => "stream did not contain valid UTF-8"
  | .noWholeTree => "failed to create whole tree"
  | .other text => text

/-- Why a pass or a command fails, or why a file is skipped. -/
inductive Failure where
  | io (fault : IoFault)
  /-- The text of the settings is not well-formed, or a value in it has a wrong type. -/
  | settingsSyntax
  /-- A setting has a value that cannot be used. -/
  | settingsValue (reason : String)
  | pathNotFound (path : Path)
  /-- A source file cannot be read; it is skipped. -/
  | fileRead (path : Path) (reason : String)
  /-- The schema cannot be written; the pass ends. -/
  | outputWrite (path : Path) (fault : IoFault)
  | watch (reason : String)
  | globPattern (fault : Glob.Fault)
  | parser (reason : String)
deriving DecidableEq, Repr

namespace Failure

/-- The wording of a failure. -/
def message : Failure → String
  | .io fault => "IO error: " ++ fault.message
  | .settingsSyntax => "Failed to parse config file:"
  | .settingsValue reason => "Config validation error: " ++ reason
  | .pathNotFound path => "Path not found: " ++ path.text
  | .fileRead path reason => "Failed to read " ++ path.text ++ ": " ++ reason
  | .outputWrite path fault => "Failed to write " ++ path.text ++ ": " ++ fault.message
  | .watch reason => "File watcher error: " ++ reason
  | .globPattern fault => "Glob pattern error: " ++ fault.message
  | .parser reason => "Parser error: " ++ reason

/-- Whether a failure ends a pass; every other one is skipped or reported. -/
def endsPass : Failure → Bool
  | .outputWrite .. => true
  | _ => false

end Failure

end ModelSchema
