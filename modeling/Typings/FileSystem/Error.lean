/-
Errors of the file system: the number and words of each cause, and the paths it concerns.
-/
import Typings.Text.Quoted

namespace Typings

/-- why the file system refuses -/
inductive OsCause
  | noEntry
  | permission
  | exists
  | notDirectory
  | isDirectory
  | nameTooLong
  | tooManyLinks
  /-- a name that only leads to a directory in use -/
  | busy
  /-- every name that a temporary file could have is taken -/
  | noFreeName
  deriving DecidableEq, Repr

/-- a refusal and the path, or the two paths, it concerns -/
structure OsError where
  cause : OsCause
  path : Option Text
  target : Option Text
  deriving DecidableEq, Repr

namespace OsCause

/-- the system's number for a cause -/
def number : OsCause → Nat
  | .noEntry => 2
  | .permission => 13
  | .busy => 16
  | .exists => 17
  | .notDirectory => 20
  | .isDirectory => 21
  | .nameTooLong => 36
  | .tooManyLinks => 40
  | .noFreeName => 17

def words : OsCause → Text
  | .noEntry => "No such file or directory"
  | .permission => "Permission denied"
  | .exists => "File exists"
  | .notDirectory => "Not a directory"
  | .isDirectory => "Is a directory"
  | .nameTooLong => "File name too long"
  | .tooManyLinks => "Too many levels of symbolic links"
  | .busy => "Device or resource busy"
  | .noFreeName => "No usable temporary file name found"

/-- the name of a cause in crash reports -/
def className : OsCause → Text
  | .noEntry => "FileNotFoundError"
  | .permission => "PermissionError"
  | .exists => "FileExistsError"
  | .notDirectory => "NotADirectoryError"
  | .isDirectory => "IsADirectoryError"
  | .nameTooLong => "OSError"
  | .tooManyLinks => "OSError"
  | .busy => "OSError"
  | .noFreeName => "FileExistsError"

/-- the error of a cause on a path -/
def on (cause : OsCause) (path : Text) : OsError := ⟨cause, some path, none⟩

end OsCause

def OsError.message (e : OsError) : Text :=
  "[Errno " ++ Text.ofNat e.cause.number ++ "] " ++ e.cause.words
    ++ (match e.path with
      | none => ([] : Text)
      | some p => ": " ++ p.quoted)
    ++ (match e.target with
      | none => ([] : Text)
      | some p => " -> " ++ p.quoted)

end Typings
