/-!
# Files

The requests by which a program works with files, and the ways in which the system refuses them.
-/

namespace SessionKit.Files

inductive Error where
  | notFound
  | alreadyExists
  | notDirectory
  | isDirectory
  | nameTooLong
  /-- The path holds the character that ends paths inside of the system. -/
  | unusablePath
  /-- The content is not UTF-8. -/
  | notText
  /-- Any other refusal, in the words of the system. -/
  | other (text : String)
  deriving DecidableEq, Repr

def Error.message : Error → String
  | notFound => "No such file or directory (os error 2)"
  | alreadyExists => "File exists (os error 17)"
  | notDirectory => "Not a directory (os error 20)"
  | isDirectory => "Is a directory (os error 21)"
  | nameTooLong => "File name too long (os error 36)"
  | unusablePath => "file name contained an unexpected NUL byte"
  | notText => "stream did not contain valid UTF-8"
  | other text => text

inductive Request where
  /-- Whether there is a regular file. -/
  | isFile (path : String)
  /-- Whether there is a file or a directory. -/
  | present (path : String)
  | read (path : String)
  /-- Makes a directory and those above it that are missing. -/
  | makeDirectory (path : String)
  /-- Writes a file anew. -/
  | write (path text : String)
  /-- Writes behind what a file holds; a missing file is made. -/
  | append (path text : String)
  deriving DecidableEq, Repr

def Answer : Request → Type
  | .isFile _ => Bool
  | .present _ => Bool
  | .read _ => Except Error String
  | .makeDirectory _ => Except Error Unit
  | .write _ _ => Except Error Unit
  | .append _ _ => Except Error Unit

end SessionKit.Files
