/-!
# Errors of storage

The reasons why a file cannot be read or written, with the words in which they are reported.
-/

namespace MembershipGrid

inductive StorageError where
  | notFound
  | notDirectory
  | isDirectory
  | nameTooLong
  | nulInPath
  | notUtf8
  | zeroWidth
  | zeroHeight
  | other (text : String)
  deriving DecidableEq

def StorageError.message : StorageError → String
  | .notFound => "No such file or directory (os error 2)"
  | .notDirectory => "Not a directory (os error 20)"
  | .isDirectory => "Is a directory (os error 21)"
  | .nameTooLong => "File name too long (os error 36)"
  | .nulInPath => "file name contained an unexpected NUL byte"
  | .notUtf8 => "stream did not contain valid UTF-8"
  | .zeroWidth => "Zero width not allowed"
  | .zeroHeight => "Zero height not allowed"
  | .other text => text

end MembershipGrid
