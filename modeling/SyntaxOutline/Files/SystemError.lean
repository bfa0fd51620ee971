/-!
# Errors of the file system

The reasons for which the file system refuses a request, with the text that each is shown as.
-/

namespace SyntaxOutline

/-- Why a file cannot be read, created or written. -/
inductive SystemError where
  | notFound
  | notADirectory
  | isADirectory
  | noSpace
  | nameTooLong
  | tooManyLinks
  | nullInName
  | notText
  | other (text : String)
deriving DecidableEq, Repr

/-- The wording of each reason. -/
def SystemError.message : SystemError → String
  | notFound => "No such file or directory (os error 2)"
  | notADirectory => "Not a directory (os error 20)"
  | isADirectory => "Is a directory (os error 21)"
  | noSpace => "No space left on device (os error 28)"
  | nameTooLong => "File name too long (os error 36)"
  | tooManyLinks => "Too many levels of symbolic links (os error 40)"
  | nullInName => "file name contained an unexpected NUL byte"
  | notText => "stream did not contain valid UTF-8"
  | other text => text

end SyntaxOutline
