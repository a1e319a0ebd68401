namespace DocumentRest

inductive FileError
  | notPermitted
  | missing
  | accessDenied
  | alreadyThere
  | noDirectory
  | isDirectory
  | nameTooLong
  | zeroInPath
  deriving DecidableEq, Repr

def FileError.message : FileError → String
  | .notPermitted => "Operation not permitted (os error 1)"
  | .missing => "No such file or directory (os error 2)"
  | .accessDenied => "Permission denied (os error 13)"
  | .alreadyThere => "File exists (os error 17)"
  | .noDirectory => "Not a directory (os error 20)"
  | .isDirectory => "Is a directory (os error 21)"
  | .nameTooLong => "File name too long (os error 36)"
  | .zeroInPath => "file name contained an unexpected NUL byte"

end DocumentRest
