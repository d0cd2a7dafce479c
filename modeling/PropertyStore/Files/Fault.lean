namespace PropertyStore.Files

inductive Fault where
  | notFound
  | notDirectory
  | isDirectory
  | nameTooLong
  | linkLoop
  /-- The last segment of a path to be moved or replaced names no entry of its own. -/
  | busy
  /-- The path holds a NUL character. -/
  | nulInName
  /-- The path has no last name that a file could be given, such as `..`. -/
  | noFileName
  /-- What was written went to something that does not keep it. -/
  | notKept
  deriving Repr, DecidableEq

def Fault.message : Fault → String
  | .notFound => "No such file or directory (os error 2)"
  | .notDirectory => "Not a directory (os error 20)"
  | .isDirectory => "Is a directory (os error 21)"
  | .nameTooLong => "File name too long (os error 36)"
  | .busy => "Device or resource busy (os error 16)"
  | .linkLoop => "Too many levels of symbolic links (os error 40)"
  | .nulInName => "file name contained an unexpected NUL byte"
  | .noFileName => "属性文件路径缺少文件名"
  | .notKept => "Invalid argument (os error 22)"

end PropertyStore.Files
