namespace CatalogRspec.Files

/-- Why the system refuses to do something with a file. -/
inductive Fault where
  | notFound
  | alreadyExists
  | notDirectory
  | isDirectory
  | nameTooLong
  /-- A name holds the character that ends names. -/
  | nulInName
  /-- The content of the file is not UTF-8. -/
  | notText
  | other (code : Nat) (description : String)
deriving Repr, DecidableEq

def osMessage (description : String) (code : Nat) : String :=
  description ++ " (os error " ++ toString code ++ ")"

def Fault.message : Fault → String
  | .notFound => osMessage "No such file or directory" 2
  | .alreadyExists => osMessage "File exists" 17
  | .notDirectory => osMessage "Not a directory" 20
  | .isDirectory => osMessage "Is a directory" 21
  | .nameTooLong => osMessage "File name too long" 36
  | .nulInName => "file name contained an unexpected NUL byte"
  | .notText => "stream did not contain valid UTF-8"
  | .other code description => osMessage description code

end CatalogRspec.Files
