namespace CatalogRspec.CommandLine

/-- An option with a value. -/
inductive Setting where
  | catalog
  | output
  | exclude
  | allow
  | onlyInclude
  | className
  | config
deriving Repr, DecidableEq

namespace Setting

def all : List Setting := [.catalog, .output, .exclude, .allow, .onlyInclude, .className, .config]

def long : Setting → String
  | .catalog => "catalog"
  | .output => "output"
  | .exclude => "exclude"
  | .allow => "include"
  | .onlyInclude => "only-include"
  | .className => "class"
  | .config => "config"

def short? : Setting → Option Char
  | .catalog => some 'c'
  | .output => some 'o'
  | .exclude => some 'x'
  | .allow => some 'i'
  | .onlyInclude => some 'I'
  | .className => none
  | .config => none

def valueName : Setting → String
  | .catalog => "CATALOG"
  | .output => "OUTPUTFILE"
  | .exclude | .allow | .onlyInclude => "RESOURCE"
  | .className => "CLASS"
  | .config => "FILE"

def shown (s : Setting) : String := "--" ++ s.long ++ " <" ++ s.valueName ++ ">"

def isPath : Setting → Bool
  | .catalog | .output | .config => true
  | _ => false

end Setting

/-- An option without a value. -/
inductive Flag where
  | md5sums
  | strictContent
  | verbose
  | help
deriving Repr, DecidableEq

namespace Flag

def all : List Flag := [.md5sums, .strictContent, .verbose, .help]

def long : Flag → String
  | .md5sums => "md5sums"
  | .strictContent => "strict-content"
  | .verbose => "verbose"
  | .help => "help"

def short? : Flag → Option Char
  | .md5sums => some 'm'
  | .strictContent => none
  | .verbose => some 'v'
  | .help => some 'h'

/-- The option as messages show it; dots say that it may be repeated. -/
def shown (f : Flag) : String := "--" ++ f.long ++ if f = .verbose then "..." else ""

end Flag

/-- An option of either kind. -/
inductive Switch where
  | setting (s : Setting)
  | flag (f : Flag)
deriving Repr, DecidableEq

namespace Switch

def all : List Switch := Setting.all.map .setting ++ Flag.all.map .flag

def long : Switch → String
  | .setting s => s.long
  | .flag f => f.long

def short? : Switch → Option Char
  | .setting s => s.short?
  | .flag f => f.short?

def shown : Switch → String
  | .setting s => s.shown
  | .flag f => f.shown

def ofLong? (name : String) : Option Switch := all.find? (·.long == name)

def ofShort? (c : Char) : Option Switch := all.find? (·.short? == some c)

end Switch

end CatalogRspec.CommandLine
