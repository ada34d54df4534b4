import CatalogRspec.CommandLine.Usage
import CatalogRspec.Files.Path
import CatalogRspec.Log.Event
import CatalogRspec.Options.Basic
import CatalogRspec.RootClass

namespace CatalogRspec

/-- What a command line asks for. -/
structure CommandLine where
  catalog : Option String := none
  output : Option String := none
  excludes : List String := []
  allows : List String := []
  onlyIncludes : List String := []
  md5sums : Bool := false
  strictContent : Bool := false
  className : Option String := none
  config : Option String := none
  verbosity : Nat := 0
deriving Repr, DecidableEq

namespace CommandLine

def once (s : Setting) (old : Option String) (value : String) : Except UsageError (Option String) :=
  if old.isSome then .error (.repeated (.setting s))
  else if s.isPath && value.isEmpty then .error (.missingValue s)
  else .ok (some value)

def assign (l : CommandLine) (s : Setting) (value : String) : Except UsageError CommandLine :=
  match s with
  | .catalog => (once s l.catalog value).map fun v => { l with catalog := v }
  | .output => (once s l.output value).map fun v => { l with output := v }
  | .className => (once s l.className value).map fun v => { l with className := v }
  | .config => (once s l.config value).map fun v => { l with config := v }
  | .exclude => .ok { l with excludes := l.excludes ++ [value] }
  | .allow => .ok { l with allows := l.allows ++ [value] }
  | .onlyInclude => .ok { l with onlyIncludes := l.onlyIncludes ++ [value] }

def raise (l : CommandLine) : Flag → Except Refusal CommandLine
  | .md5sums =>
    if l.md5sums then .error (.usage (.repeated (.flag .md5sums))) else .ok { l with md5sums := true }
  | .strictContent =>
    if l.strictContent then .error (.usage (.repeated (.flag .strictContent)))
    else .ok { l with strictContent := true }
  | .verbose => .ok { l with verbosity := l.verbosity + 1 }
  | .help => .error .help

/-- An option that has not yet taken effect. One whose value is the next argument does so when the
option behind it starts, so what is unknown there is reported first. -/
inductive Pending where
  | nothing
  | awaiting (s : Setting)
  | complete (s : Setting) (value : String)

/-- A command line that is read in part. -/
structure Reading where
  line : CommandLine
  pending : Pending

namespace Reading

def settle (r : Reading) : Except UsageError CommandLine :=
  match r.pending with
  | .nothing => .ok r.line
  | .awaiting s => .error (.missingValue s)
  | .complete s value => r.line.assign s value

def setting (r : Reading) (s : Setting) : Option String → Except Refusal Reading
  | none => do
    let line ← r.settle.mapError .usage
    return ⟨line, .awaiting s⟩
  | some value => do
    let line ← r.settle.mapError .usage
    let line ← (line.assign s value).mapError .usage
    return ⟨line, .nothing⟩

def flag (r : Reading) (f : Flag) : Except Refusal Reading := do
  let line ← r.settle.mapError .usage
  return ⟨← line.raise f, .nothing⟩

def long (r : Reading) (name : String) (value : Option String) : Except Refusal Reading :=
  match Switch.ofLong? name, value with
  | some (.setting s), value => r.setting s value
  | some (.flag f), none => r.flag f
  | some (.flag f), some value => .error (.usage (.unexpectedValue value f))
  | none, _ => .error (.usage (.unexpectedArgument ("--" ++ name)))

/-- The value behind a short option in the same argument; an equals sign may stand between. -/
def joinedValue? : List Char → Option String
  | [] => none
  | '=' :: value => some (String.ofList value)
  | value => some (String.ofList value)

/-- Options by their short names; the first with a value takes what is left. -/
def short (r : Reading) : List Char → Except Refusal Reading
  | [] => .ok r
  | c :: rest =>
    match Switch.ofShort? c with
    | some (.setting s) => r.setting s (joinedValue? rest)
    | some (.flag f) => do
      let r ← r.flag f
      r.short rest
    | none => .error (.usage (.unexpectedArgument (String.ofList ['-', c])))

/-- An argument that does not look like an option is the value that an option waits for. -/
def word (r : Reading) (argument : String) : Except Refusal Reading :=
  match r.pending with
  | .awaiting s => .ok { r with pending := .complete s argument }
  | _ => .error (.usage (.unexpectedArgument argument))

/-- Splits at the first equals sign. -/
def splitEquals (chars : List Char) : String × Option String :=
  let name := String.ofList (chars.takeWhile (· != '='))
  match chars.dropWhile (· != '=') with
  | [] => (name, none)
  | _ :: value => (name, some (String.ofList value))

def argument (r : Reading) (a : String) : Except Refusal Reading :=
  match a.toList with
  | '-' :: '-' :: rest => r.long (splitEquals rest).1 (splitEquals rest).2
  | ['-'] => r.word a
  | '-' :: names => r.short names
  | _ => r.word a

/-- Two dashes alone end the options, and nothing may stand behind them. -/
def arguments (r : Reading) : List String → Except Refusal CommandLine
  | [] => r.settle.mapError .usage
  | "--" :: rest =>
    match rest with
    | [] => r.settle.mapError .usage
    | a :: _ => .error (.usage (.unexpectedArgument a))
  | a :: rest => do
    let r ← r.argument a
    r.arguments rest

end Reading

def parse (arguments : List String) : Except Refusal CommandLine :=
  Reading.arguments ⟨{}, .nothing⟩ arguments

def outputPath (l : CommandLine) : Files.Path := Files.Path.ofText (l.output.getD defaultOutput)

def configPath? (l : CommandLine) : Option Files.Path := l.config.map Files.Path.ofText

def choice (l : CommandLine) : ClassChoice :=
  match l.className with
  | none => .inferred
  | some name => .named name

/-- The options of a config with those of the command line over them. -/
def mergeInto (l : CommandLine) (o : Options) : Options :=
  let o := l.excludes.foldl Options.exclude o
  let o := l.allows.foldl Options.allow o
  let o := l.onlyIncludes.foldl Options.addOnlyInclude o
  { o with
    md5sums := o.md5sums || l.md5sums
    strictContent := o.strictContent || l.strictContent }

end CommandLine

end CatalogRspec
