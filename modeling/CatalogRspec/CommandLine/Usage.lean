import CatalogRspec.CommandLine.Setting
import CatalogRspec.Text.ControlSequence

namespace CatalogRspec.CommandLine

def programName : String := "create-specs"

def usageLine : String := "Usage: " ++ programName ++ " [OPTIONS]"

def defaultOutput : String := "spec/classes/init_spec.rb"

def help : String := "\n".intercalate [
  "Write an rspec-puppet spec asserting every resource in a compiled catalog",
  "",
  usageLine,
  "",
  "Options:",
  "  -c, --catalog <CATALOG>        Path to the catalog JSON file",
  "  -o, --output <OUTPUTFILE>      Path to the output rspec file [default: " ++ defaultOutput ++ "]",
  "  -x, --exclude <RESOURCE>       Resources to exclude. String or /Regexp/. Repeat to exclude several",
  "  -i, --include <RESOURCE>       Resources to include despite the exclude list",
  "  -I, --only-include <RESOURCE>  Only include these resources and exclude everything else",
  "  -m, --md5sums                  Use md5sums instead of full file content to validate file content",
  "      --strict-content           Fail when a file's content cannot be turned into a check",
  "      --class <CLASS>            Class the catalog was compiled for; inferred from the catalog when omitted",
  "      --config <FILE>            Config file with default excludes (defaults to config.yml next to the binary)",
  "  -v, --verbose...               Log more; repeat for debug output",
  "  -h, --help                     Print help",
  ""]

inductive UsageError where
  | unexpectedArgument (argument : String)
  | unexpectedValue (value : String) (flag : Flag)
  | missingValue (setting : Setting)
  | repeated (option : Switch)
deriving Repr, DecidableEq

def UsageError.message : UsageError → String
  | .unexpectedArgument argument => "unexpected argument '" ++ Text.visible argument ++ "' found"
  | .unexpectedValue value flag =>
    "unexpected value '" ++ Text.visible value ++ "' for '" ++ flag.shown ++
      "' found; no more were expected"
  | .missingValue setting =>
    "a value is required for '" ++ setting.shown ++ "' but none was supplied"
  | .repeated option => "the argument '" ++ option.shown ++ "' cannot be used multiple times"

def UsageError.report (e : UsageError) : String :=
  "error: " ++ e.message ++ "\n\n" ++ usageLine ++ "\n\nFor more information, try '--help'.\n"

/-- Why a command line asks for no run. -/
inductive Refusal where
  | help
  | usage (e : UsageError)
deriving Repr, DecidableEq

end CatalogRspec.CommandLine
