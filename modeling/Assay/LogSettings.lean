import Assay.Text.Case

/-!
# Log settings — how a host wants its log

The level filter is kept as it is written.  Two choices may be left open: colors to the terminal,
and source locations to the build.
-/

namespace Assay

/-- The form of a line of the log. -/
inductive LogFormat where
  | pretty
  | compact
  | json
  deriving DecidableEq

inductive LogWriter where
  | stderr
  | stdout
  | test
  deriving DecidableEq

/-- The parts of a line that are shown. -/
structure LogDisplay where
  time : Bool
  /-- The place in the source, if it is settled. -/
  source : Option Bool
  target : Bool
  /-- Colors, if they are settled. -/
  colors : Option Bool
  /-- Fields of an event stand beside those of its line. -/
  flatten : Bool
  deriving DecidableEq

structure LogSettings where
  level : String
  format : LogFormat
  writer : LogWriter
  display : LogDisplay
  deriving DecidableEq

namespace LogFormat

def name : LogFormat → String
  | pretty => "pretty"
  | compact => "compact"
  | json => "json"

def ofName? (name : String) : Option LogFormat :=
  [pretty, compact, json].find? fun format => format.name == name

end LogFormat

namespace LogWriter

def name : LogWriter → String
  | stderr => "stderr"
  | stdout => "stdout"
  | test => "test"

def ofName? (name : String) : Option LogWriter :=
  [stderr, stdout, test].find? fun writer => writer.name == name

end LogWriter

def LogDisplay.standard : LogDisplay := ⟨true, none, true, none, true⟩

namespace LogSettings

def standard : LogSettings := ⟨"info", .compact, .stderr, .standard⟩

def development : LogSettings :=
  ⟨"debug", .pretty, .stderr, { LogDisplay.standard with colors := some true, source := some true }⟩

def production : LogSettings :=
  ⟨"info", .json, .stderr,
    { LogDisplay.standard with colors := some false, source := some false, flatten := true }⟩

def testing : LogSettings :=
  ⟨"trace", .compact, .test, { LogDisplay.standard with colors := some false, time := false }⟩

def preset? : String → Option LogSettings
  | "development" => some development
  | "production" => some production
  | "test" => some testing
  | "default" => some standard
  | _ => none

/-- Everything but `0` and `false` sets a flag. -/
def readFlag (value : String) : Bool := value != "0" && value != "false"

def readFormat (value : String) : LogFormat := (LogFormat.ofName? (Text.lower value)).getD .compact

def ofVariables (lookup : String → Option String) : LogSettings where
  level := ((lookup "SIFT_LOG").or (lookup "RUST_LOG")).getD standard.level
  format := (lookup "SIFT_LOG_FORMAT").elim standard.format readFormat
  writer := standard.writer
  display := { LogDisplay.standard with
    time := (lookup "SIFT_LOG_TIME").elim LogDisplay.standard.time readFlag
    source := (lookup "SIFT_LOG_SOURCE").map readFlag
    colors := (lookup "SIFT_LOG_COLORS").map readFlag }

end LogSettings

end Assay
