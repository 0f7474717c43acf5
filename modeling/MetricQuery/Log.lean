import MetricQuery.Text.ControlSequence

namespace MetricQuery

/-- How urgent a log entry is. -/
inductive LogLevel where
  | error
  | warn
  | info
  | debug
  | trace
deriving DecidableEq, Repr

namespace LogLevel

def all : List LogLevel := [.error, .warn, .info, .debug, .trace]

def name : LogLevel → String
  | .error => "ERROR"
  | .warn => "WARN"
  | .info => "INFO"
  | .debug => "DEBUG"
  | .trace => "TRACE"

/-- Levels from the most urgent one on. -/
def rank : LogLevel → Nat
  | .error => 1
  | .warn => 2
  | .info => 3
  | .debug => 4
  | .trace => 5

/-- Level names are read in any mixture of small and capital letters. -/
def parse? (text : String) : Option LogLevel :=
  all.find? fun level => level.name == text.map Char.toUpper

end LogLevel

/-- The part of the program that writes a log entry. -/
inductive LogSource where
  | commandLine
  | logSink
  | registry
  | execution
  | delivery
  | config
deriving DecidableEq, Repr

def LogSource.name : LogSource → String
  | .commandLine => "sandbox"
  | .logSink => "sandbox::log_sink"
  | .registry => "harvest_query::sink::registry"
  | .execution => "harvest_query::execution::executor"
  | .delivery => "harvest_query::execution::dispatch"
  | .config => "harvest_query::config"

structure LogEntry where
  level : LogLevel
  source : LogSource
  text : String
deriving DecidableEq, Repr

/-- The entry as one line: its level, filled up to five characters, its source and its text. Each
line break in the text is followed by four blanks. -/
def LogEntry.line (entry : LogEntry) : String :=
  let level := entry.level.name
  let filling := String.ofList (List.replicate (5 - level.length) ' ')
  let text := entry.text.toList.flatMap fun c => if c = '\n' then '\n' :: "    ".toList else [c]
  "[" ++ level ++ filling ++ " " ++ entry.source.name ++ "] " ++ String.ofList text

/-- What a file is given of the entry: its line without control sequences. A sequence that is
left open may take the line break with it. -/
def LogEntry.written (entry : LogEntry) : String := withoutControls (entry.line ++ "\n")

/-- The levels of urgency that are shown: all up to a limit, or none. -/
structure LogFilter where
  limit : Option LogLevel
deriving DecidableEq, Repr

namespace LogFilter

def standard : LogFilter := ⟨some .info⟩

/-- A level by its name, or `off`. -/
def parse? (text : String) : Option LogFilter :=
  if text.map Char.toUpper == "OFF" then some ⟨none⟩
  else (LogLevel.parse? text).map fun level => ⟨some level⟩

def shows (filter : LogFilter) (level : LogLevel) : Bool :=
  match filter.limit with
  | some limit => level.rank ≤ limit.rank
  | none => false

end LogFilter

end MetricQuery
