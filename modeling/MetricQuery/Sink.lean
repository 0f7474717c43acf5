import MetricQuery.Json.Value
import MetricQuery.Log

namespace MetricQuery

/-- An output for batches of samples. Of the known ones, a recorder keeps what it is given, and may
refuse it afterwards; a log sink writes one log entry for each sample. -/
inductive Sink where
  | recorder (label : String) (writeFault : Option String)
  | log (level : LogLevel)
deriving DecidableEq, Repr

/-- Creates sinks. Creating a recorder may fail. -/
inductive SinkFactory where
  | recorder (label : String) (createFault writeFault : Option String)
  | log (level : LogLevel)
deriving DecidableEq, Repr

/-- The free settings of a sink, by name. -/
abbrev SinkSettings := List (String × Json)

namespace SinkFactory

def recording (settings : SinkSettings) : SinkFactory :=
  .recorder ((Json.getText? settings "label").getD "unnamed")
    (Json.getText? settings "failCreate") (Json.getText? settings "failWrite")

/-- A recorder that insists on a name. -/
def strict (settings : SinkSettings) : Except String SinkFactory :=
  match Json.getText? settings "name" with
  | some _ => .ok (recording settings)
  | none => .error "`name` setting is required"

/-- A log sink writes at the level that is set, or else at `info`. -/
def logging (settings : SinkSettings) : Except String SinkFactory :=
  match Json.getText? settings "level" with
  | none => .ok (.log .info)
  | some name =>
    match LogLevel.parse? name with
    | some level => .ok (.log level)
    | none => .error ("unknown log level `" ++ name ++ "`")

end SinkFactory

end MetricQuery
