import MetricQuery.File.Fault
import MetricQuery.Json.Decode
import MetricQuery.Name.Error
import MetricQuery.Server.Failure

namespace MetricQuery

/-- Why a query could not be read, built or run. -/
inductive QueryError where
  | invalidPattern (input : String) (cause : NameError)
  | sinkConstruction (index : Nat) (cause : String)
  | unknownSinkType (kind : String)
  | sinkSettings (kind cause : String)
  | discovery (pattern : String) (cause : ServerFailure)
  | fetch (pattern resource : String) (requested : List String) (cause : ServerFailure)
  | delivery (index : Nat) (pattern cause : String)
  | parse (cause : Json.Error)
  | readConfig (path : String) (cause : ReadFault)

namespace QueryError

def message : QueryError → String
  | .invalidPattern input _ => "invalid object name: " ++ input
  | .sinkConstruction index _ => "output sink #" ++ toString index ++ " could not be created"
  | .unknownSinkType kind => "unknown output sink type `" ++ kind ++ "`"
  | .sinkSettings kind _ => "output sink type `" ++ kind ++ "` rejected its settings"
  | .discovery pattern _ => "discovery failed for pattern " ++ pattern
  | .fetch pattern resource requested _ =>
    "fetch failed for resource " ++ resource ++ " of query " ++ pattern ++ " (attributes " ++
      quotedList requested ++ ")"
  | .delivery index pattern _ => "output sink #" ++ toString index ++ " failed for query " ++ pattern
  | .parse cause => "failed to parse configuration: " ++ cause.message
  | .readConfig path _ => "failed to read configuration file " ++ quoted path

/-- The messages of the causes below an error, the nearest one first. -/
def causes : QueryError → List String
  | .invalidPattern _ cause => [cause.message]
  | .sinkConstruction _ cause | .sinkSettings _ cause | .delivery _ _ cause => [cause]
  | .unknownSinkType _ => []
  | .discovery _ cause | .fetch _ _ _ cause => cause.message :: cause.causes
  | .parse cause => [cause.message]
  | .readConfig _ cause => [cause.message]

end QueryError

end MetricQuery
