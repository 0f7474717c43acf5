import MetricQuery.Config.ServerEntry
import MetricQuery.File.Path

namespace MetricQuery

/-- A whole configuration: all servers, and the name of the file it was read from, if any. -/
structure Deployment where
  name : Option String
  servers : List ServerEntry

namespace Deployment

def record : Json.Record (List ServerEntry) Deployment where
  title := "struct ProcessConfig"
  fields := [("servers", .list ServerEntry.record.decoder)]
  build fields := .ok ⟨none, fields.head?.getD []⟩

def parse (text : String) : Except QueryError Deployment :=
  (record.decoder.decode text).mapError .parse

/-- Reads a configuration from the contents of a file. -/
def ofFile (path : String) (contents : Except ReadFault ByteArray) : Except QueryError Deployment := do
  let bytes ← contents.mapError (.readConfig path)
  let text ← (textOfBytes bytes).mapError (.readConfig path)
  let deployment ← parse text
  .ok { deployment with name := fileName? path }

def toJson (deployment : Deployment) : Json :=
  .object [("servers", .array (deployment.servers.map ServerEntry.toJson))]

end Deployment

end MetricQuery
