import MetricQuery.CommandLine
import MetricQuery.Proofs.Config.Settings
import MetricQuery.Proofs.Execution.Outcome
import MetricQuery.Proofs.Name.Properties
import MetricQuery.Proofs.Naming.Decoding

namespace MetricQuery

namespace QueryEntry

/-- The attributes that an entry asks of a resource: all of them if it names none. -/
def asks (environment : Environment) (entry : QueryEntry) (resource : Resource) : List String :=
  match entry.attributeNames.getD [] with
  | [] => resource.attributes.map (·.name)
  | names => names.map (Placeholder.expand environment.lookup)

def separator (entry : QueryEntry) : String := if entry.dottedKeys then "." else "_"

/-- The alias as it stands, or else the domain or the class, without dots unless they are allowed. -/
def keyStart (entry : QueryEntry) (resource : Resource) : String :=
  match entry.resultAlias with
  | some name => name
  | none =>
    let chosen := if entry.domainAsKey then resource.name.domain else resource.className
    if entry.dottedKeys then chosen else chosen.map fun c => if c = '.' then '_' else c

/-- What an entry takes over from the properties of a resource: the key and the value of each one, or
the values under the keys that it lists, as far as they are there and each key once. -/
def propertyParts (entry : QueryEntry) (resource : Resource) : List String :=
  if entry.allTypeNames then
    resource.name.properties.entries.flatMap fun (key, value) => [key, value]
  else
    (entry.typeNames.getD []).eraseDups.filterMap fun key =>
      resource.name.properties.entries.lookup key

/-- The start, the parts of the properties as far as they are any text, and the attribute, with the
separator between them. -/
def key (entry : QueryEntry) (resource : Resource) (wanted : String) : String :=
  let middle := entry.separator.intercalate (entry.propertyParts resource)
  entry.separator.intercalate
    (entry.keyStart resource :: if middle = "" then [wanted] else [middle, wanted])

namespace Configures

variable {environment : Environment} {entry : QueryEntry} {query : Query}

theorem separator (configures : entry.Configures environment query) :
    query.separator = entry.separator := by
  rw [query.separator_eq, configures.dottedKeys]
  rfl

theorem asked (configures : entry.Configures environment query) (resource : Resource) :
    query.asked resource = entry.asks environment resource := by
  rw [Query.asked, asks, configures.attributeNames]
  cases entry.attributeNames.getD [] with
  | nil => rfl
  | cons first rest => rfl

theorem keyPrefix (configures : entry.Configures environment query) (resource : Resource) :
    query.keyPrefix resource.className resource.name.domain = entry.keyStart resource := by
  rw [Query.keyPrefix, configures.resultAlias, configures.domainAsKey, configures.dottedKeys]
  rfl

theorem fragment (configures : entry.Configures environment query) (resource : Resource) :
    query.naming.fragment resource.name.properties none =
      entry.separator.intercalate (entry.propertyParts resource) := by
  have lookups : resource.name.properties.get? =
      fun key => resource.name.properties.entries.lookup key :=
    funext resource.name.properties.get?_eq_lookup
  cases all : entry.allTypeNames with
  | true =>
    rw [Query.fragment_of_all (configures.allTypeNames.trans all), configures.separator,
      propertyParts, if_pos all]
    rfl
  | false =>
    rw [Query.fragment_of_listed (configures.allTypeNames.trans all), configures.separator,
      propertyParts, if_neg (by simp [all]), configures.typeNames, lookups]

end Configures

end QueryEntry

namespace CommandLine

/-- A query to run on a server, the entry that it comes from, and the levels at which its writers
write. -/
structure Job where
  endpoint : Endpoint
  entry : QueryEntry
  query : Query
  levels : List LogLevel

namespace Job

/-- The line that a writer makes of one attribute of a resource. -/
def line (job : Job) (level : LogLevel) (resource : Resource) (wanted : String) (value : Value) :
    Event :=
  .logged ⟨level, .logSink, "[" ++ job.endpoint.label ++ "] " ++ job.entry.key resource wanted ++
    " = " ++ value.display⟩

/-- The lines that a writer makes of one resource: one for each attribute that is wanted and there. -/
def linesOf (environment : Environment) (job : Job) (level : LogLevel) (resource : Resource) :
    List Event :=
  (job.entry.asks environment resource).filterMap fun wanted =>
    (resource.value? wanted).map (job.line level resource wanted)

/-- All lines of the job: writer by writer, of each covered resource in turn. -/
def lines (environment : Environment) (resources : List Resource) (job : Job) : List Event :=
  job.levels.flatMap fun level =>
    (resources.filter fun resource => job.query.pattern.covers resource.name).flatMap
      (job.linesOf environment level)

/-- The samples that the query of a job makes of a resource are written as the lines of the job. -/
theorem map_block {environment : Environment} {job : Job}
    (configures : job.entry.Configures environment job.query) (time : ResourceName → Nat)
    (level : LogLevel) (resource : Resource) :
    ((job.query.block ⟨time, Reading.samples⟩ resource.name resource).map fun sample =>
        Event.logged ⟨level, .logSink, "[" ++ job.endpoint.label ++ "] " ++
          sample.key job.query.separator ++ " = " ++ sample.value.display⟩) =
      job.linesOf environment level resource := by
  have written (wanted : String) (value : Value) :
      Sample.key ⟨wanted, resource.className, resource.name.domain,
          resource.name.properties.written,
          job.query.keyPrefix resource.className resource.name.domain,
          job.query.naming.fragment resource.name.properties none, [], value, time resource.name⟩
          job.query.separator =
        job.entry.key resource wanted := by
    rw [Sample.key, Sample.keyParts, configures.keyPrefix, configures.fragment,
      configures.separator, QueryEntry.key]
    split <;> rfl
  rw [Query.block, configures.asked, linesOf]
  split
  · rename_i none
    rw [none]
    rfl
  · simp only [MemoryServer.Resource.select_eq_firsts, Reading.samples, Resource.firsts,
      List.map_filterMap]
    refine List.filterMap_congr fun wanted _ => ?_
    cases resource.value? wanted with
    | none => rfl
    | some value =>
      simp only [Option.map_some, written]
      rfl

end Job

end CommandLine

end MetricQuery
