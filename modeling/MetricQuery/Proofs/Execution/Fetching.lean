import MetricQuery.Proofs.Execution.Accounting

namespace MetricQuery

namespace Resource

/-- The first attribute of that name has the value. -/
def FirstValue (resource : Resource) (wanted : String) (value : Value) : Prop :=
  ∃ before after, resource.attributes = before ++ ⟨wanted, value⟩ :: after ∧
    ∀ earlier ∈ before, earlier.name ≠ wanted

/-- Those of the names that the resource has an attribute for, as often as they are listed. -/
def held (resource : Resource) (names : List String) : List String :=
  names.filter fun wanted => wanted ∈ resource.attributes.map (·.name)

end Resource

/-- The sample holds the value of an attribute of the resource, under the name by which the resource
was asked. -/
structure Sample.Reads (sample : Sample) (name : ResourceName) (resource : Resource)
    (wanted : String) : Prop where
  attributeName : sample.attributeName = wanted
  value : resource.FirstValue wanted sample.value
  className : sample.className = resource.className
  domain : sample.domain = name.domain
  typeName : sample.typeName = name.properties.written

namespace Query

variable {server : MemoryServer} {name : ResourceName} {resource : Resource}

end Query

end MetricQuery
