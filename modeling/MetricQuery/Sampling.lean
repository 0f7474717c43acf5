import MetricQuery.Name.Resource
import MetricQuery.Query
import MetricQuery.Sample

namespace MetricQuery

/-- What has been fetched from one resource at one time. -/
structure Reading where
  resource : ResourceName
  className : String
  domain : String
  attributes : List Attribute
  epochMillis : Nat

/-- One sample for each attribute, in order. -/
def Reading.samples (query : Query) (reading : Reading) : List Sample :=
  reading.attributes.map fun one => {
    attributeName := one.name
    className := reading.className
    domain := reading.domain
    typeName := reading.resource.properties.written
    keyPrefix := query.keyPrefix reading.className reading.domain
    keyFragment := query.naming.fragment reading.resource.properties none
    valuePath := []
    value := one.value
    epochMillis := reading.epochMillis }

/-- How readings become samples, and the times that they are stamped with: the clock is read anew for
each resource that is asked. -/
structure Sampling where
  time : ResourceName → Nat
  samples : Query → Reading → List Sample := Reading.samples

/-- The same samples, with a path below each value. -/
def Sampling.below (path : List String) (sampling : Sampling) : Sampling :=
  { sampling with
    samples := fun query reading => (sampling.samples query reading).map fun sample =>
      { sample with valuePath := sample.valuePath ++ path } }

end MetricQuery
