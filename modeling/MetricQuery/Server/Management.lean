import MetricQuery.Name.Resource
import MetricQuery.Server.Failure
import MetricQuery.Value

namespace MetricQuery

/-- What queries ask of a management server. Only the fetching of values changes its state. -/
class Management (σ : Type) where
  names : σ → NamePattern → Except ServerFailure (List ResourceName)
  attributeNames : σ → ResourceName → Except ServerFailure (List String)
  className : σ → ResourceName → Except ServerFailure String
  domain : σ → ResourceName → Except ServerFailure String
  attributeValues : σ → ResourceName → List String → σ × Except ServerFailure (List Attribute)

end MetricQuery
