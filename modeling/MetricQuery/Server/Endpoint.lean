namespace MetricQuery

/-- The server that a batch of samples comes from. -/
structure Endpoint where
  host : String
  port : Nat
  displayName : Option String
deriving DecidableEq, Repr, Hashable

/-- The display name if there is one, even an empty one, and else the address. -/
def Endpoint.label (endpoint : Endpoint) : String :=
  match endpoint.displayName with
  | some name => name
  | none => endpoint.host ++ ":" ++ toString endpoint.port

end MetricQuery
