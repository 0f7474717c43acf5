import MetricQuery.Value

namespace MetricQuery

/-- One value read from one attribute of one resource, with the parts of its key. -/
structure Sample where
  attributeName : String
  className : String
  domain : String
  typeName : String
  keyPrefix : String
  keyFragment : String
  valuePath : List String
  value : Value
  epochMillis : Nat

namespace Sample

/-- The parts of the key in order. An empty fragment is left out. -/
def keyParts (sample : Sample) : List String :=
  sample.keyPrefix ::
    ((if sample.keyFragment = "" then [] else [sample.keyFragment]) ++
      sample.attributeName :: sample.valuePath)

def key (sample : Sample) (separator : String) : String :=
  separator.intercalate sample.keyParts

def toJson (sample : Sample) : Json :=
  .object [("attributeName", .text sample.attributeName), ("className", .text sample.className),
    ("domain", .text sample.domain), ("typeName", .text sample.typeName),
    ("keyPrefix", .text sample.keyPrefix), ("keyFragment", .text sample.keyFragment),
    ("valuePath", .texts sample.valuePath), ("value", sample.value.toJson),
    ("epochMillis", .integer sample.epochMillis)]

end Sample

end MetricQuery
