namespace MetricQuery

/-- Why a returned value could not be decoded. -/
inductive DecodingCause where
  | unknownClass (name : String)
  | other (message : String)
deriving DecidableEq, Repr

def DecodingCause.message : DecodingCause → String
  | .unknownClass name => "class not found: " ++ name
  | .other message => message

/-- The failures that a management server reports. -/
inductive ServerFailure where
  | io (detail : String)
  | unknownResource (name : String)
  | introspection (detail : String)
  | reflection (detail : String)
  | decoding (detail : String) (cause : Option DecodingCause)
deriving DecidableEq, Repr

namespace ServerFailure

def message : ServerFailure → String
  | .io detail => "I/O failure: " ++ detail
  | .unknownResource name => "resource not found: " ++ name
  | .introspection detail => "introspection failed: " ++ detail
  | .reflection detail => "reflection failure: " ++ detail
  | .decoding detail _ => "unmarshalling failed: " ++ detail

/-- The messages of the causes below a failure. -/
def causes : ServerFailure → List String
  | .decoding _ (some cause) => [cause.message]
  | _ => []

/-- A value whose class is unknown here is passed over and is no failure of its resource. -/
def isBenign : ServerFailure → Bool
  | .decoding _ (some (.unknownClass _)) => true
  | _ => false

end ServerFailure

end MetricQuery
