namespace MetricQuery

/-- What can be wrong with the text of a resource name. -/
inductive NameFlaw where
  | missingColon
  | newlineInDomain
  | noProperties
  | unterminatedQuote
  | repeatedStar
  | notKeyValue (entry : String)
  | emptyKey
  | illegalKey (key : String)
  | emptyValue (key : String)
  | badlyQuoted (key : String)
  | illegalValue (key : String)
  | duplicateKey (key : String)
  | wildcard
deriving DecidableEq, Repr

def NameFlaw.reason : NameFlaw → String
  | .missingColon => "missing `:` between domain and properties"
  | .newlineInDomain => "domain contains a newline"
  | .noProperties => "key property list is empty"
  | .unterminatedQuote => "unterminated quoted value"
  | .repeatedStar => "`*` appears more than once"
  | .notKeyValue entry => "`" ++ entry ++ "` is not key=value"
  | .emptyKey => "empty key"
  | .illegalKey key => "illegal character in key `" ++ key ++ "`"
  | .emptyValue key => "empty value for key `" ++ key ++ "`"
  | .badlyQuoted key => "badly quoted value for key `" ++ key ++ "`"
  | .illegalValue key => "illegal character in value for key `" ++ key ++ "`"
  | .duplicateKey key => "duplicate key `" ++ key ++ "`"
  | .wildcard => "a concrete resource name cannot contain wildcards"

/-- A rejected name, with the text exactly as it was given. -/
structure NameError where
  input : String
  flaw : NameFlaw
deriving DecidableEq, Repr

def NameError.message (error : NameError) : String :=
  "invalid resource name `" ++ error.input ++ "`: " ++ error.flaw.reason

end MetricQuery
