import MetricQuery.Name.Error
import MetricQuery.Name.Glob
import MetricQuery.Name.Properties
import MetricQuery.Name.Quoting
import MetricQuery.Text.Split

namespace MetricQuery

/-- A name that may stand for many resources. Its domain and values may hold wildcards, and an
open-ended pattern also covers resources with further properties. -/
structure NamePattern where
  domain : String
  properties : Properties
  openEnded : Bool
deriving Repr

def checkKey (key : List Char) : Except NameFlaw Unit :=
  if key.isEmpty then .error .emptyKey
  else if key.any fun c => c = ':' || c = '*' || c = '?' || c = '"' || c = '\n' then
    .error (.illegalKey (String.ofList key))
  else .ok ()

/-- A value that opens with a quote only has to end with another one; any other value is plain. -/
def checkValue (key value : List Char) : Except NameFlaw Unit :=
  if value.isEmpty then .error (.emptyValue (String.ofList key))
  else if value.head? = some '"' then
    if value.length < 2 || value.getLast? != some '"' then
      .error (.badlyQuoted (String.ofList key))
    else .ok ()
  else if value.any fun c => c = ':' || c = '"' || c = '=' || c = '\n' then
    .error (.illegalValue (String.ofList key))
  else .ok ()

/-- The properties read so far, and whether the bare star has been met. -/
structure EntriesRead where
  properties : Properties
  star : Bool

def readProperty (read : EntriesRead) (entry : List Char) : Except NameFlaw EntriesRead :=
  match splitFirst '=' entry with
  | none => .error (.notKeyValue (String.ofList entry))
  | some (key, value) => do
    checkKey key
    checkValue key value
    if read.properties.contains (String.ofList key) then
      .error (.duplicateKey (String.ofList key))
    else
      .ok { read with
        properties := read.properties.insert (String.ofList key) (String.ofList value) }

def readEntry (read : EntriesRead) (entry : List Char) : Except NameFlaw EntriesRead :=
  if entry = ['*'] then
    if read.star then .error .repeatedStar else .ok { read with star := true }
  else readProperty read entry

def readEntries (read : EntriesRead) : List (List Char) → Except NameFlaw EntriesRead
  | [] => .ok read
  | entry :: rest => do
    let next ← readEntry read entry
    readEntries next rest

namespace NamePattern

def ofChars (text : List Char) : Except NameFlaw NamePattern :=
  match splitFirst ':' text with
  | none => .error .missingColon
  | some (domain, list) =>
    if domain.contains '\n' then .error .newlineInDomain
    else if list.isEmpty then .error .noProperties
    else
      match splitEntries list with
      | none => .error .unterminatedQuote
      | some entries => do
        let read ← readEntries ⟨.empty, false⟩ entries
        if read.properties.size = 0 && !read.star then .error .noProperties
        else .ok ⟨String.ofList domain, read.properties, read.star⟩

def parse (text : String) : Except NameError NamePattern :=
  match ofChars text.toList with
  | .error flaw => .error ⟨text, flaw⟩
  | .ok pattern => .ok pattern

/-- A name from its domain, the text of its properties and the mark of an open end. -/
def assemble (domain properties : String) (openEnded : Bool) : String :=
  match properties == "", openEnded with
  | true, true => domain ++ ":*"
  | false, true => domain ++ ":" ++ properties ++ ",*"
  | _, false => domain ++ ":" ++ properties

/-- The pattern as text, with its properties as they were written. -/
def display (pattern : NamePattern) : String :=
  assemble pattern.domain pattern.properties.written pattern.openEnded

/-- The pattern as text, with its properties sorted by key. -/
def canonical (pattern : NamePattern) : String :=
  assemble pattern.domain pattern.properties.canonical pattern.openEnded

/-- Whether wildcards or an open end let the pattern stand for more than one resource. -/
def isWild (pattern : NamePattern) : Bool :=
  pattern.openEnded || hasWildcard pattern.domain.toList ||
    pattern.properties.entries.any fun (_, value) => hasWildcard value.toList

instance : BEq NamePattern where
  beq a b := a.domain == b.domain && a.openEnded == b.openEnded && a.properties == b.properties

def hashInput (pattern : NamePattern) : List HashInput :=
  .text pattern.domain :: .flag pattern.openEnded :: pattern.properties.hashInput

instance : Hashable NamePattern where
  hash pattern := hash pattern.hashInput

end NamePattern

end MetricQuery
