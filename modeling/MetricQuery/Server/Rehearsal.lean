import MetricQuery.Server.Memory

namespace MetricQuery

/-- The calls by which a server describes a resource. -/
inductive Description where
  | className
  | attributeNames
  | domain
deriving DecidableEq, Repr

/-- A server in memory on which the descriptions of single resources can be made to fail, and
their domains be replaced. Of several entries for a resource the first counts. -/
structure Rehearsal where
  server : MemoryServer := {}
  failures : List (Description × ResourceName × ServerFailure) := []
  domains : List (ResourceName × String) := []

namespace Rehearsal

def onServer (rehearsal : Rehearsal) (change : MemoryServer → MemoryServer) : Rehearsal :=
  { rehearsal with server := change rehearsal.server }

def failDescription (rehearsal : Rehearsal) (call : Description) (name : ResourceName)
    (failure : ServerFailure) : Rehearsal :=
  { rehearsal with failures := rehearsal.failures ++ [(call, name, failure)] }

def setDomain (rehearsal : Rehearsal) (name : ResourceName) (domain : String) : Rehearsal :=
  { rehearsal with domains := rehearsal.domains ++ [(name, domain)] }

def clearDescriptions (rehearsal : Rehearsal) : Rehearsal :=
  { rehearsal with failures := [], domains := [] }

def failure? (rehearsal : Rehearsal) (call : Description) (name : ResourceName) :
    Option ServerFailure :=
  rehearsal.failures.findSome? fun (failing, other, failure) =>
    if failing = call && other == name then some failure else none

def describe {α : Type} (rehearsal : Rehearsal) (call : Description) (name : ResourceName)
    (answer : MemoryServer → ResourceName → Except ServerFailure α) : Except ServerFailure α :=
  match rehearsal.failure? call name with
  | some failure => .error failure
  | none => answer rehearsal.server name

def domain (rehearsal : Rehearsal) (name : ResourceName) : Except ServerFailure String :=
  rehearsal.describe .domain name fun server name =>
    match rehearsal.domains.find? fun (other, _) => other == name with
    | some (_, domain) => .ok domain
    | none => Management.domain server name

instance : Management Rehearsal where
  names rehearsal pattern := rehearsal.server.names pattern
  attributeNames rehearsal name := rehearsal.describe .attributeNames name Management.attributeNames
  className rehearsal name := rehearsal.describe .className name Management.className
  domain := domain
  attributeValues rehearsal name names :=
    let (server, answer) := rehearsal.server.attributeValues name names
    ({ rehearsal with server }, answer)

end Rehearsal

end MetricQuery
