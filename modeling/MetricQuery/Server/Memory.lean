import MetricQuery.Server.Management

namespace MetricQuery

structure Resource where
  name : ResourceName
  className : String
  attributes : List Attribute

/-- A management server that holds its resources in memory, in the order in which their names
were first registered. Failures can be injected into discovery and into single resources. -/
structure MemoryServer where
  resources : List Resource := []
  fetchFailures : List (ResourceName × ServerFailure) := []
  discoveryFailure : Option ServerFailure := none
  fetchCalls : Nat := 0

namespace MemoryServer

/-- A resource takes the place of the one with an equal name, or else the last place. -/
def place (resource : Resource) : List Resource → List Resource
  | [] => [resource]
  | first :: rest =>
    if first.name == resource.name then resource :: rest else first :: place resource rest

def register (server : MemoryServer) (name className : String) (attributes : List Attribute) :
    Except NameError (MemoryServer × ResourceName) := do
  let parsed ← ResourceName.parse name
  .ok ({ server with resources := place ⟨parsed, className, attributes⟩ server.resources }, parsed)

/-- Removes a resource, and tells whether there was one to remove. -/
def remove (server : MemoryServer) (name : ResourceName) : MemoryServer × Bool :=
  let kept := server.resources.filter fun resource => !(resource.name == name)
  ({ server with resources := kept }, kept.length != server.resources.length)

def failFetch (server : MemoryServer) (name : ResourceName) (failure : ServerFailure) :
    MemoryServer :=
  { server with
    fetchFailures :=
      (name, failure) :: server.fetchFailures.filter fun (other, _) => !(other == name) }

def failDiscovery (server : MemoryServer) (failure : ServerFailure) : MemoryServer :=
  { server with discoveryFailure := some failure }

def clearFailures (server : MemoryServer) : MemoryServer :=
  { server with fetchFailures := [], discoveryFailure := none }

def find? (server : MemoryServer) (name : ResourceName) : Option Resource :=
  server.resources.find? fun resource => resource.name == name

def lookup {α : Type} (server : MemoryServer) (name : ResourceName) (view : Resource → α) :
    Except ServerFailure α :=
  match server.find? name with
  | some resource => .ok (view resource)
  | none => .error (.unknownResource name.display)

def injectedFailure? (server : MemoryServer) (name : ResourceName) : Option ServerFailure :=
  (server.fetchFailures.find? fun (other, _) => other == name).map Prod.snd

def names (server : MemoryServer) (pattern : NamePattern) :
    Except ServerFailure (List ResourceName) :=
  match server.discoveryFailure with
  | some failure => .error failure
  | none => .ok ((server.resources.map Resource.name).filter pattern.covers)

/-- The attributes of a resource with the given names. A name that it lacks is left out. -/
def Resource.select (names : List String) (resource : Resource) : List Attribute :=
  names.filterMap fun name => resource.attributes.find? fun one => one.name == name

/-- Every call counts, whether it succeeds or not. -/
def attributeValues (server : MemoryServer) (name : ResourceName) (names : List String) :
    MemoryServer × Except ServerFailure (List Attribute) :=
  ({ server with fetchCalls := server.fetchCalls + 1 },
    match server.injectedFailure? name with
    | some failure => .error failure
    | none => server.lookup name (Resource.select names))

instance : Management MemoryServer where
  names := names
  attributeNames server name := server.lookup name fun resource => resource.attributes.map (·.name)
  className server name := server.lookup name Resource.className
  domain _ name := .ok name.domain
  attributeValues := attributeValues

end MemoryServer

end MetricQuery
