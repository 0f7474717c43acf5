import Mathlib.Data.List.Find
import MetricQuery.Proofs.Name.Identity
import MetricQuery.Proofs.Server.Call
import MetricQuery.Proofs.Server.OrderedMap

namespace MetricQuery

namespace Resource

def identity (resource : Resource) : ResourceName.Identity := resource.name.identity

/-- The value of the first attribute of that name. -/
def value? (resource : Resource) (wanted : String) : Option Value :=
  (resource.attributes.map fun one => (one.name, one.value)).lookup wanted

/-- The attributes of those names that the resource has, each of them the first of its name. -/
def firsts (names : List String) (resource : Resource) : List Attribute :=
  names.filterMap fun wanted => (resource.value? wanted).map (Attribute.mk wanted)

end Resource

/-- What a server in memory stands for: a map from names, taken without the order of their
properties, to resources, and apart from it the failures that have been injected. -/
structure Directory where
  resources : OrderedMap ResourceName.Identity Resource
  fetchFailure : ResourceName.Identity → Option ServerFailure
  discoveryFailure : Option ServerFailure
  fetchCalls : Nat

namespace Directory

def empty : Directory := ⟨.empty, fun _ => none, none, 0⟩

def lookup {α : Type} (directory : Directory) (name : ResourceName) (view : Resource → α) :
    Except ServerFailure α :=
  match directory.resources.value name.identity with
  | some resource => .ok (view resource)
  | none => .error (.unknownResource name.display)

def names (directory : Directory) (pattern : NamePattern) :
    Except ServerFailure (List ResourceName) :=
  match directory.discoveryFailure with
  | some failure => .error failure
  | none => .ok ((directory.resources.items.map Resource.name).filter pattern.covers)

def attributeValues (directory : Directory) (name : ResourceName) (names : List String) :
    Except ServerFailure (List Attribute) :=
  match directory.fetchFailure name.identity with
  | some failure => .error failure
  | none => directory.lookup name (Resource.firsts names)

/-- Only the registration of a name that can be read and the removal of a resource touch the map. -/
def answer (directory : Directory) : ServerCall → Directory × ServerAnswer
  | .register text className attributes =>
    match ResourceName.parse text with
    | .error error => (directory, .registered (.error error))
    | .ok name =>
      ({ directory with
          resources := directory.resources.set name.identity ⟨name, className, attributes⟩ },
        .registered (.ok name))
  | .remove name =>
    ({ directory with resources := directory.resources.erase name.identity },
      .removed (directory.resources.value name.identity).isSome)
  | .failFetch name failure =>
    ({ directory with
        fetchFailure := Function.update directory.fetchFailure name.identity (some failure) }, .done)
  | .failDiscovery failure => ({ directory with discoveryFailure := some failure }, .done)
  | .clearFailures =>
    ({ directory with fetchFailure := fun _ => none, discoveryFailure := none }, .done)
  | .names pattern => (directory, .names (directory.names pattern))
  | .attributeNames name =>
    (directory, .texts (directory.lookup name fun resource => resource.attributes.map (·.name)))
  | .className name => (directory, .text (directory.lookup name Resource.className))
  | .attributeValues name names =>
    ({ directory with fetchCalls := directory.fetchCalls + 1 },
      .attributes (directory.attributeValues name names))

def answerAll (directory : Directory) : List ServerCall → Directory × List ServerAnswer
  | [] => (directory, [])
  | call :: rest =>
    let (next, first) := directory.answer call
    let (final, others) := next.answerAll rest
    (final, first :: others)

end Directory

namespace MemoryServer

/-- The server lists the resources of the directory in its order, and has its failures. -/
structure Represents (server : MemoryServer) (directory : Directory) : Prop where
  resources : directory.resources.Lists Resource.identity server.resources
  fetchFailure : ∀ name, server.injectedFailure? name = directory.fetchFailure name.identity
  discoveryFailure : server.discoveryFailure = directory.discoveryFailure
  fetchCalls : server.fetchCalls = directory.fetchCalls

theorem represents_empty : Represents {} .empty :=
  ⟨OrderedMap.lists_empty _, fun _ => rfl, rfl, rfl⟩

/-- The server selects the first attribute of each name. -/
theorem Resource.select_eq_firsts (names : List String) (resource : MetricQuery.Resource) :
    select names resource = resource.firsts names := by
  refine List.filterMap_congr fun wanted _ => ?_
  rw [MetricQuery.Resource.value?]
  induction resource.attributes with
  | nil => rfl
  | cons first rest ih =>
    rw [List.find?_cons, List.map_cons, List.lookup_cons, BEq.comm]
    cases same : wanted == first.name with
    | false => exact ih
    | true =>
      obtain rfl := eq_of_beq same
      rfl

theorem name_beq_eq (resource : Resource) (name : ResourceName) :
    (resource.name == name) = decide (resource.identity = name.identity) := by
  rw [Bool.eq_iff_iff, decide_eq_true_iff, Resource.identity, ResourceName.identity_eq_iff]

theorem place_cons (resource first : Resource) (rest : List Resource) :
    place resource (first :: rest) =
      if first.identity = resource.identity then resource :: rest
      else first :: place resource rest := by
  simp only [place, name_beq_eq, decide_eq_true_eq]
  rfl

theorem mem_place {resource other : Resource} {resources : List Resource}
    (distinct : (resources.map Resource.identity).Nodup)
    (member : other ∈ place resource resources) :
    other = resource ∨ other ∈ resources ∧ other.identity ≠ resource.identity := by
  induction resources with
  | nil => exact Or.inl (by simpa [place] using member)
  | cons first rest ih =>
    rw [List.map_cons, List.nodup_cons] at distinct
    rw [place_cons] at member
    split at member
    · rename_i same
      rcases List.mem_cons.1 member with here | later
      · exact Or.inl here
      · have apart : other.identity ≠ resource.identity := by
          intro equal
          have again := List.mem_map_of_mem (f := Resource.identity) later
          rw [equal, ← same] at again
          exact distinct.1 again
        exact Or.inr ⟨List.mem_cons_of_mem _ later, apart⟩
    · rename_i apart
      rcases List.mem_cons.1 member with rfl | later
      · exact Or.inr ⟨List.mem_cons_self, apart⟩
      · obtain here | ⟨held, apart⟩ := ih distinct.2 later
        · exact Or.inl here
        · exact Or.inr ⟨List.mem_cons_of_mem _ held, apart⟩

theorem map_identity_place (resource : Resource) (resources : List Resource) :
    (place resource resources).map Resource.identity =
      if resource.identity ∈ resources.map Resource.identity then
        resources.map Resource.identity
      else resources.map Resource.identity ++ [resource.identity] := by
  induction resources with
  | nil => rfl
  | cons first rest ih =>
    rw [place_cons]
    by_cases same : first.identity = resource.identity
    · simp [same]
    · have apart : resource.identity ≠ first.identity := Ne.symm same
      rw [if_neg same, List.map_cons, ih]
      simp only [List.map_cons, List.mem_cons, apart, false_or]
      split <;> rfl

end MemoryServer

namespace OrderedMap.Lists

variable {map : OrderedMap ResourceName.Identity Resource} {resources : List Resource}

theorem place (lists : map.Lists Resource.identity resources) (resource : Resource) :
    (map.set resource.identity resource).Lists Resource.identity
      (MemoryServer.place resource resources) where
  order := by
    rw [MemoryServer.map_identity_place, ← lists.order]
    rfl
  value := by
    intro other member
    rcases MemoryServer.mem_place lists.nodup member with rfl | ⟨held, apart⟩
    · exact Function.update_self ..
    · exact (Function.update_of_ne apart ..).trans (lists.value other held)

theorem remove (lists : map.Lists Resource.identity resources) (name : ResourceName) :
    (map.erase name.identity).Lists Resource.identity
      (resources.filter fun resource => !(resource.name == name)) where
  order := by
    have erased : (map.erase name.identity).order = map.order.filter (· != name.identity) :=
      map.distinct.erase_eq_filter name.identity
    rw [erased, lists.order, List.filter_map]
    refine congrArg _ (List.filter_congr fun resource _ => ?_)
    rw [MemoryServer.name_beq_eq]
    rfl
  value := by
    intro other member
    obtain ⟨held, apart⟩ := List.mem_filter.1 member
    rw [MemoryServer.name_beq_eq] at apart
    have apart : other.identity ≠ name.identity := by simpa using apart
    exact (Function.update_of_ne apart ..).trans (lists.value other held)

end OrderedMap.Lists

namespace MemoryServer

/-- An injected failure is found under every name that is equal to the one it was injected for. -/
theorem injectedFailure?_failFetch (server : MemoryServer) (name other : ResourceName)
    (failure : ServerFailure) :
    (server.failFetch name failure).injectedFailure? other =
      if (name == other) = true then some failure else server.injectedFailure? other := by
  have found : (server.failFetch name failure).fetchFailures.find? (fun entry => entry.1 == other) =
      if (name == other) = true then some (name, failure)
      else server.fetchFailures.find? fun entry => entry.1 == other := by
    rw [failFetch, List.find?_cons, List.find?_filter]
    split
    · rename_i same
      exact (if_pos same).symm
    · rename_i apart
      rw [if_neg (by simp [apart])]
      refine List.find?_congr fun entry _ => ?_
      rw [Bool.eq_iff_iff, decide_eq_true_iff, and_iff_right_iff_imp]
      intro equal
      rw [Bool.not_eq_true', Bool.eq_false_iff]
      intro first
      rw [BEq.trans (BEq.symm first) equal] at apart
      exact Bool.noConfusion apart
  have viewed : (server.failFetch name failure).injectedFailure? other =
      ((server.failFetch name failure).fetchFailures.find? fun entry => entry.1 == other).map
        Prod.snd := rfl
  rw [viewed, found]
  split
  · rfl
  · rfl

namespace Represents

variable {server : MemoryServer} {directory : Directory}

theorem find? (represents : server.Represents directory) (name : ResourceName) :
    server.find? name = directory.resources.value name.identity := by
  rw [represents.resources.value_eq_find?, MemoryServer.find?]
  simp only [name_beq_eq]

theorem lookup {α : Type} (represents : server.Represents directory) (name : ResourceName)
    (view : Resource → α) : server.lookup name view = directory.lookup name view := by
  cases found : directory.resources.value name.identity with
  | none => simp only [MemoryServer.lookup, Directory.lookup, represents.find?, found]
  | some resource => simp only [MemoryServer.lookup, Directory.lookup, represents.find?, found]

theorem names (represents : server.Represents directory) (pattern : NamePattern) :
    server.names pattern = directory.names pattern := by
  cases injected : directory.discoveryFailure with
  | none =>
    simp only [MemoryServer.names, Directory.names, represents.discoveryFailure, injected,
      represents.resources.items_eq]
  | some failure =>
    simp only [MemoryServer.names, Directory.names, represents.discoveryFailure, injected]

theorem removed (represents : server.Represents directory) (name : ResourceName) :
    (server.remove name).2 = (directory.resources.value name.identity).isSome := by
  rw [Bool.eq_iff_iff, ← directory.resources.mem_iff, represents.resources.order, MemoryServer.remove,
    bne_iff_ne, ne_eq, List.length_filter_eq_length_iff]
  simp [name_beq_eq]

theorem attributeValues (represents : server.Represents directory) (name : ResourceName)
    (names : List String) :
    (server.attributeValues name names).2 = directory.attributeValues name names := by
  cases injected : directory.fetchFailure name.identity with
  | none =>
    simp only [MemoryServer.attributeValues, Directory.attributeValues, represents.fetchFailure,
      injected, represents.lookup, funext (Resource.select_eq_firsts names)]
  | some failure =>
    simp only [MemoryServer.attributeValues, Directory.attributeValues, represents.fetchFailure,
      injected]

theorem failFetch (represents : server.Represents directory) (name : ResourceName)
    (failure : ServerFailure) :
    (server.failFetch name failure).Represents (directory.answer (.failFetch name failure)).1 where
  resources := represents.resources
  fetchFailure := by
    intro other
    rw [injectedFailure?_failFetch, represents.fetchFailure]
    simp only [Directory.answer, Function.update_apply, ResourceName.identity_eq_iff, BEq.comm]
  discoveryFailure := represents.discoveryFailure
  fetchCalls := represents.fetchCalls

/-- A call leaves the server with what it leaves the directory with, and has the same answer. -/
theorem answer (represents : server.Represents directory) (call : ServerCall) :
    (server.answer call).1.Represents (directory.answer call).1 ∧
      (server.answer call).2 = (directory.answer call).2 := by
  cases call with
  | register text className attributes =>
    simp only [MemoryServer.answer, Directory.answer, MemoryServer.register]
    cases ResourceName.parse text with
    | error error => exact ⟨represents, rfl⟩
    | ok name =>
      have placed := represents.resources.place ⟨name, className, attributes⟩
      exact ⟨{ represents with resources := placed }, rfl⟩
  | remove name =>
    have kept := represents.resources.remove name
    exact ⟨{ represents with resources := kept }, congrArg _ (represents.removed name)⟩
  | failFetch name failure => exact ⟨represents.failFetch name failure, rfl⟩
  | failDiscovery failure => exact ⟨{ represents with discoveryFailure := rfl }, rfl⟩
  | clearFailures =>
    exact ⟨{ represents with fetchFailure := fun _ => rfl, discoveryFailure := rfl }, rfl⟩
  | names pattern => exact ⟨represents, congrArg _ (represents.names pattern)⟩
  | attributeNames name => exact ⟨represents, congrArg _ (represents.lookup name _)⟩
  | className name => exact ⟨represents, congrArg _ (represents.lookup name _)⟩
  | attributeValues name names =>
    have counted := congrArg (· + 1) represents.fetchCalls
    exact ⟨{ represents with fetchCalls := counted },
      congrArg _ (represents.attributeValues name names)⟩

theorem answerAll (represents : server.Represents directory) (calls : List ServerCall) :
    (server.answerAll calls).1.Represents (directory.answerAll calls).1 ∧
      (server.answerAll calls).2 = (directory.answerAll calls).2 := by
  induction calls generalizing server directory with
  | nil => exact ⟨represents, rfl⟩
  | cons call rest ih =>
    obtain ⟨next, first⟩ := represents.answer call
    obtain ⟨final, others⟩ := ih next
    exact ⟨final, congrArg₂ List.cons first others⟩

/-- No two resources of the server have equal names. -/
theorem unequal (represents : server.Represents directory) :
    server.resources.Pairwise fun a b => (a.name == b.name) = false := by
  have distinct := List.pairwise_map.1 represents.resources.nodup
  refine distinct.imp fun apart => ?_
  rw [Bool.eq_false_iff]
  exact fun equal => apart (ResourceName.identity_eq_iff.2 equal)

end Represents

end MemoryServer

end MetricQuery
