import MetricQuery.Execution
import MetricQuery.Proofs.Server.Directory

namespace MetricQuery

/-- What one resource brings to an execution: a block of samples or an error. -/
abbrev Outcome := Except QueryError (List Sample)

namespace Outcome

def samples : Outcome → List Sample
  | .ok block => block
  | .error _ => []

def error? : Outcome → Option QueryError
  | .ok _ => none
  | .error error => some error

theorem filterMap_error?_cons (outcome : Outcome) (others : List Outcome) :
    (outcome :: others).filterMap error? = (error? outcome).toList ++ others.filterMap error? := by
  cases outcome <;> rfl

end Outcome

namespace Query

/-- The attributes that are asked of a resource: those of the query, or all if it names none. -/
def asked (query : Query) (resource : Resource) : List String :=
  if query.attributeNames.isEmpty then resource.attributes.map (·.name) else query.attributeNames

/-- The samples of a resource that answers, under the name by which it was asked. -/
def block (sampling : Sampling) (query : Query) (name : ResourceName) (resource : Resource) :
    List Sample :=
  if query.asked resource = [] then []
  else sampling.samples query
    ⟨name, resource.className, name.domain,
      MemoryServer.Resource.select (query.asked resource) resource, sampling.time name⟩

/-- The error that an injected failure leads to, if it is noticed at all. -/
def refusal? (query : Query) (name : ResourceName) (resource : Resource) (failure : ServerFailure) :
    Option QueryError :=
  if query.asked resource = [] ∨ failure.isBenign = true then none
  else some (query.fetchError name (query.asked resource) failure)

/-- What a registered resource brings, given the failure that has been injected for it. -/
def outcome (sampling : Sampling) (query : Query) (name : ResourceName) (resource : Resource) :
    Option ServerFailure → Outcome
  | none => .ok (query.block sampling name resource)
  | some failure =>
    match query.refusal? name resource failure with
    | none => .ok []
    | some error => .error error

end Query

namespace MemoryServer

/-- The server after some more fetches. -/
def afterFetches (server : MemoryServer) (count : Nat) : MemoryServer :=
  { server with fetchCalls := server.fetchCalls + count }

@[simp] theorem afterFetches_zero (server : MemoryServer) : server.afterFetches 0 = server := rfl

@[simp] theorem afterFetches_afterFetches (server : MemoryServer) (first second : Nat) :
    (server.afterFetches first).afterFetches second = server.afterFetches (first + second) := by
  simp [afterFetches, Nat.add_assoc]

theorem Represents.afterFetches {server : MemoryServer} {directory : Directory}
    (represents : server.Represents directory) (count : Nat) :
    (server.afterFetches count).Represents
      { directory with fetchCalls := directory.fetchCalls + count } :=
  { represents with fetchCalls := congrArg (· + count) represents.fetchCalls }

theorem lookup_of_find? {α : Type} {server : MemoryServer} {name : ResourceName}
    {resource : Resource} (found : server.find? name = some resource) (view : Resource → α) :
    server.lookup name view = .ok (view resource) := by
  rw [lookup, found]

end MemoryServer

namespace Query

variable {server : MemoryServer} {name : ResourceName} {resource : Resource}

theorem requested_eq (query : Query) (found : server.find? name = some resource) :
    query.requested server name = .ok (query.asked resource) := by
  have names : Management.attributeNames server name =
      .ok (resource.attributes.map (·.name)) := MemoryServer.lookup_of_find? found _
  rw [requested, names, asked]
  split <;> rfl

/-- A benign failure is passed over, any other one is reported with all that was asked. -/
theorem collect_error (sampling : Sampling) (query : Query) (name : ResourceName)
    (className : String) (names : List String) (server : MemoryServer) (failure : ServerFailure) :
    (query.collect sampling name className names server (.error failure)).result =
      if failure.isBenign = true then .ok [] else .error (query.fetchError name names failure) := by
  simp only [collect]
  split <;> rfl

theorem collect_ok (sampling : Sampling) (query : Query) (name : ResourceName)
    (className : String) (names : List String) (server : MemoryServer)
    (attributes : List Attribute) :
    (query.collect sampling name className names server (.ok attributes)).result =
      .ok (sampling.samples query ⟨name, className, name.domain, attributes,
        sampling.time name⟩) := rfl

/-- Asking a registered resource counts as one fetch unless there is nothing to ask. -/
theorem fetch_registered (sampling : Sampling) (query : Query)
    (found : server.find? name = some resource) :
    (query.fetch sampling name server).1 =
        server.afterFetches (if query.asked resource = [] then 0 else 1) ∧
      (query.fetch sampling name server).2.result =
        query.outcome sampling name resource (server.injectedFailure? name) := by
  have className : Management.className server name = .ok resource.className :=
    MemoryServer.lookup_of_find? found _
  simp only [fetch, className, query.requested_eq found]
  cases asked : query.asked resource with
  | nil =>
    refine ⟨by simp, ?_⟩
    cases server.injectedFailure? name with
    | none => simp only [outcome, block, asked, if_true]; rfl
    | some failure => simp only [outcome, refusal?, asked, true_or, if_true]; rfl
  | cons first rest =>
    refine ⟨rfl, ?_⟩
    cases injected : server.injectedFailure? name with
    | none =>
      have answer : (Management.attributeValues server name (first :: rest)).2 =
          .ok (MemoryServer.Resource.select (first :: rest) resource) := by
        simp only [Management.attributeValues, MemoryServer.attributeValues, injected,
          MemoryServer.lookup_of_find? found]
      simp only [answer, collect_ok, outcome, block, asked]
      rfl
    | some failure =>
      have answer : (Management.attributeValues server name (first :: rest)).2 = .error failure := by
        simp only [Management.attributeValues, MemoryServer.attributeValues, injected]
      simp only [answer, collect_error, outcome, refusal?, asked, reduceCtorEq, false_or]
      split <;> rfl

/-- One round of the loop: what the first resource brings comes before what the others bring. -/
theorem fetchAll_cons {σ : Type} [Management σ] (sampling : Sampling) (query : Query)
    (name : ResourceName) (rest : List ResourceName) (server : σ) :
    (query.fetchAll sampling (name :: rest) server).1 =
        (query.fetchAll sampling rest (query.fetch sampling name server).1).1 ∧
      (query.fetchAll sampling (name :: rest) server).2.2 =
        (Outcome.samples (query.fetch sampling name server).2.result ++
            (query.fetchAll sampling rest (query.fetch sampling name server).1).2.2.1,
          (Outcome.error? (query.fetch sampling name server).2.result).toList ++
            (query.fetchAll sampling rest (query.fetch sampling name server).1).2.2.2) := by
  rw [fetchAll]
  obtain ⟨next, events, result⟩ := query.fetch sampling name server
  cases result with
  | ok block => exact ⟨rfl, rfl⟩
  | error error => exact ⟨rfl, rfl⟩

/-- What the resources bring, each under its own name. -/
def outcomes (sampling : Sampling) (query : Query) (server : MemoryServer)
    (resources : List Resource) : List Outcome :=
  resources.map fun resource =>
    query.outcome sampling resource.name resource (server.injectedFailure? resource.name)

@[simp] theorem outcomes_afterFetches (sampling : Sampling) (query : Query) (server : MemoryServer)
    (count : Nat) (resources : List Resource) :
    query.outcomes sampling (server.afterFetches count) resources =
      query.outcomes sampling server resources := rfl

/-- The loop over registered resources keeps what each of them brings, in their order, and counts
those of which something is asked. -/
theorem fetchAll_registered (sampling : Sampling) (query : Query) (server : MemoryServer)
    (resources : List Resource)
    (registered : ∀ resource ∈ resources, server.find? resource.name = some resource) :
    (query.fetchAll sampling (resources.map Resource.name) server).1 =
        server.afterFetches (resources.countP fun resource => query.asked resource ≠ []) ∧
      (query.fetchAll sampling (resources.map Resource.name) server).2.2 =
        ((query.outcomes sampling server resources).flatMap Outcome.samples,
          (query.outcomes sampling server resources).filterMap Outcome.error?) := by
  induction resources generalizing server with
  | nil => exact ⟨rfl, rfl⟩
  | cons resource rest ih =>
    obtain ⟨found, others⟩ := List.forall_mem_cons.1 registered
    obtain ⟨next, fetched⟩ := query.fetch_registered sampling found
    obtain ⟨first, gathered⟩ :=
      query.fetchAll_cons sampling resource.name (rest.map Resource.name) server
    rw [next] at first gathered
    obtain ⟨final, later⟩ := ih (server.afterFetches (if query.asked resource = [] then 0 else 1))
      others
    constructor
    · rw [List.map_cons, first, final, MemoryServer.afterFetches_afterFetches, List.countP_cons,
        Nat.add_comm]
      simp
    · rw [List.map_cons, gathered, later, fetched, outcomes_afterFetches]
      simp only [outcomes, List.map_cons, List.flatMap_cons, Outcome.filterMap_error?_cons]

end Query

end MetricQuery
