import Mathlib.Data.List.Basic
import MetricQuery.Proofs.Execution.Outcome
import MetricQuery.Proofs.Server.Refinement

namespace MetricQuery

namespace MemoryServer

/-- The registered resources that a pattern covers, in the order of their registration. -/
def matched (server : MemoryServer) (pattern : NamePattern) : List Resource :=
  server.resources.filter fun resource => pattern.covers resource.name

theorem names_eq_matched {server : MemoryServer} (healthy : server.discoveryFailure = none)
    (pattern : NamePattern) :
    server.names pattern = .ok ((server.matched pattern).map Resource.name) := by
  rw [names, healthy, matched, List.filter_map]
  rfl

theorem Represents.find?_registered {server : MemoryServer} {directory : Directory}
    (represents : server.Represents directory) {resource : Resource}
    (registered : resource ∈ server.resources) : server.find? resource.name = some resource := by
  rw [represents.find?]
  exact represents.resources.value resource registered

end MemoryServer

namespace Query

variable {server : MemoryServer}

theorem discover_eq_error (query : Query) {failure : ServerFailure}
    (injected : server.discoveryFailure = some failure) :
    query.discover server = .error (.discovery query.pattern.display failure) := by
  have names : Management.names server query.pattern = .error failure := by
    simp only [Management.names, MemoryServer.names, injected]
  rw [discover, names]
  rfl

theorem discover_eq_ok (query : Query) (healthy : server.discoveryFailure = none) :
    query.discover server = .ok ((server.matched query.pattern).map Resource.name) := by
  have names : Management.names server query.pattern =
      .ok ((server.matched query.pattern).map Resource.name) :=
    MemoryServer.names_eq_matched healthy query.pattern
  rw [discover, names]
  rfl

/-- How many of the matched resources are asked for anything. -/
def fetchCount (query : Query) (server : MemoryServer) : Nat :=
  (server.matched query.pattern).countP fun resource => query.asked resource ≠ []

/-- The outcomes of the matched resources put together, samples apart from errors. -/
def account (sampling : Sampling) (query : Query) (server : MemoryServer) : Execution where
  resources := (server.matched query.pattern).map Resource.name
  samples :=
    (query.outcomes sampling server (server.matched query.pattern)).flatMap Outcome.samples
  failures :=
    (query.outcomes sampling server (server.matched query.pattern)).filterMap Outcome.error?

theorem execute_of_injected (sampling : Sampling) (query : Query) {failure : ServerFailure}
    (injected : server.discoveryFailure = some failure) :
    query.execute sampling server =
      (server, .fail (.discovery query.pattern.display failure)) := by
  rw [execute, query.discover_eq_error injected]

theorem execute_of_discover {σ : Type} [Management σ] (sampling : Sampling) (query : Query)
    {server : σ} {names : List ResourceName} (found : query.discover server = .ok names) :
    (query.execute sampling server).1 = (query.fetchAll sampling names server).1 ∧
      (query.execute sampling server).2.result =
        .ok ⟨names, (query.fetchAll sampling names server).2.2.1,
          (query.fetchAll sampling names server).2.2.2⟩ := by
  rw [execute, found]
  exact ⟨rfl, rfl⟩

theorem execute_of_healthy (sampling : Sampling) (query : Query) {directory : Directory}
    (represents : server.Represents directory) (healthy : server.discoveryFailure = none) :
    (query.execute sampling server).1 = server.afterFetches (query.fetchCount server) ∧
      (query.execute sampling server).2.result = .ok (query.account sampling server) := by
  have registered : ∀ resource ∈ server.matched query.pattern,
      server.find? resource.name = some resource := by
    intro resource member
    exact represents.find?_registered (List.mem_filter.1 member).1
  obtain ⟨final, gathered⟩ :=
    query.fetchAll_registered sampling server (server.matched query.pattern) registered
  obtain ⟨next, result⟩ := query.execute_of_discover sampling (query.discover_eq_ok healthy)
  rw [gathered] at result
  exact ⟨next.trans final, result⟩

/-- The account of some resources, the outcome of one of them being given. -/
def accountWith (sampling : Sampling) (query : Query) (server : MemoryServer)
    (before : List Resource) (resource : Resource) (own : Outcome) (after : List Resource) :
    Execution where
  resources := (before ++ resource :: after).map Resource.name
  samples :=
    (query.outcomes sampling server before).flatMap Outcome.samples ++ Outcome.samples own ++
      (query.outcomes sampling server after).flatMap Outcome.samples
  failures :=
    (query.outcomes sampling server before).filterMap Outcome.error? ++
      (Outcome.error? own).toList ++
      (query.outcomes sampling server after).filterMap Outcome.error?

theorem account_eq_accountWith (sampling : Sampling) (query : Query) {before after : List Resource}
    {resource : Resource}
    (split : server.matched query.pattern = before ++ resource :: after) :
    query.account sampling server =
      query.accountWith sampling server before resource
        (query.outcome sampling resource.name resource (server.injectedFailure? resource.name))
        after := by
  simp only [account, accountWith, outcomes, split, List.map_append, List.map_cons,
    List.flatMap_append, List.flatMap_cons, List.filterMap_append, Outcome.filterMap_error?_cons,
    List.append_assoc]

/-- A failure that is injected for one name changes nothing for the others. -/
theorem outcomes_failFetch (sampling : Sampling) (query : Query) {name : ResourceName}
    (failure : ServerFailure) {resources : List Resource}
    (apart : ∀ resource ∈ resources, (name == resource.name) = false) :
    query.outcomes sampling (server.failFetch name failure) resources =
      query.outcomes sampling server resources := by
  refine List.map_congr_left fun resource member => ?_
  rw [MemoryServer.injectedFailure?_failFetch, apart resource member]
  rfl

theorem accountWith_failFetch (sampling : Sampling) (query : Query) {name : ResourceName}
    (failure : ServerFailure) {before after : List Resource} {resource : Resource}
    (distinct : (before ++ resource :: after).Pairwise fun a b => (a.name == b.name) = false)
    (same : (resource.name == name) = true) (own : Outcome) :
    query.accountWith sampling (server.failFetch name failure) before resource own after =
      query.accountWith sampling server before resource own after := by
  obtain ⟨_, later, earlier⟩ := List.pairwise_append.1 distinct
  have apartBefore : ∀ other ∈ before, (name == other.name) = false := by
    intro other member
    rw [← BEq.congr_left same, BEq.comm]
    exact earlier other member resource List.mem_cons_self
  have apartAfter : ∀ other ∈ after, (name == other.name) = false := by
    intro other member
    rw [← BEq.congr_left same]
    exact (List.pairwise_cons.1 later).1 other member
  simp only [accountWith, query.outcomes_failFetch sampling failure apartBefore,
    query.outcomes_failFetch sampling failure apartAfter]

/-- The accounts before and after a failure is injected for one matched resource that had none. -/
theorem account_failFetch (sampling : Sampling) (query : Query) {directory : Directory}
    (represents : server.Represents directory) {name : ResourceName} (failure : ServerFailure)
    (clean : server.injectedFailure? name = none) {resource : Resource}
    (member : resource ∈ server.matched query.pattern) (same : (resource.name == name) = true) :
    ∃ before after, server.matched query.pattern = before ++ resource :: after ∧
      query.account sampling server =
        query.accountWith sampling server before resource
          (query.outcome sampling resource.name resource none) after ∧
      query.account sampling (server.failFetch name failure) =
        query.accountWith sampling server before resource
          (query.outcome sampling resource.name resource (some failure)) after := by
  obtain ⟨before, after, split⟩ := List.append_of_mem member
  have distinct : (before ++ resource :: after).Pairwise fun a b => (a.name == b.name) = false :=
    split ▸ represents.unequal.filter _
  have cleanHere : server.injectedFailure? resource.name = none := by
    rw [represents.fetchFailure, ResourceName.identity_eq_iff.2 same, ← represents.fetchFailure,
      clean]
  have failedHere : (server.failFetch name failure).injectedFailure? resource.name =
      some failure := by
    rw [MemoryServer.injectedFailure?_failFetch, if_pos (BEq.symm same)]
  have failedSplit : (server.failFetch name failure).matched query.pattern =
      before ++ resource :: after := split
  refine ⟨before, after, split, ?_, ?_⟩
  · rw [query.account_eq_accountWith sampling split, cleanHere]
  · rw [query.account_eq_accountWith sampling failedSplit, failedHere,
      query.accountWith_failFetch sampling failure distinct same]

end Query

/-- An execution accounts for every matched resource: with its samples or with one error, in the
order of registration. Only a failed discovery fails as a whole. A failure injected for one matched
resource changes the outcome of this resource and of no other. -/
theorem execute_accounts_for_resources {server : MemoryServer} (reachable : server.Reachable)
    (sampling : Sampling) (query : Query) :
    (∀ failure, server.discoveryFailure = some failure →
      (query.execute sampling server).1 = server ∧
        (query.execute sampling server).2.result =
          .error (.discovery query.pattern.display failure)) ∧
      (server.discoveryFailure = none →
        (∀ resource ∈ server.matched query.pattern,
          (query.fetch sampling resource.name server).2.result =
            query.outcome sampling resource.name resource
              (server.injectedFailure? resource.name)) ∧
        (query.execute sampling server).1 = server.afterFetches (query.fetchCount server) ∧
        (query.execute sampling server).2.result = .ok (query.account sampling server) ∧
        ∀ name failure, server.injectedFailure? name = none →
          ∀ resource ∈ server.matched query.pattern, (resource.name == name) = true →
            (query.execute sampling (server.failFetch name failure)).1 =
                (server.failFetch name failure).afterFetches (query.fetchCount server) ∧
              ∃ before after, server.matched query.pattern = before ++ resource :: after ∧
                (query.execute sampling server).2.result =
                  .ok (query.accountWith sampling server before resource
                    (query.outcome sampling resource.name resource none) after) ∧
                (query.execute sampling (server.failFetch name failure)).2.result =
                  .ok (query.accountWith sampling server before resource
                    (query.outcome sampling resource.name resource (some failure)) after)) := by
  obtain ⟨directory, represents⟩ := reachable.represents
  constructor
  · intro failure injected
    rw [query.execute_of_injected sampling injected]
    exact ⟨rfl, rfl⟩
  intro healthy
  obtain ⟨next, result⟩ := query.execute_of_healthy sampling represents healthy
  refine ⟨?_, next, result, ?_⟩
  · intro resource member
    have registered := represents.find?_registered (List.mem_filter.1 member).1
    exact (query.fetch_registered sampling registered).2
  · intro name failure clean resource member same
    -- injecting a failure touches neither the resources nor the discovery
    obtain ⟨failedNext, failedResult⟩ :=
      query.execute_of_healthy sampling (represents.failFetch name failure) healthy
    obtain ⟨before, after, split, account, failedAccount⟩ :=
      query.account_failFetch sampling represents failure clean member same
    refine ⟨failedNext, before, after, split, ?_, ?_⟩
    · rw [result, account]
    · rw [failedResult, failedAccount]

/-- One of two resources fails, by a failure that was injected under another order of its name; then
the other one fails as well. -/
theorem execute_accounts_for_resources_of_failing :
    ∃ server : MemoryServer, server.Reachable ∧ server.discoveryFailure = none ∧
      (Query.execute ⟨fun _ => 0, Reading.samples⟩
          ⟨⟨"d", ⟨[("a", "?")]⟩, true⟩, [], [], [], none, false, false, false, [], []⟩
          server).2.result =
        .ok ⟨[⟨"d", ⟨[("a", "1"), ("b", "x")]⟩⟩, ⟨"d", ⟨[("a", "2")]⟩⟩],
          [⟨"n", "B", "d", "a=2", "B", "", [], .integer 2, 0⟩],
          [.fetch "d:a=?,*" "d:a=1,b=x" ["n"] (.io "down")]⟩ ∧
      (Query.execute ⟨fun _ => 0, Reading.samples⟩
          ⟨⟨"d", ⟨[("a", "?")]⟩, true⟩, [], [], [], none, false, false, false, [], []⟩
          (server.failFetch ⟨"d", ⟨[("a", "2")]⟩⟩ (.io "busy"))).1.fetchCalls = 2 := by
  have reachable : MemoryServer.Reachable
      ⟨[⟨⟨"d", ⟨[("a", "1"), ("b", "x")]⟩⟩, "A", [⟨"n", .integer 1⟩]⟩,
          ⟨⟨"d", ⟨[("a", "2")]⟩⟩, "B", [⟨"n", .integer 2⟩]⟩],
        [(⟨"d", ⟨[("b", "x"), ("a", "1")]⟩⟩, .io "down")], none, 0⟩ :=
    ⟨{}, [.register "d:a=1,b=x" "A" [⟨"n", .integer 1⟩], .register "d:a=2" "B" [⟨"n", .integer 2⟩],
      .failFetch ⟨"d", ⟨[("b", "x"), ("a", "1")]⟩⟩ (.io "down")], .new, by cbv⟩
  obtain ⟨_, _, accounted, injected⟩ := (execute_accounts_for_resources reachable
    ⟨fun _ => 0, Reading.samples⟩ ⟨⟨"d", ⟨[("a", "?")]⟩, true⟩, [], [], [], none, false, false, false, [], []⟩).2 rfl
  obtain ⟨next, _⟩ := injected ⟨"d", ⟨[("a", "2")]⟩⟩ (.io "busy") (by cbv)
    ⟨⟨"d", ⟨[("a", "2")]⟩⟩, "B", [⟨"n", .integer 2⟩]⟩ (List.mem_filter.2 ⟨by simp, by cbv⟩) (by cbv)
  refine ⟨_, reachable, rfl, accounted.trans ?_, (congrArg MemoryServer.fetchCalls next).trans ?_⟩
  · cbv
  · cbv

end MetricQuery
