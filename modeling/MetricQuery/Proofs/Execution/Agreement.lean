import Mathlib.Data.List.Forall2
import MetricQuery.Proofs.Execution.Accounting
import MetricQuery.Proofs.Query.Equality

namespace MetricQuery

/-- Samples that differ at most in their keys and in the time of reading. -/
structure Sample.SameData (a b : Sample) : Prop where
  attributeName : a.attributeName = b.attributeName
  className : a.className = b.className
  domain : a.domain = b.domain
  typeName : a.typeName = b.typeName
  valuePath : a.valuePath = b.valuePath
  value : a.value = b.value

/-- Failures of fetches that differ at most in how the pattern of the query is written. -/
inductive QueryError.SameFetch : QueryError → QueryError → Prop
  | fetch (written other resource : String) (requested : List String) (cause : ServerFailure) :
      SameFetch (.fetch written resource requested cause) (.fetch other resource requested cause)

/-- What one resource brings to two executions. -/
inductive Outcome.Agrees : Outcome → Outcome → Prop
  | ok {a b : List Sample} : List.Forall₂ Sample.SameData a b → Agrees (.ok a) (.ok b)
  | error {a b : QueryError} : QueryError.SameFetch a b → Agrees (.error a) (.error b)

structure Execution.SameData (a b : Execution) : Prop where
  resources : a.resources = b.resources
  samples : List.Forall₂ Sample.SameData a.samples b.samples
  failures : List.Forall₂ QueryError.SameFetch a.failures b.failures

/-- Two executions find the same resources and bring the same data of each of them, or neither finds
any, and for the same reason. -/
inductive Execution.Agrees : Except QueryError Execution → Except QueryError Execution → Prop
  | executed {a b : Execution} : a.SameData b → Agrees (.ok a) (.ok b)
  | undiscovered (written other : String) (cause : ServerFailure) :
      Agrees (.error (.discovery written cause)) (.error (.discovery other cause))

namespace Outcome.Agrees

variable {a b : Outcome}

theorem samples (agrees : Outcome.Agrees a b) :
    List.Forall₂ Sample.SameData (Outcome.samples a) (Outcome.samples b) := by
  cases agrees with
  | ok same => exact same
  | error => exact .nil

theorem error? (agrees : Outcome.Agrees a b) :
    Option.Rel QueryError.SameFetch (Outcome.error? a) (Outcome.error? b) := by
  cases agrees with
  | ok => exact .none
  | error same => exact .some same

end Outcome.Agrees

/-- The written order of the properties of a pattern has no say in what it covers. -/
theorem NamePattern.covers_eq_of_beq {a b : NamePattern} (equal : (a == b) = true)
    (name : ResourceName) : a.covers name = b.covers name := by
  obtain ⟨domain, openEnded, perm⟩ := beq_iff.1 equal
  have size : a.properties.size = b.properties.size := perm.length_eq
  rw [covers, covers, domain, openEnded, size, perm.all_eq]

/-- No setting of a query and no clock has a say in the data that samples carry. -/
theorem Reading.samples_sameData (a b : Query) (reading : Reading) (time : Nat) :
    List.Forall₂ Sample.SameData (reading.samples a)
      (Reading.samples b { reading with epochMillis := time }) := by
  rw [samples, samples, List.forall₂_map_left_iff, List.forall₂_map_right_iff, List.forall₂_same]
  intro one _
  exact ⟨rfl, rfl, rfl, rfl, rfl, rfl⟩

namespace Query

variable {a b : Query}

theorem asked_eq_of_beq (equal : (a == b) = true) (resource : Resource) :
    a.asked resource = b.asked resource := by
  obtain ⟨_, _, attributes, _, _⟩ := beq_iff.1 equal
  rw [asked, asked, attributes]

/-- Equal queries bring the same of one resource, whether it answers or fails. -/
theorem outcome_agrees (equal : (a == b) = true) (time later : ResourceName → Nat)
    (name : ResourceName) (resource : Resource) (failure : Option ServerFailure) :
    Outcome.Agrees (a.outcome ⟨time, Reading.samples⟩ name resource failure)
      (b.outcome ⟨later, Reading.samples⟩ name resource failure) := by
  have asked := asked_eq_of_beq equal resource
  cases failure with
  | none =>
    refine .ok ?_
    rw [block, block, asked]
    split
    · exact .nil
    · exact Reading.samples_sameData a b _ (later name)
  | some failure =>
    rw [outcome, outcome, refusal?, refusal?, asked]
    by_cases passed : b.asked resource = [] ∨ failure.isBenign = true
    · rw [if_pos passed, if_pos passed]
      exact .ok .nil
    · rw [if_neg passed, if_neg passed]
      exact .error (.fetch ..)

theorem outcomes_agree (equal : (a == b) = true) (time later : ResourceName → Nat)
    (server : MemoryServer) (resources : List Resource) :
    List.Forall₂ Outcome.Agrees (a.outcomes ⟨time, Reading.samples⟩ server resources)
      (b.outcomes ⟨later, Reading.samples⟩ server resources) := by
  rw [outcomes, outcomes, List.forall₂_map_left_iff, List.forall₂_map_right_iff, List.forall₂_same]
  intro resource _
  exact outcome_agrees equal time later ..

theorem matched_eq_of_beq (equal : (a == b) = true) (server : MemoryServer) :
    server.matched a.pattern = server.matched b.pattern := by
  have patterns := (beq_iff.1 equal).1
  simp only [MemoryServer.matched, NamePattern.covers_eq_of_beq patterns]

theorem fetchCount_eq_of_beq (equal : (a == b) = true) (server : MemoryServer) :
    a.fetchCount server = b.fetchCount server := by
  simp only [fetchCount, matched_eq_of_beq equal, asked_eq_of_beq equal]

theorem account_sameData (equal : (a == b) = true) (time later : ResourceName → Nat)
    (server : MemoryServer) :
    (a.account ⟨time, Reading.samples⟩ server).SameData
      (b.account ⟨later, Reading.samples⟩ server) := by
  have matched := matched_eq_of_beq equal server
  have outcomes := outcomes_agree equal time later server (server.matched b.pattern)
  rw [account, account, matched]
  exact {
    resources := rfl
    samples := List.rel_flatMap outcomes fun _ _ agrees => agrees.samples
    failures := List.rel_filterMap (fun _ _ agrees => agrees.error?) outcomes }

end Query

/-- Equal queries bring the same data from a server, at whatever times they are executed, and leave
it with the same number of fetches; or none of them finds any resource, for the same reason. -/
theorem execute_agrees_of_beq {server : MemoryServer} (reachable : server.Reachable) {a b : Query}
    (equal : (a == b) = true) (time later : ResourceName → Nat) :
    Execution.Agrees (a.execute ⟨time, Reading.samples⟩ server).2.result
        (b.execute ⟨later, Reading.samples⟩ server).2.result ∧
      ∃ fetches, (a.execute ⟨time, Reading.samples⟩ server).1 = server.afterFetches fetches ∧
        (b.execute ⟨later, Reading.samples⟩ server).1 = server.afterFetches fetches := by
  obtain ⟨directory, represents⟩ := reachable.represents
  cases injected : server.discoveryFailure with
  | some failure =>
    rw [a.execute_of_injected _ injected, b.execute_of_injected _ injected]
    exact ⟨.undiscovered .., 0, rfl, rfl⟩
  | none =>
    obtain ⟨next, result⟩ := a.execute_of_healthy ⟨time, Reading.samples⟩ represents injected
    obtain ⟨nextOther, resultOther⟩ :=
      b.execute_of_healthy ⟨later, Reading.samples⟩ represents injected
    rw [next, nextOther, result, resultOther, Query.fetchCount_eq_of_beq equal]
    exact ⟨.executed (Query.account_sameData equal time later server), _, rfl, rfl⟩

/-- Two orders of one pattern with different settings of the keys, on a server where one of two
resources fails. -/
theorem execute_agrees_of_beq_of_reordered :
    ∃ (server : MemoryServer) (a b : Query), server.Reachable ∧
      a = ⟨⟨"d", ⟨[("a", "?"), ("b", "x")]⟩, false⟩, [], ["n"], ["a"], none, false, false, false,
        [.log .info], [.log .info]⟩ ∧
      b = ⟨⟨"d", ⟨[("b", "x"), ("a", "?")]⟩, false⟩, [], ["n"], [], none, true, true, true,
        [.recorder "r" none none], [.recorder "r" none]⟩ ∧
      (a == b) = true ∧
      (a.execute ⟨fun _ => 3, Reading.samples⟩ server).2.result =
        .ok ⟨[⟨"d", ⟨[("a", "1"), ("b", "x")]⟩⟩, ⟨"d", ⟨[("a", "2"), ("b", "x")]⟩⟩],
          [⟨"n", "A.B", "d", "a=1,b=x", "A_B", "1", [], .integer 1, 3⟩],
          [.fetch "d:a=?,b=x" "d:a=2,b=x" ["n"] (.io "down")]⟩ ∧
      (b.execute ⟨fun _ => 4, Reading.samples⟩ server).2.result =
        .ok ⟨[⟨"d", ⟨[("a", "1"), ("b", "x")]⟩⟩, ⟨"d", ⟨[("a", "2"), ("b", "x")]⟩⟩],
          [⟨"n", "A.B", "d", "a=1,b=x", "d", "a.1.b.x", [], .integer 1, 4⟩],
          [.fetch "d:b=x,a=?" "d:a=2,b=x" ["n"] (.io "down")]⟩ ∧
      Execution.Agrees (a.execute ⟨fun _ => 3, Reading.samples⟩ server).2.result
        (b.execute ⟨fun _ => 4, Reading.samples⟩ server).2.result := by
  have reachable : MemoryServer.Reachable
      ⟨[⟨⟨"d", ⟨[("a", "1"), ("b", "x")]⟩⟩, "A.B", [⟨"n", .integer 1⟩]⟩,
          ⟨⟨"d", ⟨[("a", "2"), ("b", "x")]⟩⟩, "C", []⟩],
        [(⟨"d", ⟨[("a", "2"), ("b", "x")]⟩⟩, .io "down")], none, 0⟩ :=
    ⟨{}, [.register "d:a=1,b=x" "A.B" [⟨"n", .integer 1⟩], .register "d:a=2,b=x" "C" [],
      .failFetch ⟨"d", ⟨[("a", "2"), ("b", "x")]⟩⟩ (.io "down")], .new, by cbv⟩
  have equal : ((⟨⟨"d", ⟨[("a", "?"), ("b", "x")]⟩, false⟩, [], ["n"], ["a"], none, false, false,
          false, [.log .info], [.log .info]⟩ : Query) ==
        ⟨⟨"d", ⟨[("b", "x"), ("a", "?")]⟩, false⟩, [], ["n"], [], none, true, true, true,
          [.recorder "r" none none], [.recorder "r" none]⟩) = true := by
    cbv
  obtain ⟨directory, represents⟩ := reachable.represents
  refine ⟨_, _, _, reachable, rfl, rfl, equal, ?_, ?_,
    (execute_agrees_of_beq reachable equal (fun _ => 3) fun _ => 4).1⟩
  · exact (Query.execute_of_healthy _ _ represents rfl).2.trans (by cbv)
  · exact (Query.execute_of_healthy _ _ represents rfl).2.trans (by cbv)

end MetricQuery
