import MetricQuery.Proofs.Execution.Delivery

namespace MetricQuery

/-- What can happen on a server: calls of all kinds, and runs of queries. -/
inductive Activity where
  | call (call : ServerCall)
  | run (sampling : Sampling) (endpoint : Endpoint) (query : Query)

def Activity.query? : Activity → Option Query
  | .call _ => none
  | .run _ _ query => some query

/-- What activities leave: the server and the outlet afterwards, all events, and the results of the
runs. -/
structure Aftermath (ω : Type) where
  server : MemoryServer
  outlet : ω
  events : List Event
  results : List (Except QueryError Execution)

namespace MemoryServer

variable {ω : Type} [Outlet ω]

def perform (server : MemoryServer) (outlet : ω) : Activity → Aftermath ω
  | .call call => ⟨(server.answer call).1, outlet, [], []⟩
  | .run sampling endpoint query =>
    let (next, left, traced) := query.run sampling endpoint server outlet
    ⟨next, left, traced.events, [traced.result]⟩

def performAll (server : MemoryServer) (outlet : ω) : List Activity → Aftermath ω
  | [] => ⟨server, outlet, [], []⟩
  | activity :: rest =>
    let first := server.perform outlet activity
    let later := first.server.performAll first.outlet rest
    { later with events := first.events ++ later.events, results := first.results ++ later.results }

end MemoryServer

/-- What activities come to. The server is changed by calls and by executions alone, the outlet by
what has been handed over, and each run hands over what its own execution calls for. -/
inductive Unfolds {ω : Type} [Outlet ω] : MemoryServer → ω → List Activity → List Delivery →
    List (Except QueryError Execution) → MemoryServer → Prop
  | done (server : MemoryServer) (outlet : ω) : Unfolds server outlet [] [] [] server
  | call {server final : MemoryServer} {outlet : ω} {call : ServerCall} {rest : List Activity}
      {deliveries : List Delivery} {results : List (Except QueryError Execution)} :
      Unfolds (server.answer call).1 outlet rest deliveries results final →
      Unfolds server outlet (.call call :: rest) deliveries results final
  | run {server final : MemoryServer} {outlet : ω} {sampling : Sampling} {endpoint : Endpoint}
      {query : Query} {rest : List Activity} {own deliveries : List Delivery}
      {result : Except QueryError Execution} {results : List (Except QueryError Execution)} :
      query.Conveys endpoint outlet (query.execute sampling server).2.result own result →
      Unfolds (query.execute sampling server).1 (handOver outlet own).1 rest deliveries results
        final →
      Unfolds server outlet (.run sampling endpoint query :: rest) (own ++ deliveries)
        (result :: results) final

section Sequence

variable {ω : Type} [Outlet ω] {create : SinkFactory → Traced String Sink}

theorem Query.Conveys.sink_mem {query : Query} {endpoint : Endpoint} {outlet : ω}
    {executed result : Except QueryError Execution} {deliveries : List Delivery}
    (conveys : query.Conveys endpoint outlet executed deliveries result) :
    ∀ delivery ∈ deliveries, delivery.batch.query = query ∧ delivery.sink ∈ query.sinks := by
  intro delivery member
  cases conveys with
  | undiscovered => simp at member
  | accepted =>
    obtain ⟨held, same⟩ := Batch.mem_handedTo.1 member
    exact ⟨same ▸ rfl, held⟩
  | @refused execution before after sink cause split =>
    obtain ⟨held, same⟩ := Batch.mem_handedTo.1 member
    refine ⟨same ▸ rfl, ?_⟩
    rw [split]
    rcases List.mem_append.1 held with earlier | last
    · exact List.mem_append_left _ earlier
    · exact List.mem_append_right _ (List.mem_singleton.1 last ▸ List.mem_cons_self)

theorem Unfolds.sink_created {server final : MemoryServer} {outlet : ω}
    {activities : List Activity} {deliveries : List Delivery}
    {results : List (Except QueryError Execution)}
    (unfolds : Unfolds server outlet activities deliveries results final)
    (built : ∀ activity ∈ activities, ∀ query ∈ activity.query?, query.BuiltBy create) :
    ∀ delivery ∈ deliveries, delivery.sink ∈ delivery.batch.query.sinks ∧
      List.Forall₂ (fun factory sink => (create factory).result = .ok sink)
        delivery.batch.query.factories delivery.batch.query.sinks := by
  induction unfolds with
  | done => simp
  | call _ ih => exact ih fun activity member => built activity (List.mem_cons_of_mem _ member)
  | run conveys _ ih =>
    obtain ⟨here, later⟩ := List.forall_mem_cons.1 built
    intro delivery member
    rcases List.mem_append.1 member with own | other
    · obtain ⟨same, held⟩ := conveys.sink_mem delivery own
      rw [same]
      exact ⟨held, (here _ rfl).created⟩
    · exact ih later delivery other

theorem MemoryServer.performAll_unfolds (server : MemoryServer) (outlet : ω)
    (activities : List Activity) :
    ∃ deliveries,
      Unfolds server outlet activities deliveries (server.performAll outlet activities).results
          (server.performAll outlet activities).server ∧
        (server.performAll outlet activities).outlet = (handOver outlet deliveries).1 ∧
        journal (server.performAll outlet activities).events =
          journal (handOver outlet deliveries).2 := by
  induction activities generalizing server outlet with
  | nil => exact ⟨[], .done server outlet, rfl, rfl⟩
  | cons activity rest ih =>
    cases activity with
    | call call =>
      obtain ⟨deliveries, unfolds, left, noted⟩ := ih (server.answer call).1 outlet
      exact ⟨deliveries, .call unfolds, left, noted⟩
    | run sampling endpoint query =>
      obtain ⟨own, conveys, next, handed⟩ := query.run_conveys sampling endpoint server outlet
      obtain ⟨deliveries, unfolds, left, noted⟩ :=
        ih (query.run sampling endpoint server outlet).1
          (query.run sampling endpoint server outlet).2.1
      refine ⟨own ++ deliveries, .run conveys ?_, ?_, ?_⟩
      · rw [← query.run_server sampling endpoint server outlet, ← next]
        exact unfolds
      · rw [handOver_append, ← next]
        exact left
      · rw [handOver_append, journal_append, ← handed, ← next, ← noted, ← journal_append]
        rfl

/-- An execution calls for just one list of deliveries, and leads to just one result. -/
theorem Query.Conveys.unique {query : Query} {endpoint : Endpoint} {outlet : ω}
    {executed result other : Except QueryError Execution} {deliveries others : List Delivery}
    (conveys : query.Conveys endpoint outlet executed deliveries result)
    (conveysOther : query.Conveys endpoint outlet executed others other) :
    deliveries = others ∧ result = other := by
  cases conveys with
  | undiscovered cause =>
    cases conveysOther
    exact ⟨rfl, rfl⟩
  | @accepted execution accepted =>
    have written := congrArg (·.2.result) (writeAll_of_accepted accepted 0)
    cases conveysOther with
    | accepted => exact ⟨rfl, rfl⟩
    | refused split earlier refused =>
      rw [split, writeAll_of_refused earlier refused] at written
      cases written
  | @refused execution before after sink cause split earlier refused =>
    have written := congrArg (·.2.result)
      (@writeAll_of_refused _ _ _ _ after _ _ _ earlier refused 0)
    rw [← split] at written
    cases conveysOther with
    | accepted accepted =>
      rw [writeAll_of_accepted accepted] at written
      cases written
    | refused splitOther earlierOther refusedOther =>
      rw [splitOther, writeAll_of_refused earlierOther refusedOther] at written
      obtain ⟨places, _, rfl⟩ := QueryError.delivery.inj (Except.error.inj written)
      obtain ⟨rfl, tails⟩ := List.append_inj (split.symm.trans splitOther) (by omega)
      obtain ⟨rfl, _⟩ := List.cons.inj tails
      exact ⟨rfl, rfl⟩

theorem Unfolds.unique {server final last : MemoryServer} {outlet : ω} {activities : List Activity}
    {deliveries others : List Delivery} {results otherResults : List (Except QueryError Execution)}
    (unfolds : Unfolds server outlet activities deliveries results final)
    (unfoldsOther : Unfolds server outlet activities others otherResults last) :
    deliveries = others ∧ results = otherResults ∧ final = last := by
  induction unfolds generalizing others otherResults with
  | done =>
    cases unfoldsOther
    exact ⟨rfl, rfl, rfl⟩
  | call _ ih =>
    cases unfoldsOther with
    | call later => exact ih later
  | run conveys _ ih =>
    cases unfoldsOther with
    | run conveysOther later =>
      obtain ⟨rfl, rfl⟩ := conveys.unique conveysOther
      obtain ⟨rfl, rfl, rfl⟩ := ih later
      exact ⟨rfl, rfl, rfl⟩

end Sequence

/-- Over any calls and runs, each run hands its complete batch to the sinks of its query in order, up
to the first one that refuses it, whatever sinks do with their batches. The outlet and the journal
are what these deliveries make of them, and no others. The sinks are those that were created for the
query, and the server does not notice that they are there. -/
theorem runs_deliver_in_order {ω : Type} [Outlet ω] (create : SinkFactory → Traced String Sink)
    (server : MemoryServer) (outlet : ω) {activities : List Activity}
    (built : ∀ activity ∈ activities, ∀ query ∈ activity.query?, query.BuiltBy create) :
    ∃ deliveries,
      Unfolds server outlet activities deliveries (server.performAll outlet activities).results
          (server.performAll outlet activities).server ∧
        (server.performAll outlet activities).outlet = (handOver outlet deliveries).1 ∧
        journal (server.performAll outlet activities).events =
          journal (handOver outlet deliveries).2 ∧
        ∀ delivery ∈ deliveries, delivery.sink ∈ delivery.batch.query.sinks ∧
          List.Forall₂ (fun factory sink => (create factory).result = .ok sink)
            delivery.batch.query.factories delivery.batch.query.sinks := by
  obtain ⟨deliveries, unfolds, left, noted⟩ := server.performAll_unfolds outlet activities
  exact ⟨deliveries, unfolds, left, noted, unfolds.sink_created built⟩

/-- The second of three sinks accepts a batch and refuses the next one, which is empty; after that
there is nothing to hand over any more. -/
theorem runs_deliver_in_order_of_refused :
    ∃ (query : Query) (full empty : Batch) (last : Aftermath Ledger),
      (Draft.buildBy SinkFactory.create ⟨[]⟩ { pattern := "d:*", factories := [
          .recorder "a" none none, .recorder "b" none none, .log .info] }).result = .ok query ∧
      full = ⟨⟨"h", 1, none⟩, query, [⟨"x", "A", "d", "a=1", "A", "", [], .integer 1, 5⟩]⟩ ∧
      empty = ⟨⟨"h", 1, none⟩, query, []⟩ ∧
      last = MemoryServer.performAll
        { resources := [⟨⟨"d", ⟨[("a", "1")]⟩⟩, "A", [⟨"x", .integer 1⟩]⟩] }
        ⟨fun handed _ => if handed.length = 4 then some "full" else none, []⟩
        [.run ⟨fun _ => 5, Reading.samples⟩ ⟨"h", 1, none⟩ query,
          .call (.remove ⟨"d", ⟨[("a", "1")]⟩⟩),
          .run ⟨fun _ => 5, Reading.samples⟩ ⟨"h", 1, none⟩ query,
          .call (.failDiscovery (.io "down")),
          .run ⟨fun _ => 5, Reading.samples⟩ ⟨"h", 1, none⟩ query] ∧
      last.results = [.ok ⟨[⟨"d", ⟨[("a", "1")]⟩⟩], full.samples, []⟩,
        .error (.delivery 1 "d:*" "full"), .error (.discovery "d:*" (.io "down"))] ∧
      last.outlet.handed = [⟨.recorder "a" none, full⟩, ⟨.recorder "b" none, full⟩,
        ⟨.log .info, full⟩, ⟨.recorder "a" none, empty⟩, ⟨.recorder "b" none, empty⟩] := by
  let sampling : Sampling := ⟨fun _ => 5, Reading.samples⟩
  let endpoint : Endpoint := ⟨"h", 1, none⟩
  let query : Query := ⟨⟨"d", ⟨[]⟩, true⟩, [], [], [], none, false, false, false,
    [.recorder "a" none none, .recorder "b" none none, .log .info],
    [.recorder "a" none, .recorder "b" none, .log .info]⟩
  let start : MemoryServer := { resources := [⟨⟨"d", ⟨[("a", "1")]⟩⟩, "A", [⟨"x", .integer 1⟩]⟩] }
  let ledger : Ledger := ⟨fun handed _ => if handed.length = 4 then some "full" else none, []⟩
  let found : Execution := ⟨[⟨"d", ⟨[("a", "1")]⟩⟩],
    [⟨"x", "A", "d", "a=1", "A", "", [], .integer 1, 5⟩], []⟩
  let full : List Delivery := Batch.handedTo ⟨endpoint, query, found.samples⟩ query.sinks
  let empty : List Delivery :=
    Batch.handedTo ⟨endpoint, query, []⟩ [.recorder "a" none, .recorder "b" none]
  have built : (Draft.buildBy SinkFactory.create ⟨[]⟩ { pattern := "d:*", factories := [
      .recorder "a" none none, .recorder "b" none none, .log .info] }).result = .ok query := by
    cbv
  obtain ⟨_, represents⟩ : ∃ directory, start.Represents directory :=
    MemoryServer.Reachable.represents
      ⟨{}, [.register "d:a=1" "A" [⟨"x", .integer 1⟩]], .new, by cbv⟩
  have asked : query.fetchCount start = 1 := by cbv
  have account : query.account sampling start = found := by cbv
  obtain ⟨next, first⟩ := query.execute_of_healthy sampling represents rfl
  obtain ⟨same, second⟩ := query.execute_of_healthy sampling
    (MemoryServer.represents_empty.afterFetches 1) rfl
  have removed : ((start.afterFetches 1).answer (.remove ⟨"d", ⟨[("a", "1")]⟩⟩)).1 =
      MemoryServer.afterFetches {} 1 := by
    cbv
  have third := @Query.execute_of_injected
    { fetchCalls := 1, discoveryFailure := some (.io "down") } sampling query (.io "down") rfl
  have unfolds : Unfolds start ledger
      [.run sampling endpoint query, .call (.remove ⟨"d", ⟨[("a", "1")]⟩⟩),
        .run sampling endpoint query, .call (.failDiscovery (.io "down")),
        .run sampling endpoint query]
      (full ++ (empty ++ ([] ++ [])))
      [.ok found, .error (.delivery 1 "d:*" "full"), .error (.discovery "d:*" (.io "down"))]
      { fetchCalls := 1, discoveryFailure := some (.io "down") } := by
    refine .run ?_ (.call (.run ?_ (.call (.run ?_ ?_))))
    · rw [first, account]
      exact .accepted ⟨rfl, rfl, rfl, trivial⟩
    · rw [next, asked, removed, second]
      exact @Query.Conveys.refused _ _ query endpoint _ ⟨[], [], []⟩ [.recorder "a" none] _
        (.recorder "b" none) _ rfl ⟨rfl, trivial⟩ rfl
    · rw [next, asked, removed, same]
      exact third ▸ .undiscovered _
    · rw [next, asked, removed, same]
      exact third ▸ .done _ _
  have each : ∀ activity ∈ [Activity.run sampling endpoint query,
      .call (.remove ⟨"d", ⟨[("a", "1")]⟩⟩), .run sampling endpoint query,
      .call (.failDiscovery (.io "down")), .run sampling endpoint query],
      ∀ one ∈ activity.query?, one.BuiltBy SinkFactory.create := by
    simpa [Activity.query?] using ⟨_, _, built⟩
  obtain ⟨deliveries, comes, left, _⟩ := runs_deliver_in_order SinkFactory.create start ledger each
  obtain ⟨rfl, results, _⟩ := unfolds.unique comes
  rw [Ledger.handOver_eq] at left
  exact ⟨query, _, _, _, built, rfl, rfl, rfl, results.symm, congrArg Ledger.handed left⟩

end MetricQuery
