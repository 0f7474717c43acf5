import MetricQuery.Proofs.Execution.Accounting
import MetricQuery.Proofs.Query.Building
import MetricQuery.Proofs.Trace

namespace MetricQuery

/-- A batch that is handed to a sink. -/
structure Delivery where
  sink : Sink
  batch : Batch

/-- The batch, handed to each of the sinks. -/
def Batch.handedTo (batch : Batch) (sinks : List Sink) : List Delivery :=
  sinks.map fun sink => ⟨sink, batch⟩

theorem Batch.mem_handedTo {batch : Batch} {sinks : List Sink} {delivery : Delivery} :
    delivery ∈ batch.handedTo sinks ↔ delivery.sink ∈ sinks ∧ delivery.batch = batch := by
  obtain ⟨sink, own⟩ := delivery
  simp [handedTo, eq_comm]

section Handing

variable {ω : Type} [Outlet ω]

/-- What handing over batches one after the other makes of an outlet, and the events. -/
def handOver (outlet : ω) : List Delivery → ω × List Event
  | [] => (outlet, [])
  | delivery :: rest =>
    let (next, written) := Outlet.write outlet delivery.sink delivery.batch
    let (final, events) := handOver next rest
    (final, written.events ++ events)

/-- Each of the batches is accepted when its turn comes. -/
def Accepts (outlet : ω) : List Delivery → Prop
  | [] => True
  | delivery :: rest =>
    (Outlet.write outlet delivery.sink delivery.batch).2.result = .ok () ∧
      Accepts (Outlet.write outlet delivery.sink delivery.batch).1 rest

/-- The last of the batches is refused when its turn comes. -/
def Refuses (outlet : ω) (before : List Delivery) (last : Delivery) (cause : String) : Prop :=
  (Outlet.write (handOver outlet before).1 last.sink last.batch).2.result = .error cause

theorem handOver_append (outlet : ω) (first second : List Delivery) :
    handOver outlet (first ++ second) =
      ((handOver (handOver outlet first).1 second).1,
        (handOver outlet first).2 ++ (handOver (handOver outlet first).1 second).2) := by
  induction first generalizing outlet with
  | nil => rfl
  | cons delivery rest ih =>
    simp only [List.cons_append, handOver, ih, List.append_assoc]

/-- An outlet accepts a batch for all of some sinks, or there is a first sink for which it does not. -/
theorem accepts_or_first_refused (outlet : ω) (batch : Batch) (sinks : List Sink) :
    Accepts outlet (batch.handedTo sinks) ∨
      ∃ before sink after cause, sinks = before ++ sink :: after ∧
        Accepts outlet (batch.handedTo before) ∧
        Refuses outlet (batch.handedTo before) ⟨sink, batch⟩ cause := by
  induction sinks generalizing outlet with
  | nil => exact Or.inl trivial
  | cons first rest ih =>
    cases here : (Outlet.write outlet first batch).2.result with
    | error cause => exact Or.inr ⟨[], first, rest, cause, rfl, trivial, here⟩
    | ok =>
      rcases ih (Outlet.write outlet first batch).1 with
        later | ⟨before, sink, after, cause, rfl, earlier, refused⟩
      · exact Or.inl ⟨here, later⟩
      · exact Or.inr ⟨first :: before, sink, after, cause, rfl, ⟨here, earlier⟩, refused⟩

variable {batch : Batch} {before after sinks : List Sink} {sink : Sink} {cause : String}

/-- If the batch is accepted for all sinks, each of them is handed it once, in order. -/
theorem writeAll_of_accepted {outlet : ω} (accepted : Accepts outlet (batch.handedTo sinks))
    (index : Nat) :
    writeAll batch index sinks outlet =
      ((handOver outlet (batch.handedTo sinks)).1,
        ⟨(handOver outlet (batch.handedTo sinks)).2, .ok ()⟩) := by
  induction sinks generalizing outlet index with
  | nil => rfl
  | cons first rest ih =>
    obtain ⟨here, later⟩ := accepted
    simp only [writeAll, here, ih later]
    rfl

/-- The first sink for which the batch is refused is the last one that is handed it. -/
theorem writeAll_of_refused {outlet : ω} (accepted : Accepts outlet (batch.handedTo before))
    (refused : Refuses outlet (batch.handedTo before) ⟨sink, batch⟩ cause) (index : Nat) :
    writeAll batch index (before ++ sink :: after) outlet =
      ((handOver outlet (batch.handedTo (before ++ [sink]))).1,
        ⟨(handOver outlet (batch.handedTo (before ++ [sink]))).2,
          .error (.delivery (index + before.length) batch.query.pattern.display cause)⟩) := by
  induction before generalizing outlet index with
  | nil =>
    have here : (Outlet.write outlet sink batch).2.result = .error cause := refused
    simp only [List.nil_append, writeAll, here]
    simp [Batch.handedTo, handOver]
  | cons first rest ih =>
    obtain ⟨here, later⟩ := accepted
    have position : index + 1 + rest.length = index + (first :: rest).length := by
      rw [List.length_cons, Nat.add_right_comm, Nat.add_assoc]
    simp only [List.cons_append, writeAll, here, ih later refused, position]
    rfl

theorem deliver_of_accepted {endpoint : Endpoint} {query : Query} {samples : List Sample}
    {outlet : ω} (accepted : Accepts outlet (Batch.handedTo ⟨endpoint, query, samples⟩ query.sinks)) :
    (deliver endpoint query samples outlet).1 =
        (handOver outlet (Batch.handedTo ⟨endpoint, query, samples⟩ query.sinks)).1 ∧
      (deliver endpoint query samples outlet).2.result = .ok () ∧
      journal (deliver endpoint query samples outlet).2.events =
        journal (handOver outlet (Batch.handedTo ⟨endpoint, query, samples⟩ query.sinks)).2 := by
  rw [deliver, writeAll_of_accepted accepted]
  exact ⟨rfl, rfl, (journal_append ..).trans (List.append_nil _)⟩

theorem deliver_of_refused {endpoint : Endpoint} {query : Query} {samples : List Sample}
    {outlet : ω} (split : query.sinks = before ++ sink :: after)
    (accepted : Accepts outlet (Batch.handedTo ⟨endpoint, query, samples⟩ before))
    (refused : Refuses outlet (Batch.handedTo ⟨endpoint, query, samples⟩ before)
      ⟨sink, ⟨endpoint, query, samples⟩⟩ cause) :
    (deliver endpoint query samples outlet).1 =
        (handOver outlet (Batch.handedTo ⟨endpoint, query, samples⟩ (before ++ [sink]))).1 ∧
      (deliver endpoint query samples outlet).2.result =
        .error (.delivery before.length query.pattern.display cause) ∧
      journal (deliver endpoint query samples outlet).2.events =
        journal (handOver outlet
          (Batch.handedTo ⟨endpoint, query, samples⟩ (before ++ [sink]))).2 := by
  rw [deliver, split, writeAll_of_refused accepted refused, Nat.zero_add]
  exact ⟨rfl, rfl, rfl⟩

end Handing

namespace Query

/-- A run of a query after its execution: what is handed over, and the result. The batch is complete
and the same for all sinks; the first sink for which it is refused is the last one that gets it. -/
inductive Conveys {ω : Type} [Outlet ω] (query : Query) (endpoint : Endpoint) (outlet : ω) :
    Except QueryError Execution → List Delivery → Except QueryError Execution → Prop
  | undiscovered (cause : ServerFailure) :
      Conveys query endpoint outlet (.error (.discovery query.pattern.display cause)) []
        (.error (.discovery query.pattern.display cause))
  | accepted {execution : Execution} :
      Accepts outlet (Batch.handedTo ⟨endpoint, query, execution.samples⟩ query.sinks) →
      Conveys query endpoint outlet (.ok execution)
        (Batch.handedTo ⟨endpoint, query, execution.samples⟩ query.sinks) (.ok execution)
  | refused {execution : Execution} {before after : List Sink} {sink : Sink} {cause : String} :
      query.sinks = before ++ sink :: after →
      Accepts outlet (Batch.handedTo ⟨endpoint, query, execution.samples⟩ before) →
      Refuses outlet (Batch.handedTo ⟨endpoint, query, execution.samples⟩ before)
        ⟨sink, ⟨endpoint, query, execution.samples⟩⟩ cause →
      Conveys query endpoint outlet (.ok execution)
        (Batch.handedTo ⟨endpoint, query, execution.samples⟩ (before ++ [sink]))
        (.error (.delivery before.length query.pattern.display cause))

section Executing

variable {σ : Type} [Management σ] (sampling : Sampling) (query : Query)

/-- Fetching is only noted: no sink has a part in it. -/
theorem journal_collect (name : ResourceName) (className : String) (names : List String) (server : σ)
    (answer : Except ServerFailure (List Attribute)) :
    journal (query.collect sampling name className names server answer).events = [] := by
  cases answer with
  | error cause =>
    rw [collect]
    split
    · rfl
    · rfl
  | ok attributes =>
    rw [collect]
    split
    · rfl
    · rfl

theorem journal_fetch (name : ResourceName) (server : σ) :
    journal (query.fetch sampling name server).2.events = [] := by
  rw [fetch]
  split
  · rfl
  · split
    · rfl
    · rfl
    · exact query.journal_collect sampling ..

theorem journal_fetchAll (names : List ResourceName) (server : σ) :
    journal (query.fetchAll sampling names server).2.1 = [] := by
  induction names generalizing server with
  | nil => rfl
  | cons name rest ih =>
    have first := query.journal_fetch sampling name server
    have others := ih (query.fetch sampling name server).1
    rw [fetchAll]
    dsimp only
    split
    · rw [journal_append, first, others]
      rfl
    · rw [journal_append, first, List.nil_append]
      exact others

theorem journal_execute (server : σ) :
    journal (query.execute sampling server).2.events = [] := by
  rw [execute]
  split
  · rfl
  · exact query.journal_fetchAll sampling _ server

variable {ω : Type} [Outlet ω]

/-- The server does not notice whether samples are delivered. -/
theorem run_server (endpoint : Endpoint) (server : σ) (outlet : ω) :
    (query.run sampling endpoint server outlet).1 = (query.execute sampling server).1 := by
  rw [run]
  dsimp only
  split
  · rfl
  · rfl

theorem run_of_failed (endpoint : Endpoint) {server : σ} (outlet : ω) {error : QueryError}
    (failed : (query.execute sampling server).2.result = .error error) :
    (query.run sampling endpoint server outlet).2.1 = outlet ∧
      (query.run sampling endpoint server outlet).2.2.result = .error error ∧
      journal (query.run sampling endpoint server outlet).2.2.events = [] := by
  have quiet := query.journal_execute sampling server
  simp only [run, failed, quiet, and_self]

theorem run_of_executed (endpoint : Endpoint) {server : σ} (outlet : ω) {execution : Execution}
    (executed : (query.execute sampling server).2.result = .ok execution) :
    (query.run sampling endpoint server outlet).2.1 =
        (deliver endpoint query execution.samples outlet).1 ∧
      (query.run sampling endpoint server outlet).2.2.result =
        (deliver endpoint query execution.samples outlet).2.result.map (fun _ => execution) ∧
      journal (query.run sampling endpoint server outlet).2.2.events =
        journal (deliver endpoint query execution.samples outlet).2.events := by
  have unfolded : query.run sampling endpoint server outlet =
      ((query.execute sampling server).1, (deliver endpoint query execution.samples outlet).1,
        ⟨(query.execute sampling server).2.events ++
            (deliver endpoint query execution.samples outlet).2.events,
          (deliver endpoint query execution.samples outlet).2.result.map fun _ => execution⟩) := by
    simp only [run, executed]
  rw [unfolded, journal_append, query.journal_execute]
  exact ⟨rfl, rfl, rfl⟩

end Executing

/-- An execution fails only because nothing could be found. -/
theorem execute_result_cases (sampling : Sampling) (query : Query) (server : MemoryServer) :
    (∃ cause, (query.execute sampling server).2.result =
        .error (.discovery query.pattern.display cause)) ∨
      ∃ execution, (query.execute sampling server).2.result = .ok execution := by
  cases injected : server.discoveryFailure with
  | some cause =>
    rw [query.execute_of_injected sampling injected]
    exact Or.inl ⟨cause, rfl⟩
  | none => exact Or.inr ⟨_, (query.execute_of_discover sampling (query.discover_eq_ok injected)).2⟩

/-- A run hands over what the result of its execution calls for, and nothing else. -/
theorem run_conveys {ω : Type} [Outlet ω] (sampling : Sampling) (endpoint : Endpoint)
    (query : Query) (server : MemoryServer) (outlet : ω) :
    ∃ deliveries,
      query.Conveys endpoint outlet (query.execute sampling server).2.result deliveries
          (query.run sampling endpoint server outlet).2.2.result ∧
        (query.run sampling endpoint server outlet).2.1 = (handOver outlet deliveries).1 ∧
        journal (query.run sampling endpoint server outlet).2.2.events =
          journal (handOver outlet deliveries).2 := by
  rcases query.execute_result_cases sampling server with ⟨cause, failed⟩ | ⟨execution, executed⟩
  · obtain ⟨same, result, quiet⟩ := query.run_of_failed sampling endpoint outlet failed
    rw [failed, same, result, quiet]
    exact ⟨[], .undiscovered cause, rfl, rfl⟩
  obtain ⟨next, result, noted⟩ := query.run_of_executed sampling endpoint outlet executed
  rw [executed, next, result, noted]
  rcases accepts_or_first_refused outlet ⟨endpoint, query, execution.samples⟩ query.sinks with
    accepted | ⟨before, sink, after, cause, split, accepted, refused⟩
  · obtain ⟨left, delivered, handed⟩ := deliver_of_accepted accepted
    rw [left, delivered, handed]
    exact ⟨_, .accepted accepted, rfl, rfl⟩
  · obtain ⟨left, delivered, handed⟩ := deliver_of_refused split accepted refused
    rw [left, delivered, handed]
    exact ⟨_, .refused split accepted refused, rfl, rfl⟩

end Query

/-- An outlet that keeps all that it is handed, in order. Whether it accepts a batch can depend on
what it has been handed before. -/
structure Ledger where
  refusal? : List Delivery → Delivery → Option String
  handed : List Delivery := []

namespace Ledger

instance : Outlet Ledger where
  write ledger sink batch :=
    ({ ledger with handed := ledger.handed ++ [⟨sink, batch⟩] },
      ⟨[], match ledger.refusal? ledger.handed ⟨sink, batch⟩ with
        | none => .ok ()
        | some cause => .error cause⟩)

/-- A ledger lists every batch that has been handed over, an empty one as well. -/
theorem handOver_eq (ledger : Ledger) (deliveries : List Delivery) :
    handOver ledger deliveries = ({ ledger with handed := ledger.handed ++ deliveries }, []) := by
  induction deliveries generalizing ledger with
  | nil => simp [handOver]
  | cons delivery rest ih => simp [handOver, Outlet.write, ih]

end Ledger

section KnownSinks

/-- What the sink of a delivery does with the batch, if it is a known one. -/
def Delivery.events (delivery : Delivery) : List Event := (delivery.sink.write delivery.batch).events

theorem Sink.isDeed_of_mem_write {batch : Batch} {sink : Sink} {event : Event}
    (member : event ∈ (sink.write batch).events) : event.isDeed = true := by
  cases sink with
  | log level =>
    obtain ⟨sample, _, rfl⟩ := List.mem_map.1 member
    rfl
  | recorder label fault =>
    cases fault with
    | none => rw [List.mem_singleton.1 member]; rfl
    | some cause => rw [List.mem_singleton.1 member]; rfl

theorem handOver_knownSinks (outlet : KnownSinks) (deliveries : List Delivery) :
    handOver outlet deliveries = (outlet, deliveries.flatMap Delivery.events) := by
  induction deliveries with
  | nil => rfl
  | cons delivery rest ih => simp [handOver, Outlet.write, ih, Delivery.events]

theorem journal_handOver_knownSinks (outlet : KnownSinks) (deliveries : List Delivery) :
    journal (handOver outlet deliveries).2 = deliveries.flatMap Delivery.events := by
  rw [handOver_knownSinks]
  exact journal_flatMap (fun _ _ written => Sink.isDeed_of_mem_write written) deliveries

end KnownSinks

end MetricQuery
