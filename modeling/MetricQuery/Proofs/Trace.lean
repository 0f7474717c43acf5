import MetricQuery.Trace

namespace MetricQuery

namespace Traced

variable {ε δ α β : Type}

theorem bind_of_ok {first : Traced ε α} {value : α} (succeeded : first.result = .ok value)
    (next : α → Traced ε β) :
    first >>= next = ⟨first.events ++ (next value).events, (next value).result⟩ := by
  obtain ⟨events, result⟩ := first
  cases succeeded
  rfl

theorem bind_of_error {first : Traced ε α} {failure : ε} (failed : first.result = .error failure)
    (next : α → Traced ε β) : first >>= next = ⟨first.events, .error failure⟩ := by
  obtain ⟨events, result⟩ := first
  cases failed
  rfl

theorem mapError_of_ok {traced : Traced ε α} {value : α} (succeeded : traced.result = .ok value)
    (f : ε → δ) : traced.mapError f = ⟨traced.events, .ok value⟩ := by
  rw [mapError, succeeded]
  rfl

theorem mapError_of_error {traced : Traced ε α} {failure : ε}
    (failed : traced.result = .error failure) (f : ε → δ) :
    traced.mapError f = ⟨traced.events, .error (f failure)⟩ := by
  rw [mapError, failed]
  rfl

end Traced

/-- What factories and sinks do, as opposed to what is only noted about it. -/
def Event.isDeed : Event → Bool
  | .logged entry => entry.source = .logSink
  | .created _ => true
  | .written .. => true

/-- The deeds among some events. -/
def journal (events : List Event) : List Event := events.filter Event.isDeed

@[simp] theorem journal_nil : journal [] = [] := rfl

@[simp] theorem journal_append (first second : List Event) :
    journal (first ++ second) = journal first ++ journal second := List.filter_append ..

theorem journal_flatMap {α : Type} {f : α → List Event}
    (deeds : ∀ item, ∀ event ∈ f item, event.isDeed = true) (items : List α) :
    journal (items.flatMap f) = items.flatMap f := by
  refine List.filter_eq_self.2 fun event member => ?_
  obtain ⟨item, _, here⟩ := List.mem_flatMap.1 member
  exact deeds item event here

end MetricQuery
