import MetricQuery.Proofs.Execution.Accounting
import MetricQuery.Proofs.Name.Rewriting

namespace MetricQuery

namespace ResourceName

/-- A text that is read as the name. -/
def Readable (name : ResourceName) : Prop := ∃ text, ResourceName.parse text = .ok name

/-- What can be read at all is read from the way it is shown. -/
theorem Readable.parse_display {name : ResourceName} (readable : name.Readable) :
    ResourceName.parse name.display = .ok name := by
  obtain ⟨text, parsed⟩ := readable
  obtain ⟨read, concrete⟩ := parse_eq_ok_iff.1 parsed
  obtain ⟨spelling, _, same⟩ := NamePattern.parse_eq_ok_iff.1 read
  have shown := spelling.parse_assemble (.refl _)
  rw [same] at shown
  refine parse_eq_ok_iff.2 ⟨?_, concrete⟩
  rw [name.display_eq]
  exact shown

end ResourceName

namespace MemoryServer

/-- All resources have been registered under texts that could be read. -/
def Readable (server : MemoryServer) : Prop :=
  ∀ resource ∈ server.resources, resource.name.Readable

theorem eq_or_mem_of_mem_place {resource other : Resource} {resources : List Resource}
    (held : other ∈ place resource resources) : other = resource ∨ other ∈ resources := by
  induction resources with
  | nil => exact Or.inl (by simpa [place] using held)
  | cons first rest ih =>
    rw [place] at held
    split at held
    · rcases List.mem_cons.1 held with here | later
      · exact Or.inl here
      · exact Or.inr (List.mem_cons_of_mem _ later)
    · rcases List.mem_cons.1 held with here | later
      · exact Or.inr (here ▸ List.mem_cons_self)
      · exact (ih later).imp_right (List.mem_cons_of_mem _)

/-- Only a registration brings in a name, and it has read it. -/
theorem Readable.answer {server : MemoryServer} (readable : server.Readable) (call : ServerCall) :
    (server.answer call).1.Readable := by
  cases call with
  | register text className attributes =>
    simp only [MemoryServer.answer, register]
    cases parsed : ResourceName.parse text with
    | error error => exact readable
    | ok name =>
      intro resource held
      rcases eq_or_mem_of_mem_place held with rfl | earlier
      · exact ⟨text, parsed⟩
      · exact readable resource earlier
  | remove name =>
    intro resource held
    exact readable resource (List.mem_filter.1 held).1
  | _ => exact readable

theorem Readable.answerAll {server : MemoryServer} (readable : server.Readable)
    (calls : List ServerCall) : (server.answerAll calls).1.Readable := by
  induction calls generalizing server with
  | nil => exact readable
  | cons call rest ih => exact ih (readable.answer call)

theorem readable_empty : Readable {} := fun _ held => absurd held List.not_mem_nil

theorem Reachable.readable {server : MemoryServer} (reachable : server.Reachable) :
    server.Readable := by
  obtain ⟨start, calls, fresh, rfl⟩ := reachable
  cases fresh with
  | new => exact readable_empty.answerAll calls
  | loaded loaded =>
    obtain ⟨_, rfl⟩ := Snapshot.registerAll_eq_ok_iff.1 loaded
    exact (readable_empty.answerAll _).answerAll calls

end MemoryServer

/-- The sample names the resource, and has the value of the first attribute of its name there. -/
structure Sample.Identifies (sample : Sample) (resource : Resource) : Prop where
  name : ResourceName.parse (sample.domain ++ ":" ++ sample.typeName) = .ok resource.name
  value : (resource.attributes.find? fun one => one.name == sample.attributeName).map
    Attribute.value = some sample.value

namespace Query

variable {server : MemoryServer} {time : ResourceName → Nat} {query : Query} {resource : Resource}
  {sample : Sample}

/-- The sample is among those that are fetched from the resource. -/
def Fetches (query : Query) (time : ResourceName → Nat) (server : MemoryServer) (resource : Resource)
    (sample : Sample) : Prop :=
  ∃ block, (query.fetch ⟨time, Reading.samples⟩ resource.name server).2.result = .ok block ∧
    sample ∈ block

theorem find?_of_mem_select {names : List String} {given : Attribute}
    (held : given ∈ MemoryServer.Resource.select names resource) :
    resource.attributes.find? (fun one => one.name == given.name) = some given := by
  obtain ⟨name, _, found⟩ := List.mem_filterMap.1 held
  have same : given.name = name := by simpa using List.find?_some found
  rw [same]
  exact found

theorem identifies_of_mem_block (readable : resource.name.Readable)
    (held : sample ∈ query.block ⟨time, Reading.samples⟩ resource.name resource) :
    sample.Identifies resource := by
  rw [block] at held
  split at held
  · cases held
  · obtain ⟨given, selected, rfl⟩ := List.mem_map.1 held
    have found := find?_of_mem_select selected
    exact ⟨readable.parse_display, congrArg (Option.map Attribute.value) found⟩

theorem mem_block_of_mem_outcome {sampling : Sampling} {injected : Option ServerFailure}
    (held : sample ∈ Outcome.samples (query.outcome sampling resource.name resource injected)) :
    query.outcome sampling resource.name resource injected =
        .ok (query.block sampling resource.name resource) ∧
      sample ∈ query.block sampling resource.name resource := by
  cases injected with
  | none => exact ⟨rfl, held⟩
  | some failure =>
    rw [outcome] at held
    split at held <;> cases held

/-- What is fetched from a registered resource identifies it. -/
theorem Fetches.identifies (readable : server.Readable) (registered : resource ∈ server.resources)
    (found : server.find? resource.name = some resource)
    (fetches : query.Fetches time server resource sample) : sample.Identifies resource := by
  obtain ⟨block, fetched, held⟩ := fetches
  rw [(query.fetch_registered _ found).2] at fetched
  have brought : sample ∈ Outcome.samples (query.outcome ⟨time, Reading.samples⟩ resource.name
      resource (server.injectedFailure? resource.name)) := fetched ▸ held
  exact identifies_of_mem_block (readable resource registered) (mem_block_of_mem_outcome brought).2

/-- Every sample of an account is fetched from one of the matched resources. -/
theorem exists_fetches_of_mem_account {directory : Directory}
    (represents : server.Represents directory)
    (held : sample ∈ (query.account ⟨time, Reading.samples⟩ server).samples) :
    ∃ resource ∈ server.matched query.pattern, query.Fetches time server resource sample := by
  obtain ⟨outcome, listed, brought⟩ := List.mem_flatMap.1 held
  obtain ⟨resource, matched, rfl⟩ := List.mem_map.1 listed
  have registered := (List.mem_filter.1 matched).1
  have fetched := (query.fetch_registered ⟨time, Reading.samples⟩
    (represents.find?_registered registered)).2
  obtain ⟨whole, own⟩ := mem_block_of_mem_outcome brought
  exact ⟨resource, matched, _, fetched.trans whole, own⟩

end Query

/-- Resources of a server that the same domain and properties have been read for are one. -/
theorem MemoryServer.Represents.eq_of_identifies {server : MemoryServer} {directory : Directory}
    (represents : server.Represents directory) {a b : Resource} {one other : Sample}
    (registeredA : a ∈ server.resources) (registeredB : b ∈ server.resources)
    (identifiesA : one.Identifies a) (identifiesB : other.Identifies b)
    (domain : one.domain = other.domain) (typeName : one.typeName = other.typeName) : a = b := by
  have name := identifiesA.name
  rw [domain, typeName, identifiesB.name] at name
  have foundA := represents.find?_registered registeredA
  have foundB := represents.find?_registered registeredB
  rw [Except.ok.inj name] at foundB
  exact Option.some.inj (foundA.symm.trans foundB)

/-- Every sample of an execution tells by its domain and its properties which matched resource it has
been fetched from, and it has the value of the first attribute of its name there. Samples that agree
in this much are from the same resource and have the same value. -/
theorem samples_identify_resources {server : MemoryServer} (reachable : server.Reachable)
    (healthy : server.discoveryFailure = none) (query : Query) (time : ResourceName → Nat) :
    ∃ execution, (query.execute ⟨time, Reading.samples⟩ server).2.result = .ok execution ∧
      (∀ sample ∈ execution.samples, ∃ resource ∈ server.matched query.pattern,
        query.Fetches time server resource sample ∧ sample.Identifies resource) ∧
      ∀ one ∈ execution.samples, ∀ other ∈ execution.samples,
        one.domain = other.domain → one.typeName = other.typeName →
          one.attributeName = other.attributeName →
          one.value = other.value ∧ ∃ resource ∈ server.matched query.pattern,
            query.Fetches time server resource one ∧ query.Fetches time server resource other ∧
              ∀ source ∈ server.matched query.pattern,
                query.Fetches time server source one ∨ query.Fetches time server source other →
                  source = resource := by
  obtain ⟨directory, represents⟩ := reachable.represents
  obtain ⟨_, result⟩ := query.execute_of_healthy ⟨time, Reading.samples⟩ represents healthy
  have identifies {resource : Resource} (matched : resource ∈ server.matched query.pattern)
      {sample : Sample} (fetches : query.Fetches time server resource sample) :
      resource ∈ server.resources ∧ sample.Identifies resource := by
    have registered := (List.mem_filter.1 matched).1
    exact ⟨registered, fetches.identifies reachable.readable registered
      (represents.find?_registered registered)⟩
  have sources {sample : Sample}
      (held : sample ∈ (query.account ⟨time, Reading.samples⟩ server).samples) :
      ∃ resource ∈ server.matched query.pattern, query.Fetches time server resource sample :=
    Query.exists_fetches_of_mem_account represents held
  refine ⟨_, result, ?_, ?_⟩
  · intro sample held
    obtain ⟨resource, matched, fetches⟩ := sources held
    exact ⟨resource, matched, fetches, (identifies matched fetches).2⟩
  intro one heldOne other heldOther domain typeName attributeName
  obtain ⟨resource, matched, fetchesOne⟩ := sources heldOne
  obtain ⟨second, matchedSecond, fetchesOther⟩ := sources heldOther
  obtain ⟨registered, identifiesOne⟩ := identifies matched fetchesOne
  obtain ⟨registeredSecond, identifiesOther⟩ := identifies matchedSecond fetchesOther
  obtain rfl := represents.eq_of_identifies registered registeredSecond identifiesOne
    identifiesOther domain typeName
  have values := identifiesOne.value
  rw [attributeName, identifiesOther.value] at values
  refine ⟨(Option.some.inj values).symm, resource, matched, fetchesOne, fetchesOther, ?_⟩
  intro source sourceMatched fetches
  rcases fetches with fetches | fetches
  · obtain ⟨sourceRegistered, again⟩ := identifies sourceMatched fetches
    exact represents.eq_of_identifies sourceRegistered registered again identifiesOne rfl rfl
  · obtain ⟨sourceRegistered, again⟩ := identifies sourceMatched fetches
    exact represents.eq_of_identifies sourceRegistered registered again identifiesOther rfl rfl

/-- One attribute asked for twice, of a resource that has two of its name and a quoted property, and
that was registered in another order before. -/
theorem samples_identify_resources_of_repeated :
    ∃ server : MemoryServer, server.Reachable ∧ server.discoveryFailure = none ∧
      ∃ one other, (Query.execute ⟨fun _ => 0, Reading.samples⟩
          ⟨⟨"d", ⟨[]⟩, true⟩, [], ["n", "n"], [], none, false, false, false, [], []⟩
          server).2.result = .ok ⟨[⟨"d", ⟨[("k", "\"a,=\""), ("b", "x")]⟩⟩], [one, other], []⟩ ∧
        (∃ resource ∈ server.resources, one.Identifies resource) ∧ one.value = other.value := by
  have reachable : MemoryServer.Reachable
      { resources := [⟨⟨"d", ⟨[("k", "\"a,=\""), ("b", "x")]⟩⟩, "B",
          [⟨"n", .integer 1⟩, ⟨"n", .integer 2⟩]⟩] } :=
    ⟨{}, [.register "d:b=x,k=\"a,=\"" "A" [⟨"n", .integer 0⟩],
      .register "d:k=\"a,=\",b=x" "B" [⟨"n", .integer 1⟩, ⟨"n", .integer 2⟩]], .new, by cbv⟩
  obtain ⟨_, represents⟩ := reachable.represents
  obtain ⟨_, accounted⟩ := Query.execute_of_healthy ⟨fun _ => 0, Reading.samples⟩
    ⟨⟨"d", ⟨[]⟩, true⟩, [], ["n", "n"], [], none, false, false, false, [], []⟩ represents rfl
  have executed := accounted.trans (congrArg Except.ok (by cbv : _ = Execution.mk
    [⟨"d", ⟨[("k", "\"a,=\""), ("b", "x")]⟩⟩]
    [⟨"n", "B", "d", "k=\"a,=\",b=x", "B", "", [], .integer 1, 0⟩,
      ⟨"n", "B", "d", "k=\"a,=\",b=x", "B", "", [], .integer 1, 0⟩] []))
  obtain ⟨execution, result, identify, agree⟩ := samples_identify_resources reachable rfl
    ⟨⟨"d", ⟨[]⟩, true⟩, [], ["n", "n"], [], none, false, false, false, [], []⟩ fun _ => 0
  obtain rfl := Except.ok.inj (executed.symm.trans result)
  obtain ⟨resource, matched, _, identifies⟩ := identify _ List.mem_cons_self
  obtain ⟨same, _⟩ := agree _ List.mem_cons_self _ (List.mem_cons_of_mem _ List.mem_cons_self)
    rfl rfl rfl
  exact ⟨_, reachable, rfl, _, _, executed, ⟨resource, (List.mem_filter.1 matched).1, identifies⟩,
    same⟩

end MetricQuery
