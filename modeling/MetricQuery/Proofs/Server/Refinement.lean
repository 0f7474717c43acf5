import Mathlib.Data.List.Permutation
import MetricQuery.Proofs.Name.Grammar
import MetricQuery.Proofs.Server.Directory

namespace MetricQuery

/-- The entry has the name of one resource. -/
def ResourceEntry.Named (entry : ResourceEntry) : Prop :=
  ∃ name, ResourceName.parse entry.name = .ok name

def ResourceEntry.registration (entry : ResourceEntry) : ServerCall :=
  .register entry.name entry.className entry.attributes

def Snapshot.registrations (snapshot : Snapshot) : List ServerCall :=
  snapshot.resources.map ResourceEntry.registration

namespace MemoryServer

theorem register_of_parse (server : MemoryServer) {text : String} {name : ResourceName}
    (parsed : ResourceName.parse text = .ok name) (className : String)
    (attributes : List Attribute) :
    server.register text className attributes =
      .ok ((server.answer (.register text className attributes)).1, name) := by
  simp only [answer, register, parsed]
  rfl

theorem register_of_error (server : MemoryServer) {text : String} {error : NameError}
    (rejected : ResourceName.parse text = .error error) (className : String)
    (attributes : List Attribute) :
    server.register text className attributes = .error error := by
  simp only [register, rejected]
  rfl

end MemoryServer

namespace Snapshot

theorem registerAll_cons_of_parse (server : MemoryServer) {entry : ResourceEntry}
    {name : ResourceName} (parsed : ResourceName.parse entry.name = .ok name)
    (rest : List ResourceEntry) :
    registerAll server (entry :: rest) = registerAll (server.answer entry.registration).1 rest := by
  rw [registerAll, server.register_of_parse parsed]
  rfl

theorem registerAll_cons_of_error (server : MemoryServer) {entry : ResourceEntry}
    {error : NameError} (rejected : ResourceName.parse entry.name = .error error)
    (rest : List ResourceEntry) : registerAll server (entry :: rest) = .error error := by
  rw [registerAll, server.register_of_error rejected]
  rfl

/-- Registering entries succeeds if all of them are named, and then it is a run of calls. -/
theorem registerAll_eq_ok_iff {server final : MemoryServer} {entries : List ResourceEntry} :
    registerAll server entries = .ok final ↔
      (∀ entry ∈ entries, entry.Named) ∧
        (server.answerAll (entries.map ResourceEntry.registration)).1 = final := by
  induction entries generalizing server with
  | nil => simp [registerAll, MemoryServer.answerAll]
  | cons entry rest ih =>
    cases parsed : ResourceName.parse entry.name with
    | ok name =>
      have named : entry.Named := ⟨name, parsed⟩
      rw [registerAll_cons_of_parse server parsed, ih, List.forall_mem_cons]
      exact and_congr_left fun _ => (and_iff_right named).symm
    | error error =>
      have nameless : ¬entry.Named := by
        rintro ⟨name, named⟩
        simp [parsed] at named
      rw [registerAll_cons_of_error server parsed, List.forall_mem_cons]
      simp [nameless]

/-- Registering entries fails with the error of the first one that is not named. -/
theorem registerAll_eq_error_iff {server : MemoryServer} {error : NameError}
    {entries : List ResourceEntry} :
    registerAll server entries = .error error ↔
      ∃ before entry after, entries = before ++ entry :: after ∧
        (∀ earlier ∈ before, earlier.Named) ∧ ResourceName.parse entry.name = .error error := by
  induction entries generalizing server with
  | nil => simp [registerAll]
  | cons first rest ih =>
    cases parsed : ResourceName.parse first.name with
    | ok name =>
      rw [registerAll_cons_of_parse server parsed, ih]
      constructor
      · rintro ⟨before, entry, after, rfl, named, rejected⟩
        exact ⟨first :: before, entry, after, rfl, List.forall_mem_cons.2 ⟨⟨name, parsed⟩, named⟩,
          rejected⟩
      · rintro ⟨before, entry, after, split, named, rejected⟩
        cases before with
        | nil =>
          obtain ⟨rfl, _⟩ := List.cons.inj split
          simp [parsed] at rejected
        | cons head before =>
          obtain ⟨rfl, rfl⟩ := List.cons.inj split
          exact ⟨before, entry, after, rfl, (List.forall_mem_cons.1 named).2, rejected⟩
    | error found =>
      rw [registerAll_cons_of_error server parsed, Except.error.injEq]
      constructor
      · rintro rfl
        exact ⟨[], first, rest, rfl, by simp, parsed⟩
      · rintro ⟨before, entry, after, split, named, rejected⟩
        cases before with
        | nil =>
          obtain ⟨rfl, _⟩ := List.cons.inj split
          exact Except.error.inj (parsed.symm.trans rejected)
        | cons head before =>
          obtain ⟨rfl, _⟩ := List.cons.inj split
          obtain ⟨name, named⟩ := named first List.mem_cons_self
          simp [parsed] at named

end Snapshot

namespace MemoryServer

/-- Whatever is called, the server and the directory answer alike, and in the end the resources of
the server are the items of the directory in their order, with no two equal names among them. -/
structure Follows (start : MemoryServer) (directory : Directory) : Prop where
  answers : ∀ calls, (start.answerAll calls).2 = (directory.answerAll calls).2
  resources : ∀ calls,
    (start.answerAll calls).1.resources = (directory.answerAll calls).1.resources.items
  unequal : ∀ calls,
    (start.answerAll calls).1.resources.Pairwise fun a b => (a.name == b.name) = false
  represents : ∀ calls, (start.answerAll calls).1.Represents (directory.answerAll calls).1

theorem Represents.follows {start : MemoryServer} {directory : Directory}
    (represents : start.Represents directory) : start.Follows directory where
  answers calls := (represents.answerAll calls).2
  resources calls := (represents.answerAll calls).1.resources.items_eq.symm
  unequal calls := (represents.answerAll calls).1.unequal
  represents calls := (represents.answerAll calls).1

theorem represents_of_load {snapshot : Snapshot} {start : MemoryServer}
    (loaded : snapshot.load = .ok start) :
    start.Represents (Directory.empty.answerAll snapshot.registrations).1 := by
  obtain ⟨_, rfl⟩ := Snapshot.registerAll_eq_ok_iff.1 loaded
  exact (represents_empty.answerAll _).1

theorem Reachable.represents {server : MemoryServer} (reachable : server.Reachable) :
    ∃ directory, server.Represents directory := by
  obtain ⟨start, calls, fresh, rfl⟩ := reachable
  cases fresh with
  | new => exact ⟨_, (represents_empty.answerAll calls).1⟩
  | loaded loaded => exact ⟨_, ((represents_of_load loaded).answerAll calls).1⟩

end MemoryServer

/-- A server in memory is a map, in order of insertion, from names without the order of their
properties. Loading a snapshot comes down to registering its entries, up to the first bad name. -/
theorem server_follows_directory :
    MemoryServer.Follows {} .empty ∧
      ∀ snapshot : Snapshot,
        (∀ start, snapshot.load = .ok start →
          start.Follows (Directory.empty.answerAll snapshot.registrations).1) ∧
        (∀ start, snapshot.load = .ok start ↔
          (∀ entry ∈ snapshot.resources, entry.Named) ∧
            (MemoryServer.answerAll {} snapshot.registrations).1 = start) ∧
        ∀ error, snapshot.load = .error error ↔
          ∃ before entry after, snapshot.resources = before ++ entry :: after ∧
            (∀ earlier ∈ before, earlier.Named) ∧
              ResourceName.parse entry.name = .error error := by
  refine ⟨MemoryServer.represents_empty.follows, fun snapshot => ⟨?_, ?_, ?_⟩⟩
  · intro start loaded
    exact (MemoryServer.represents_of_load loaded).follows
  · intro start
    exact Snapshot.registerAll_eq_ok_iff
  · intro error
    exact Snapshot.registerAll_eq_error_iff

/-- The second of two entries with one name takes the place of the first, in its own written order. A
look-up under the other order sees the second one, and the first attribute of each name there. -/
theorem server_follows_directory_of_reordered :
    ∃ (snapshot : Snapshot) (start : MemoryServer) (directory : Directory)
      (calls : List ServerCall) (answers : List ServerAnswer),
      snapshot = ⟨[⟨"d:a=1,b=2", "A", [⟨"x", .integer 0⟩, ⟨"z", .null⟩]⟩, ⟨"d:c=3", "C", []⟩,
        ⟨"d:b=2,a=1", "B", [⟨"x", .integer 1⟩, ⟨"y", .null⟩, ⟨"x", .integer 2⟩]⟩]⟩ ∧
      snapshot.load = .ok start ∧
      start.resources = [⟨⟨"d", ⟨[("b", "2"), ("a", "1")]⟩⟩, "B",
        [⟨"x", .integer 1⟩, ⟨"y", .null⟩, ⟨"x", .integer 2⟩]⟩, ⟨⟨"d", ⟨[("c", "3")]⟩⟩, "C", []⟩] ∧
      directory = (Directory.empty.answerAll snapshot.registrations).1 ∧
      calls = [.attributeValues ⟨"d", ⟨[("a", "1"), ("b", "2")]⟩⟩ ["y", "x", "z", "y"],
        .attributeNames ⟨"d", ⟨[("a", "1"), ("b", "2")]⟩⟩,
        .className ⟨"d", ⟨[("a", "1"), ("b", "2")]⟩⟩, .className ⟨"d", ⟨[("a", "1")]⟩⟩] ∧
      answers = [.attributes (.ok [⟨"y", .null⟩, ⟨"x", .integer 1⟩, ⟨"y", .null⟩]),
        .texts (.ok ["x", "y", "x"]), .text (.ok "B"), .text (.error (.unknownResource "d:a=1"))] ∧
      (start.answerAll calls).2 = answers ∧ (directory.answerAll calls).2 = answers ∧
      start.Follows directory := by
  have loaded : Snapshot.load ⟨[⟨"d:a=1,b=2", "A", [⟨"x", .integer 0⟩, ⟨"z", .null⟩]⟩,
        ⟨"d:c=3", "C", []⟩,
        ⟨"d:b=2,a=1", "B", [⟨"x", .integer 1⟩, ⟨"y", .null⟩, ⟨"x", .integer 2⟩]⟩]⟩ =
      .ok { resources := [⟨⟨"d", ⟨[("b", "2"), ("a", "1")]⟩⟩, "B",
          [⟨"x", .integer 1⟩, ⟨"y", .null⟩, ⟨"x", .integer 2⟩]⟩,
        ⟨⟨"d", ⟨[("c", "3")]⟩⟩, "C", []⟩] } := by
    cbv
  have follows := (server_follows_directory.2 _).1 _ loaded
  have answered : (MemoryServer.answerAll
      { resources := [⟨⟨"d", ⟨[("b", "2"), ("a", "1")]⟩⟩, "B",
          [⟨"x", .integer 1⟩, ⟨"y", .null⟩, ⟨"x", .integer 2⟩]⟩,
        ⟨⟨"d", ⟨[("c", "3")]⟩⟩, "C", []⟩] }
      [.attributeValues ⟨"d", ⟨[("a", "1"), ("b", "2")]⟩⟩ ["y", "x", "z", "y"],
        .attributeNames ⟨"d", ⟨[("a", "1"), ("b", "2")]⟩⟩,
        .className ⟨"d", ⟨[("a", "1"), ("b", "2")]⟩⟩, .className ⟨"d", ⟨[("a", "1")]⟩⟩]).2 =
      [.attributes (.ok [⟨"y", .null⟩, ⟨"x", .integer 1⟩, ⟨"y", .null⟩]),
        .texts (.ok ["x", "y", "x"]), .text (.ok "B"),
        .text (.error (.unknownResource "d:a=1"))] := by
    cbv
  exact ⟨_, _, _, _, _, rfl, loaded, rfl, rfl, rfl, rfl, answered,
    (follows.answers _).symm.trans answered, follows⟩

end MetricQuery
