import MetricQuery.Proofs.Name.Distinct
import MetricQuery.Proofs.Server.Refinement

namespace MetricQuery

/-- The entry describes the resource. -/
structure ResourceEntry.Describes (entry : ResourceEntry) (resource : Resource) : Prop where
  name : ResourceName.parse entry.name = .ok resource.name
  className : entry.className = resource.className
  attributes : entry.attributes = resource.attributes

theorem ResourceEntry.Named.exists_describes {entry : ResourceEntry} (named : entry.Named) :
    ∃ resource, entry.Describes resource := by
  obtain ⟨name, parsed⟩ := named
  exact ⟨⟨name, entry.className, entry.attributes⟩, parsed, rfl, rfl⟩

/-- Of every name the last resource is kept, in the order in which the names come up first. -/
structure KeepsLatest (given kept : List Resource) : Prop where
  order : kept.map Resource.identity = (given.map Resource.identity).eraseDups
  latest : ∀ resource ∈ kept, ∃ earlier later, given = earlier ++ resource :: later ∧
    ∀ other ∈ later, (other.name == resource.name) = false

namespace KeepsLatest

variable {given kept : List Resource}

theorem nil : KeepsLatest [] [] := ⟨rfl, by simp⟩

/-- Registering one resource more keeps it, in place of the one with its name or else at the end. -/
theorem place (keeps : KeepsLatest given kept) (distinct : (kept.map Resource.identity).Nodup)
    (resource : Resource) :
    KeepsLatest (given ++ [resource]) (MemoryServer.place resource kept) where
  order := by
    rw [MemoryServer.map_identity_place, List.map_append, List.map_singleton,
      eraseDups_append_singleton, ← keeps.order, addNew]
    simp only [List.contains_iff_mem]
  latest := by
    intro other member
    rcases MemoryServer.mem_place distinct member with rfl | ⟨held, apart⟩
    · exact ⟨given, [], rfl, by simp⟩
    · obtain ⟨earlier, later, rfl, unequal⟩ := keeps.latest other held
      refine ⟨earlier, later ++ [resource], by simp, List.forall_mem_append.2 ⟨unequal, ?_⟩⟩
      rw [List.forall_mem_singleton, MemoryServer.name_beq_eq, decide_eq_false_iff_not]
      exact Ne.symm apart

end KeepsLatest

namespace MemoryServer

variable {server : MemoryServer} {directory : Directory}

theorem answer_registration_resources {entry : ResourceEntry} {resource : Resource}
    (describes : entry.Describes resource) :
    (server.answer entry.registration).1.resources = place resource server.resources := by
  obtain ⟨parsed, className, attributes⟩ := describes
  simp only [ResourceEntry.registration, answer, register, parsed, className, attributes]
  rfl

theorem Represents.keepsLatest (represents : server.Represents directory)
    {entries : List ResourceEntry} {given more : List Resource}
    (keeps : KeepsLatest given server.resources)
    (describe : List.Forall₂ ResourceEntry.Describes entries more) :
    KeepsLatest (given ++ more)
      (server.answerAll (entries.map ResourceEntry.registration)).1.resources := by
  induction describe generalizing server directory given with
  | nil =>
    rw [List.append_nil]
    exact keeps
  | @cons entry resource entries more here _ ih =>
    have placed := keeps.place represents.resources.nodup resource
    rw [← answer_registration_resources here] at placed
    have later := ih (represents.answer entry.registration).1 placed
    rw [List.append_assoc] at later
    exact later

end MemoryServer

/-- A loaded server holds the latest resource of every name. -/
theorem Snapshot.keepsLatest_of_load {snapshot : Snapshot} {server : MemoryServer}
    (loaded : snapshot.load = .ok server) :
    ∃ given, List.Forall₂ ResourceEntry.Describes snapshot.resources given ∧
      KeepsLatest given server.resources := by
  obtain ⟨named, rfl⟩ := Snapshot.registerAll_eq_ok_iff.1 loaded
  obtain ⟨given, describe⟩ := exists_forall₂_iff.2 fun entry listed =>
    (named entry listed).exists_describes
  exact ⟨given, describe, MemoryServer.represents_empty.keepsLatest .nil describe⟩

end MetricQuery
