import Mathlib.Data.Finset.Card
import Mathlib.Data.List.Induction
import MetricQuery.Name.Distinct

namespace MetricQuery

section Classes

variable (α : Type) [BEq α] [EquivBEq α]

def equalityOf : Setoid α where
  r a b := (a == b) = true
  iseqv := ⟨fun _ => BEq.rfl, BEq.symm, BEq.trans⟩

/-- An item, of which only that is known to which items it is equal. -/
def EqualityClass : Type := Quotient (equalityOf α)

variable {α}

instance decidableEquality (a b : α) : Decidable ((equalityOf α).r a b) :=
  inferInstanceAs (Decidable ((a == b) = true))

instance : DecidableEq (EqualityClass α) :=
  inferInstanceAs (DecidableEq (Quotient (equalityOf α)))

def classOf (item : α) : EqualityClass α := Quotient.mk (equalityOf α) item

theorem classOf_eq_iff {a b : α} : classOf a = classOf b ↔ (a == b) = true :=
  ⟨Quotient.exact, fun equal => Quotient.sound equal⟩

/-- The classes of some items, each of them once. -/
def classes (items : List α) : Finset (EqualityClass α) := (items.map classOf).toFinset

theorem classOf_mem_classes {items : List α} {item : α} :
    classOf item ∈ classes items ↔ ∃ other ∈ items, (other == item) = true := by
  simp only [classes, List.mem_toFinset, List.mem_map, classOf_eq_iff]

theorem classes_append_singleton (items : List α) (item : α) :
    classes (items ++ [item]) = insert (classOf item) (classes items) := by
  ext equalityClass
  simp [classes]

/-- A hash set that is filled with the items has one element for each class. -/
theorem distinctCount_eq_card_classes [Hashable α] [LawfulHashable α] (items : List α) :
    distinctCount items = (classes items).card := by
  induction items using List.reverseRecOn with
  | nil => rfl
  | append_singleton items item ih =>
    have member : item ∈ Std.HashSet.ofList items ↔ classOf item ∈ classes items := by
      rw [Std.HashSet.mem_ofList, List.contains_iff_exists_mem_beq, classOf_mem_classes]
      simp only [BEq.comm]
    have inserted : Std.HashSet.ofList (items ++ [item]) = (Std.HashSet.ofList items).insert item := by
      rw [Std.HashSet.ofList_eq_insertMany_empty, Std.HashSet.ofList_eq_insertMany_empty,
        Std.HashSet.insertMany_append, Std.HashSet.insertMany_list_singleton]
    rw [distinctCount] at ih ⊢
    rw [inserted, Std.HashSet.size_insert, classes_append_singleton, Finset.card_insert_eq_ite, ih]
    simp only [member]

end Classes

/-- Of the items those are kept, in their order, that equal no earlier one. They stand at the given
places. -/
structure KeepsFirsts {α : Type} [BEq α] (items kept : List α) (places : List Nat) : Prop where
  increasing : places.Pairwise (· < ·)
  kept_at : places.map (items[·]?) = kept.map some
  unequal : kept.Pairwise fun a b => (a == b) = false
  first : ∀ item ∈ items, items.findIdx (· == item) ∈ places

/-- An item that equals none of those before it comes to stand behind them. -/
def addNew {α : Type} [BEq α] (kept : List α) (item : α) : List α :=
  if kept.contains item then kept else kept ++ [item]

theorem eraseDups_append_singleton {α : Type} [BEq α] [LawfulBEq α] (items : List α) (item : α) :
    (items ++ [item]).eraseDups = addNew items.eraseDups item := by
  rw [List.eraseDups_append, addNew]
  by_cases known : item ∈ items
  · have none : [item].removeAll items = [] := by simp [List.removeAll, known]
    rw [none, if_pos (by simpa using known)]
    exact List.append_nil _
  · have all : [item].removeAll items = [item] := by simp [List.removeAll, known]
    rw [all, if_neg (by simpa using known)]
    rfl

namespace KeepsFirsts

variable {α : Type} [BEq α] {items kept : List α} {places : List Nat}

theorem nil : KeepsFirsts ([] : List α) [] [] :=
  ⟨.nil, rfl, .nil, by simp⟩

theorem mem_of_mem (keeps : KeepsFirsts items kept places) {item : α} (member : item ∈ kept) :
    item ∈ items := by
  have found : some item ∈ places.map (items[·]?) := keeps.kept_at ▸ List.mem_map_of_mem member
  obtain ⟨place, _, here⟩ := List.mem_map.1 found
  exact List.mem_of_getElem? here

theorem lt_length (keeps : KeepsFirsts items kept places) {place : Nat} (member : place ∈ places) :
    place < items.length := by
  have found : items[place]? ∈ kept.map some :=
    keeps.kept_at ▸ List.mem_map_of_mem (f := (items[·]?)) member
  obtain ⟨item, _, here⟩ := List.mem_map.1 found
  exact (List.getElem?_eq_some_iff.1 here.symm).1

/-- Of every class the item is kept that comes first. -/
theorem exists_kept [EquivBEq α] (keeps : KeepsFirsts items kept places) {item : α}
    (member : item ∈ items) : ∃ other ∈ kept, (other == item) = true := by
  have exists_equal : ∃ other ∈ items, (other == item) = true := ⟨item, member, BEq.rfl⟩
  have before := List.findIdx_lt_length_of_exists exists_equal
  have found : some items[items.findIdx (· == item)] ∈ kept.map some := by
    rw [← keeps.kept_at]
    exact List.mem_map.2 ⟨_, keeps.first item member, List.getElem?_eq_getElem before⟩
  obtain ⟨other, isKept, same⟩ := List.mem_map.1 found
  refine ⟨other, isKept, ?_⟩
  rw [Option.some.inj same]
  exact List.findIdx_getElem (w := before)

theorem exists_equal_kept_iff [EquivBEq α] (keeps : KeepsFirsts items kept places) {item : α} :
    (∃ other ∈ kept, (other == item) = true) ↔ ∃ other ∈ items, (other == item) = true := by
  constructor
  · rintro ⟨other, isKept, equal⟩
    exact ⟨other, keeps.mem_of_mem isKept, equal⟩
  · rintro ⟨other, member, equal⟩
    obtain ⟨first, isKept, same⟩ := keeps.exists_kept member
    exact ⟨first, isKept, BEq.trans same equal⟩

theorem contains_iff [EquivBEq α] (keeps : KeepsFirsts items kept places) {item : α} :
    kept.contains item = true ↔ ∃ other ∈ items, (other == item) = true := by
  rw [← keeps.exists_equal_kept_iff, List.contains_iff_exists_mem_beq]
  simp only [BEq.comm]

theorem findIdx_append_of_mem [EquivBEq α] {item : α} (member : item ∈ items) (more : List α) :
    (items ++ more).findIdx (· == item) = items.findIdx (· == item) := by
  have before : items.findIdx (· == item) < items.length :=
    List.findIdx_lt_length_of_exists ⟨item, member, BEq.rfl⟩
  rw [List.findIdx_append, if_pos before]

theorem kept_at_append (keeps : KeepsFirsts items kept places) (more : List α) :
    places.map ((items ++ more)[·]?) = kept.map some := by
  rw [← keeps.kept_at]
  exact List.map_congr_left fun place member => List.getElem?_append_left (keeps.lt_length member)

theorem append_of_equal [EquivBEq α] (keeps : KeepsFirsts items kept places) {item other : α}
    (member : other ∈ items) (equal : (other == item) = true) :
    KeepsFirsts (items ++ [item]) kept places where
  increasing := keeps.increasing
  kept_at := keeps.kept_at_append [item]
  unequal := keeps.unequal
  first := by
    intro later inside
    rcases List.mem_append.1 inside with early | last
    · rw [findIdx_append_of_mem early]
      exact keeps.first later early
    · -- The item that is already there stands where the search for the new one ends.
      have sameTest : (· == item) = (· == other) := funext fun _ => (BEq.congr_right equal).symm
      rw [List.mem_singleton.1 last, sameTest, findIdx_append_of_mem member]
      exact keeps.first other member

theorem append_of_unequal [EquivBEq α] (keeps : KeepsFirsts items kept places) {item : α}
    (unequal : ∀ other ∈ items, (other == item) = false) :
    KeepsFirsts (items ++ [item]) (kept ++ [item]) (places ++ [items.length]) where
  increasing := by
    simp only [List.pairwise_append, List.pairwise_singleton, List.mem_singleton, true_and]
    exact ⟨keeps.increasing, fun place member _ same => same ▸ keeps.lt_length member⟩
  kept_at := by
    rw [List.map_append, keeps.kept_at_append]
    simp
  unequal := by
    simp only [List.pairwise_append, List.pairwise_singleton, List.mem_singleton, true_and]
    exact ⟨keeps.unequal, fun other member _ same => same ▸ unequal other (keeps.mem_of_mem member)⟩
  first := by
    intro later member
    rcases List.mem_append.1 member with early | last
    · rw [findIdx_append_of_mem early]
      exact List.mem_append_left _ (keeps.first later early)
    · rw [List.mem_singleton.1 last, List.findIdx_append]
      have absent : items.findIdx (· == item) = items.length :=
        List.findIdx_eq_length_of_false unequal
      simp [absent]

/-- One more item changes what is kept only if it is equal to none of the others. -/
theorem addNew [EquivBEq α] (keeps : KeepsFirsts items kept places) (item : α) :
    ∃ places', KeepsFirsts (items ++ [item]) (addNew kept item) places' := by
  rw [MetricQuery.addNew]
  split
  next known =>
    obtain ⟨other, member, equal⟩ := keeps.contains_iff.1 known
    exact ⟨places, keeps.append_of_equal member equal⟩
  next unknown =>
    refine ⟨_, keeps.append_of_unequal fun other member => Bool.eq_false_iff.2 fun equal => ?_⟩
    exact unknown (keeps.contains_iff.2 ⟨other, member, equal⟩)

theorem foldl [EquivBEq α] (keeps : KeepsFirsts items kept places) (more : List α) :
    ∃ places', KeepsFirsts (items ++ more) (more.foldl MetricQuery.addNew kept) places' := by
  induction more generalizing items kept places with
  | nil => exact ⟨places, by rwa [List.append_nil]⟩
  | cons item rest ih =>
    obtain ⟨middle, keepsMore⟩ := keeps.addNew item
    obtain ⟨final, keepsAll⟩ := ih keepsMore
    exact ⟨final, by rwa [List.append_assoc] at keepsAll⟩

/-- Duplicates are erased behind the first item of each class. -/
theorem eraseDups {α : Type} [BEq α] [LawfulBEq α] (items : List α) :
    ∃ places, KeepsFirsts items items.eraseDups places := by
  induction items using List.reverseRecOn with
  | nil => exact ⟨[], .nil⟩
  | append_singleton items item ih =>
    obtain ⟨places, keeps⟩ := ih
    rw [eraseDups_append_singleton]
    exact keeps.addNew item

theorem nodup [LawfulBEq α] (keeps : KeepsFirsts items kept places) : kept.Nodup :=
  keeps.unequal.imp beq_eq_false_iff_ne.1

/-- One item of each class is kept. -/
theorem length_eq_card_classes [EquivBEq α] (keeps : KeepsFirsts items kept places) :
    kept.length = (classes items).card := by
  have nodup : (kept.map classOf).Nodup := by
    rw [List.Nodup, List.pairwise_map]
    exact keeps.unequal.imp fun unequal same => by simp [classOf_eq_iff.1 same] at unequal
  have same : classes kept = classes items := by
    ext equalityClass
    induction equalityClass using Quotient.inductionOn with
    | h item =>
      exact classOf_mem_classes.trans
        (keeps.exists_equal_kept_iff.trans classOf_mem_classes.symm)
  rw [← same, classes, List.toFinset_card_of_nodup nodup, List.length_map]

end KeepsFirsts

end MetricQuery
