import Mathlib.Data.List.Infix
import MetricQuery.Proofs.Name.Meaning
import MetricQuery.Proofs.Naming.Key
import MetricQuery.Proofs.Query.Building

namespace MetricQuery

theorem Accepted.eq_of_literal {pattern text : String} (accepted : Accepted pattern text)
    (literal : Literal pattern) : text = pattern := by
  cases accepted with
  | literal => rfl
  | glob other => exact absurd literal other

/-- Of the same keys, the listed values are the same texts if they are the same value by value. -/
theorem Properties.filterMap_get?_eq_iff {a b : Properties}
    (keys : ∀ key, key ∈ a.keys ↔ key ∈ b.keys) (names : List String) :
    names.filterMap a.get? = names.filterMap b.get? ↔ ∀ name ∈ names, a.get? name = b.get? name := by
  induction names with
  | nil => simp
  | cons name rest ih =>
    rw [List.forall_mem_cons, ← ih, List.filterMap_cons, List.filterMap_cons]
    have both : a.get? name = none ↔ b.get? name = none := by
      rw [get?_eq_none_iff, get?_eq_none_iff, keys]
    cases foundA : a.get? name with
    | none => simp [both.1 foundA]
    | some valueA =>
      obtain ⟨valueB, foundB⟩ := Option.ne_none_iff_exists'.1 (mt both.2 (by simp [foundA]))
      simp [foundB]

namespace NamePattern.Embraces

variable {pattern : NamePattern} {a b : ResourceName}

theorem keys_iff (embracesA : pattern.Embraces a) (embracesB : pattern.Embraces b)
    (closed : pattern.openEnded = false) (key : String) :
    key ∈ a.properties.keys ↔ key ∈ b.properties.keys := by
  rw [embracesA.keys closed, embracesB.keys closed]

/-- Two names under a closed pattern have the same value wherever the pattern has no wildcard. -/
theorem get?_eq_of_tame (embracesA : pattern.Embraces a) (embracesB : pattern.Embraces b)
    (closed : pattern.openEnded = false) {key : String}
    (tame : ∀ expected, pattern.properties.get? key = some expected →
      hasWildcard expected.toList = false) :
    a.properties.get? key = b.properties.get? key := by
  cases entry : pattern.properties.get? key with
  | none =>
    have absent := Properties.get?_eq_none_iff.1 entry
    rw [Properties.get?_eq_none_iff.2 (mt (embracesA.keys closed key).1 absent),
      Properties.get?_eq_none_iff.2 (mt (embracesB.keys closed key).1 absent)]
  | some expected =>
    have literal := hasWildcard_eq_false_iff.1 (tame expected entry)
    obtain ⟨actualA, foundA, acceptedA⟩ := embracesA.values key expected entry
    obtain ⟨actualB, foundB, acceptedB⟩ := embracesB.values key expected entry
    rw [foundA, foundB, acceptedA.eq_of_literal literal, acceptedB.eq_of_literal literal]

/-- Where the wildcards of a pattern are values under listed keys, two names differ in a listed
value or not at all. -/
theorem beq_iff_listed (embracesA : pattern.Embraces a) (embracesB : pattern.Embraces b)
    (distinct : pattern.properties.keys.Nodup) (distinctA : a.properties.keys.Nodup)
    (distinctB : b.properties.keys.Nodup) (closed : pattern.openEnded = false)
    (domain : hasWildcard pattern.domain.toList = false)
    {names : List String}
    (wild : ∀ entry ∈ pattern.properties.entries,
      hasWildcard entry.2.toList = true → entry.1 ∈ names) :
    (a == b) = true ↔ ∀ name ∈ names, a.properties.get? name = b.properties.get? name := by
  have literal := hasWildcard_eq_false_iff.1 domain
  have domains : a.domain = b.domain :=
    (embracesA.domain.eq_of_literal literal).trans (embracesB.domain.eq_of_literal literal).symm
  rw [ResourceName.beq_iff, and_iff_right domains, Properties.perm_iff_get? distinctA distinctB]
  constructor
  · intro same name _
    exact same name
  · intro same key
    by_cases listed : key ∈ names
    · exact same key listed
    · refine embracesA.get?_eq_of_tame embracesB closed fun expected entry => ?_
      rw [← Bool.not_eq_true]
      have written := (Properties.get?_eq_some_iff distinct).1 entry
      exact mt (wild (key, expected) written) listed

end NamePattern.Embraces

namespace Query

/-- Every key under which the pattern has a wildcard is listed. -/
def ListsWild (query : Query) : Prop :=
  ∀ entry ∈ query.pattern.properties.entries,
    hasWildcard entry.2.toList = true → entry.1 ∈ query.typeNames

instance (query : Query) : Decidable query.ListsWild :=
  inferInstanceAs (Decidable (∀ _ ∈ _, _))

/-- No listed value of the name contains the separator. -/
def Separates (query : Query) (name : ResourceName) : Prop :=
  ∀ key ∈ query.typeNames, ∀ value ∈ name.properties.get? key,
    ¬query.separator.toList <:+: value.toList

instance (query : Query) (name : ResourceName) : Decidable (query.Separates name) :=
  inferInstanceAs (Decidable (∀ _ ∈ _, ∀ _ ∈ _, _))

theorem Separates.not_mem {query : Query} {name : ResourceName} (separates : query.Separates name)
    {mark : Char} (single : query.separator.toList = [mark]) :
    ∀ part ∈ query.typeNames.filterMap name.properties.get?, mark ∉ part.toList := by
  intro part member
  obtain ⟨key, listed, found⟩ := List.mem_filterMap.1 member
  have free := separates key listed part found
  rwa [single, List.singleton_infix_iff] at free

/-- The fragments of two names with the same keys tell their listed values apart. -/
theorem fragment_eq_iff {query : Query} (listed : query.allTypeNames = false) {a b : ResourceName}
    (keys : ∀ key, key ∈ a.properties.keys ↔ key ∈ b.properties.keys)
    (separatesA : query.Separates a) (separatesB : query.Separates b) :
    query.naming.fragment a.properties none = query.naming.fragment b.properties none ↔
      ∀ name ∈ query.typeNames, a.properties.get? name = b.properties.get? name := by
  obtain ⟨mark, single⟩ := query.toList_separator
  have empty : query.typeNames.filterMap a.properties.get? = [] ↔
      query.typeNames.filterMap b.properties.get? = [] := by
    simp only [List.filterMap_eq_nil_iff, Properties.get?_eq_none_iff, keys]
  rw [fragment_of_listed listed, fragment_of_listed listed,
    intercalate_eq_iff single (separatesA.not_mem single) (separatesB.not_mem single) empty,
    Properties.filterMap_get?_eq_iff keys]

end Query

/-- If all wildcards of a closed pattern are values under listed keys, then samples that share their
prefix and their attribute have the same key exactly when they are of the same resource. -/
theorem keys_apart_of_listsWild {query : Query} (built : query.Built)
    (closed : query.pattern.openEnded = false)
    (domain : hasWildcard query.pattern.domain.toList = false)
    (listed : query.allTypeNames = false) (wild : query.ListsWild)
    {s t : String} {first second : Reading}
    (parsedFirst : ResourceName.parse s = .ok first.resource)
    (parsedSecond : ResourceName.parse t = .ok second.resource)
    (coversFirst : query.pattern.covers first.resource = true)
    (coversSecond : query.pattern.covers second.resource = true)
    (separatesFirst : query.Separates first.resource)
    (separatesSecond : query.Separates second.resource)
    {one other : Sample} (made : one ∈ first.samples query) (madeOther : other ∈ second.samples query)
    (attributes : one.attributeName = other.attributeName)
    (prefixes : one.keyPrefix = other.keyPrefix) :
    one.key query.separator = other.key query.separator ↔
      (first.resource == second.resource) = true := by
  obtain ⟨text, parsed⟩ := built.parse_pattern
  have distinct := NamePattern.keys_nodup_of_parse parsed
  have distinctFirst := ResourceName.keys_nodup_of_parse parsedFirst
  have distinctSecond := ResourceName.keys_nodup_of_parse parsedSecond
  have embracesFirst := (NamePattern.covers_iff_embraces distinct distinctFirst).1 coversFirst
  have embracesSecond := (NamePattern.covers_iff_embraces distinct distinctSecond).1 coversSecond
  obtain ⟨whole, fragment⟩ := Reading.mem_samples made
  obtain ⟨wholeOther, fragmentOther⟩ := Reading.mem_samples madeOther
  have keys := embracesFirst.keys_iff embracesSecond closed
  calc one.key query.separator = other.key query.separator
      ↔ one.keyFragment = other.keyFragment :=
        Sample.key_eq_iff whole wholeOther prefixes attributes query.separator
    _ ↔ query.naming.fragment first.resource.properties none =
          query.naming.fragment second.resource.properties none := by
        rw [fragment, fragmentOther]
    _ ↔ ∀ name ∈ query.typeNames,
          first.resource.properties.get? name = second.resource.properties.get? name :=
        Query.fragment_eq_iff listed keys separatesFirst separatesSecond
    _ ↔ (first.resource == second.resource) = true :=
        (embracesFirst.beq_iff_listed embracesSecond distinct distinctFirst distinctSecond closed
          domain wild).symm

/-- A listed name that nothing has, and a resource in two written orders. -/
theorem keys_apart_of_listsWild_of_reordered :
    ∃ (query : Query) (one other : Sample),
      (Draft.build ⟨[]⟩ { pattern := "d:a=*,b=?,c=x", typeNames := ["b", "z", "a"] }).result =
          .ok query ∧
        query = ⟨⟨"d", ⟨[("a", "*"), ("b", "?"), ("c", "x")]⟩, false⟩, [], [], ["b", "z", "a"], none,
          false, false, false, [], []⟩ ∧
        Reading.samples query
          ⟨⟨"d", ⟨[("a", "1"), ("b", "y"), ("c", "x")]⟩⟩, "C", "d", [⟨"n", .null⟩], 0⟩ = [one] ∧
        Reading.samples query
          ⟨⟨"d", ⟨[("c", "x"), ("b", "y"), ("a", "1")]⟩⟩, "C", "d", [⟨"n", .null⟩], 0⟩ = [other] ∧
        one = ⟨"n", "C", "d", "a=1,b=y,c=x", "C", "y_1", [], .null, 0⟩ ∧
        other = ⟨"n", "C", "d", "c=x,b=y,a=1", "C", "y_1", [], .null, 0⟩ ∧
        one.key query.separator = "C_y_1_n" ∧ other.key query.separator = "C_y_1_n" ∧
        ((⟨"d", ⟨[("a", "1"), ("b", "y"), ("c", "x")]⟩⟩ : ResourceName) ==
          ⟨"d", ⟨[("c", "x"), ("b", "y"), ("a", "1")]⟩⟩) = true := by
  have built : (Draft.build ⟨[]⟩
      { pattern := "d:a=*,b=?,c=x", typeNames := ["b", "z", "a"] }).result =
        .ok ⟨⟨"d", ⟨[("a", "*"), ("b", "?"), ("c", "x")]⟩, false⟩, [], [], ["b", "z", "a"], none,
          false, false, false, [], []⟩ := by
    cbv
  have same := @keys_apart_of_listsWild _ ⟨_, _, built⟩ rfl (by cbv) rfl (by decide)
    "d:a=1,b=y,c=x" "d:c=x,b=y,a=1"
    ⟨⟨"d", ⟨[("a", "1"), ("b", "y"), ("c", "x")]⟩⟩, "C", "d", [⟨"n", .null⟩], 0⟩
    ⟨⟨"d", ⟨[("c", "x"), ("b", "y"), ("a", "1")]⟩⟩, "C", "d", [⟨"n", .null⟩], 0⟩
    rfl rfl (by cbv) (by cbv) (by decide) (by decide) _ _ List.mem_cons_self List.mem_cons_self
    rfl rfl
  refine ⟨_, _, _, built, rfl, rfl, rfl, ?_, ?_, ?_, ?_, same.1 ?_⟩
  · cbv
  · cbv
  · cbv
  · cbv
  · cbv

end MetricQuery
