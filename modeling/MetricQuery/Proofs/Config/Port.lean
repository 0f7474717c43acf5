import MetricQuery.Proofs.Config.Editing
import MetricQuery.Proofs.Value.Integer

namespace MetricQuery

open Json

namespace ServerEntry

variable {literal : IntegerLiteral}

theorem port_literal_iff {room port : Nat} :
    Decoder.port room (.number literal.numeral) = .ok port ↔
      0 ≤ literal.value ∧ literal.value ≤ 65535 ∧ port = literal.value.toNat := by
  rw [Decoder.port_number_iff, literal.numeral_eq]
  constructor
  · rintro ⟨n, counted, low, high, same⟩
    obtain ⟨_, rfl⟩ := Numeral.read_ofInt_eq_integer_iff.1 counted
    exact ⟨low, high, same⟩
  · rintro ⟨low, high, same⟩
    exact ⟨_, Numeral.read_ofInt ⟨by omega, by omega⟩, low, high, same⟩

theorem findSome?_port_eq_none {before after : List Field} {port : Nat}
    (distinct : ((before ++ .port port :: after).map Field.name).Nodup) :
    before.findSome? Field.port? = none := by
  rw [List.findSome?_eq_none_iff]
  intro field held
  rw [List.map_append, List.map_cons, List.nodup_append] at distinct
  have other := distinct.2.2 field.name (List.mem_map_of_mem held) "port" List.mem_cons_self
  cases field with
  | port => exact absurd rfl other
  | _ => rfl

/-- What is built with another port is the same but for the port. -/
theorem build_port {before after : List Field} {port other : Nat} {entry : ServerEntry}
    (built : build (before ++ .port port :: after) = .ok entry)
    (distinct : ((before ++ .port port :: after).map Field.name).Nodup) :
    build (before ++ .port other :: after) = .ok { entry with port := other } := by
  have unset := findSome?_port_eq_none distinct
  simp only [build, List.findSome?_append, List.findSome?_cons, unset, Option.none_or,
    Field.host?, Field.port?, Field.displayName?, Field.queries?] at built ⊢
  split at built
  · cases built
  · cases built
  · rename_i host again hostGiven _
    obtain rfl := Except.ok.inj built
    rw [hostGiven]

/-- The second server has the literal for its port and is written like the first one in all else,
whatever the port of that is. -/
def PortSet (literal : IntegerLiteral) : Node → Node → Prop :=
  Node.FieldChanged (record.fields.map Prod.fst) "port" fun _ node => node = .number literal.numeral

variable {text other : String} {a b : Document} {entry changed : ServerEntry}

theorem parse_of_port (writes : a.Writes text) (writesOther : b.Writes other)
    (portSet : PortSet literal a.root b.root) (parsed : parse text = .ok entry)
    (low : 0 ≤ literal.value) (high : literal.value ≤ 65535) :
    parse other = .ok { entry with port := literal.value.toNat } := by
  rw [parse, writes.decode_iff, Record.decoder_iff writes.sound.root] at parsed
  obtain ⟨wide, found, finds, built⟩ := parsed
  obtain ⟨one, node, rfl, _, _, before, field, after, rfl, here, others⟩ :=
    finds.exchange orderless.distinct rfl portSet writes.sound.root writesOther.sound.root
  obtain ⟨old, _, rfl⟩ := Decoder.map_eq_ok_iff.1 here
  have read : Decoder.port (fullRoom - 1) (.number literal.numeral) = .ok literal.value.toNat :=
    port_literal_iff.2 ⟨low, high, rfl⟩
  have again := others (.port literal.value.toNat) (Decoder.map_eq_ok_iff.2 ⟨_, read, rfl⟩)
  have distinct := orderless.nodup_kinds finds
  rw [List.map_append, List.map_cons] at built distinct
  rw [parse, writesOther.decode_iff, Record.decoder_iff writesOther.sound.root]
  refine ⟨wide, _, again, ?_⟩
  rw [List.map_append, List.map_cons]
  exact build_port built distinct

theorem range_of_parse (writes : a.Writes text) (writesOther : b.Writes other)
    (portSet : PortSet literal a.root b.root) (parsed : parse other = .ok changed) :
    0 ≤ literal.value ∧ literal.value ≤ 65535 := by
  rw [parse, writesOther.decode_iff, Record.decoder_iff writesOther.sound.root] at parsed
  obtain ⟨_, found, finds, _⟩ := parsed
  have back : b.root.FieldChanged (record.fields.map Prod.fst) "port"
      (fun node _ => node = .number literal.numeral) a.root := Node.FieldChanged.flip portSet id
  obtain ⟨one, _, rfl, _, _, _, _, _, _, here, _⟩ :=
    finds.exchange orderless.distinct rfl back writesOther.sound.root writes.sound.root
  obtain ⟨port, read, _⟩ := Decoder.map_eq_ok_iff.1 here
  obtain ⟨low, high, _⟩ := port_literal_iff.1 read
  exact ⟨low, high⟩

/-- A server is accepted with the literal for its port if that is in range. -/
theorem parse_port_iff (writes : a.Writes text) (writesOther : b.Writes other)
    (portSet : PortSet literal a.root b.root) (parsed : parse text = .ok entry) :
    parse other = .ok changed ↔ 0 ≤ literal.value ∧ literal.value ≤ 65535 ∧
      changed = { entry with port := literal.value.toNat } := by
  constructor
  · intro accepted
    obtain ⟨low, high⟩ := range_of_parse writes writesOther portSet accepted
    have same := parse_of_port writes writesOther portSet parsed low high
    exact ⟨low, high, Except.ok.inj (accepted.symm.trans same)⟩
  · rintro ⟨low, high, rfl⟩
    exact parse_of_port writes writesOther portSet parsed low high

end ServerEntry

/-- A whole number of any length is read exactly or not as a whole number at all. As a value it is
kept if it fits in 64 bits with a sign, and then it is shown and written as it was given; otherwise
it becomes a float or is too large for one. As the port of a server it is accepted if it fits in 16
bits without a sign, and then it is the port. -/
theorem integer_literals_are_exact (literal : IntegerLiteral) :
    (Value.parse literal.text = .ok (.integer literal.value) ↔
        -2 ^ 63 ≤ literal.value ∧ literal.value ≤ 2 ^ 63 - 1) ∧
      (∀ n, Value.parse literal.text = .ok (.integer n) → n = literal.value ∧
        (Value.integer n).display = literal.text ∧ (Value.integer n).write = literal.text) ∧
      (¬(-2 ^ 63 ≤ literal.value ∧ literal.value ≤ 2 ^ 63 - 1) →
        (∃ x, Value.parse literal.text = .ok (.real x)) ∨
          ∃ error, Value.parse literal.text = .error error ∧ error.problem = .numberTooLarge) ∧
      ∀ (text other : String) (a b : Document) (entry changed : ServerEntry), a.Writes text →
        b.Writes other → ServerEntry.PortSet literal a.root b.root →
          ServerEntry.parse text = .ok entry →
            (ServerEntry.parse other = .ok changed ↔ 0 ≤ literal.value ∧ literal.value ≤ 65535 ∧
              changed = { entry with port := literal.value.toNat }) := by
  refine ⟨Value.parse_literal_iff, ?_, Value.readInexactly_of_not_fits, ?_⟩
  · intro n parsed
    by_cases fits : Value.FitsSigned literal.value
    · have same := parsed.symm.trans (Value.parse_literal_of_fits fits)
      obtain rfl := Value.integer.inj (Except.ok.inj same)
      exact ⟨rfl, Value.display_literal literal, Value.write_literal literal⟩
    · exact absurd parsed ((Value.readInexactly_of_not_fits fits).ne_integer n)
  · intro text other a b entry changed writes writesOther portSet parsed
    exact ServerEntry.parse_port_iff writes writesOther portSet parsed

/-- The least number that is kept, one that is just too large, the largest port and one past it. -/
theorem integer_literals_are_exact_of_limits :
    Value.parse "-9223372036854775808" = .ok (.integer (-9223372036854775808)) ∧
      (∀ n, Value.parse "9223372036854775808" ≠ .ok (.integer n)) ∧
      ServerEntry.parse "[\"h\",65535]" = .ok ⟨"h", 65535, none, []⟩ ∧
      ∀ entry, ServerEntry.parse "[\"h\",65536]" ≠ .ok entry := by
  have least := (integer_literals_are_exact (.ofInt (-9223372036854775808))).1
  have past := integer_literals_are_exact (.ofInt 9223372036854775808)
  have largest := (integer_literals_are_exact (.ofInt 65535)).2.2.2
  have beyond := (integer_literals_are_exact (.ofInt 65536)).2.2.2
  simp only [IntegerLiteral.text_ofInt, IntegerLiteral.value_ofInt] at least past largest beyond
  have parsed : ServerEntry.parse "[\"h\",1]" = .ok ⟨"h", 1, none, []⟩ := by cbv
  refine ⟨least.2 (by decide), fun n read => ?_, ?_, fun entry read => ?_⟩
  · obtain ⟨rfl, _⟩ := past.2.1 n read
    exact absurd (past.1.1 read) (by decide)
  · refine (largest _ _ _ _ _ _ (.of_skip ?_ ?_) (.of_skip ?_ ?_) ?_ parsed).2
      ⟨by decide, by decide, rfl⟩ <;> cbv
    exact @Node.FieldChanged.array _ _ _ _ _ [_] [] _ _ rfl rfl rfl rfl
  · have range := (beyond _ _ _ _ _ _ (.of_skip ?_ ?_) (.of_skip ?_ ?_) ?_ parsed).1 read
    · exact absurd range.2.1 (by decide)
    all_goals cbv
    exact @Node.FieldChanged.array _ _ _ _ _ [_] [] _ _ rfl rfl rfl rfl

end MetricQuery
