import QueryBind.Proofs.Binding.Effect
import QueryBind.Proofs.Params.Selection
import QueryBind.Proofs.Transform.Sequence

/-! # Parameter sets of one shape

The shape of a parameter set says how many values there are and under which keys. Two sets of one
shape that can be bound to a query are bound to the same markers, by the same look into the cache
(`ServerBinding.convert_alike`, `ClientBinding.convert_alike`). As many parameters are sent for
either, unless values are missing that were never there (`Params.SamePresence`).
-/

namespace QueryBind

namespace Params

/-- What a parameter set shows without its values. -/
inductive Shape where
  | sequence (length : Nat)
  | mapping (keys : List Value)

namespace Shape

/-- The number of values in a set of this shape. -/
def size : Shape → Nat
  | .sequence length => length
  | .mapping keys => keys.length

/-- Sequences of one length have the same shape, and so have mappings with the same keys, in
whatever order. -/
inductive Same : Shape → Shape → Prop
  | sequence (length : Nat) : Same (.sequence length) (.sequence length)
  | mapping {keys others : List Value} (same : keys.Perm others) :
      Same (.mapping keys) (.mapping others)

private theorem Same.size_eq {shape other : Shape} (same : shape.Same other) :
    shape.size = other.size := by
  cases same with
  | sequence length => rfl
  | mapping same => exact same.length_eq

end Shape

/-- The shape of a value, if it holds parameters. -/
def shape? : Value → Option Shape
  | .list items => some (.sequence items.length)
  | .selfList => some (.sequence 1)
  | .map entries => some (.mapping (entries.map (·.1)))
  | other => other.plainFields?.map fun fields => .mapping (fields.map fun field => .text field.1)

/-- Two parameter sets have one shape. -/
def SameShape (first second : Value) : Prop :=
  ∃ shape other, shape? first = some shape ∧ shape? second = some other ∧ shape.Same other

private theorem isNull_of_shape? {params : Value} {shape : Shape}
    (shown : shape? params = some shape) : params.isNull = false := by
  cases params with
  | undefined | hole | null => cases shown
  | _ => rfl

private theorem paramCount_of_shape? {params : Value} {shape : Shape}
    (shown : shape? params = some shape) : params.paramCount = shape.size := by
  cases params with
  | list items | selfList =>
      cases shown
      rfl
  | map entries =>
      cases shown
      exact (List.length_map _).symm
  | record fields | bareRecord fields =>
      cases shown
      exact (List.length_map _).symm
  | selfRecord =>
      cases shown
      rfl
  | _ => cases shown

section SameShape

variable {first second : Value} (same : SameShape first second)

include same

private theorem SameShape.isNull : first.isNull = false ∧ second.isNull = false := by
  obtain ⟨_, _, shown, shownToo, -⟩ := same
  exact ⟨isNull_of_shape? shown, isNull_of_shape? shownToo⟩

/-- The converter is told the same number of parameters. -/
theorem SameShape.countOf_eq : Ground.countOf first = Ground.countOf second := by
  obtain ⟨_, _, shown, shownToo, alike⟩ := same
  unfold Ground.countOf
  rw [paramCount_of_shape? shown, paramCount_of_shape? shownToo, alike.size_eq]

end SameShape

/-- The values that a parameter set holds. -/
def held : Value → List Value
  | .list items => items
  | .selfList => [.selfList]
  | .map entries => entries.map (·.2)
  | other => (other.plainFields?.getD []).map (·.2)

/-- As many values are there in two parameter sets of one shape: in two lists with as many items
that are there, or in any two sets in which nothing is missing. -/
inductive SamePresence : Value → Value → Prop
  | lists {items others : List Value}
    (same : (Value.present items).length = (Value.present others).length) :
    SamePresence (.list items) (.list others)
  | gapless {first second : Value} (whole : Value.Gapless (held first))
    (wholeToo : Value.Gapless (held second)) : SamePresence first second

/-- A value that is in a mapping was put last or was there before. -/
theorem mem_of_put {entries : List (Text.Wide × Value)} {name : Text.Wide} {value : Value}
    {entry : Text.Wide × Value} (among : entry ∈ put entries name value) :
    entry.2 = value ∨ entry ∈ entries := by
  unfold put at among
  split at among
  · obtain ⟨old, before, rfl⟩ := List.mem_map.mp among
    split
    · exact .inl rfl
    · exact .inr before
  · rcases List.mem_append.mp among with before | new
    · exact .inr before
    · rw [List.mem_singleton.mp new]
      exact .inl rfl

/-- An entry was there before, or its value was added. -/
theorem mem_of_putAll {entries all : List (Text.Wide × Value)} {added : List (Value × Value)}
    (came : putAll entries added = .ok all) {entry : Text.Wide × Value} (among : entry ∈ all) :
    entry ∈ entries ∨ entry.2 ∈ added.map (·.2) := by
  induction added generalizing entries with
  | nil =>
      cases came
      exact .inl among
  | cons first rest ih =>
      obtain ⟨key, value⟩ := first
      rw [putAll] at came
      split at came
      · rcases ih came with before | behind
        · rcases mem_of_put before with same | before
          · exact .inr (same ▸ List.mem_cons_self)
          · exact .inl before
        · exact .inr (List.mem_cons_of_mem _ behind)
      · cases came

/-- What is taken from a mapping is among its values. -/
theorem exists_mem_of_valuesFor {scan : Scan} {order : Option (List String)}
    {entries : List (Text.Wide × Value)} {values : List Value}
    (chosen : valuesFor scan order (.mapping entries) = .ok values) {value : Value}
    (among : value ∈ values) : ∃ entry ∈ entries, entry.2 = value := by
  rw [valuesFor] at chosen
  split at chosen
  · cases chosen
  · dsimp only at chosen
    split at chosen
    · next found =>
        cases chosen
        generalize order.getD [] = names at found
        have each := select?_eq_some_iff.mp found
        clear found
        induction each with
        | nil => cases among
        | cons stored _ ih =>
            rcases List.mem_cons.mp among with rfl | behind
            · obtain ⟨_, _, same, _⟩ := List.lookup_eq_some_iff.mp stored
              exact ⟨_, same ▸ List.mem_append_right _ List.mem_cons_self, rfl⟩
            · exact ih behind
    · cases chosen

/-- What is taken from parameters is among the values that they hold. -/
theorem mem_held_of_bind {scan : Scan} {order : Option (List String)} {params : Value}
    {values : List Value} (bound : bind scan order params = .ok values) {value : Value}
    (among : value ∈ values) : value ∈ held params := by
  unfold bind at bound
  split at bound
  · next found taken =>
      have chosen := Outcome.mapError_eq_ok.mp bound
      cases found with
      | sequence items =>
          obtain rfl := values_of_sequence chosen
          unfold ofValue at taken
          split at taken
          · cases taken
            exact among
          · cases taken
            exact among
          · obtain ⟨_, _, other⟩ := Outcome.map_eq_ok.mp taken
            cases other
          · split at taken
            · cases taken
            · cases taken
      | mapping entries =>
          obtain ⟨entry, stored, rfl⟩ := exists_mem_of_valuesFor chosen among
          unfold ofValue at taken
          split at taken
          · cases taken
          · cases taken
          · obtain ⟨all, put, same⟩ := Outcome.map_eq_ok.mp taken
            cases same
            exact (mem_of_putAll put stored).resolve_left List.not_mem_nil
          · next notList notSelf notMap =>
              split at taken
              · next fields plain =>
                  cases taken
                  obtain ⟨field, member, rfl⟩ := List.mem_map.mp stored
                  have keeps : held params = fields.map (·.2) := by
                    cases params with
                    | list items => exact absurd rfl (notList items)
                    | selfList => exact absurd rfl notSelf
                    | map entries => exact absurd rfl (notMap entries)
                    | _ => simp [held, plain]
                  rw [keeps]
                  exact List.mem_map_of_mem member
              · cases taken
  · cases bound

/-- As many of the values that are taken are there. -/
theorem SamePresence.length_present {first second : Value} (presence : SamePresence first second)
    {scan : Scan} {order : Option (List String)} {values others : List Value}
    (bound : bind scan order first = .ok values) (boundToo : bind scan order second = .ok others)
    (same : values.length = others.length) :
    (Value.present values).length = (Value.present others).length := by
  cases presence with
  | lists equal =>
      rwa [values_of_sequence (Outcome.mapError_eq_ok.mp bound),
        values_of_sequence (Outcome.mapError_eq_ok.mp boundToo)] at equal
  | gapless whole wholeToo =>
      rw [Value.length_present_eq_iff.mpr fun value among =>
          whole value (mem_held_of_bind bound among),
        Value.length_present_eq_iff.mpr fun value among =>
          wholeToo value (mem_held_of_bind boundToo among)]
      exact same

end Params

/-! ## Conversions that succeed -/

section Convert

variable {ground left : Ground} {encoding : String} {query params : Value}

private theorem ServerBinding.convert_eq_ok {binding next : ServerBinding}
    (present : params.isNull = false)
    (came : binding.convert ground encoding query params = (.ok (), next, left)) :
    ∃ bytes found converter dumped dumper,
      Ground.queryBytes ground.dumper.transformer encoding query params = .ok bytes ∧
        ground.converter.parseServer bytes encoding (Ground.countOf params) =
          (.ok found, converter) ∧
        dumpParams ground.dumper found.query params = (.ok dumped, dumper) ∧
        next = hold { binding with query := found.query.query, parsed := some found.query } dumped ∧
        left = ⟨converter, dumper⟩ := by
  unfold convert at came
  split at came
  · cases came
  next bytes given =>
    split at came
    · next absent =>
        rw [present] at absent
        cases absent
    split at came
    · cases came
    next found converter parsed =>
      split at came
      · cases came
      next dumped dumper dumps =>
        cases came
        exact ⟨bytes, found, converter, dumped, dumper, given, parsed, dumps, rfl, rfl⟩

private theorem ClientBinding.convert_eq_ok {binding next : ClientBinding}
    (present : params.isNull = false)
    (came : binding.convert ground encoding query params = (.ok (), next, left)) :
    ∃ bytes found converter,
      Ground.queryBytes ground.dumper.transformer encoding query params = .ok bytes ∧
        ground.converter.parseClient bytes encoding (Ground.countOf params) =
          (.ok found, converter) ∧
        left = { ground with converter } := by
  unfold convert at came
  split at came
  · cases came
  next bytes given =>
    split at came
    · next absent =>
        rw [present] at absent
        cases absent
    split at came
    · cases came
    next found converter parsed =>
      split at came
      · cases came
      · cases came
        exact ⟨bytes, found, converter, given, parsed, rfl⟩

end Convert

namespace ServerBinding

/-- The text transformer dumps one parameter for every value that is there. -/
theorem dumpParams_eq_ok {dumper left : Dumper} {name : String}
    (own : dumper.transformer = .text name) {parsed : ServerQuery} {params : Value} {dumped : Dump}
    (came : dumpParams dumper parsed params = (.ok dumped, left)) :
    ∃ values, Params.bind parsed.scan parsed.order params = .ok values ∧
      values.length = parsed.formats.length ∧
      dumped.outputs.length = (Value.present values).length := by
  unfold dumpParams at came
  split at came
  · next values bound =>
      unfold Dumper.dump at came
      rw [own] at came
      split at came
      · next made =>
          cases came
          obtain ⟨_, enough, _, _, outputs, _⟩ := TextTransform.dump_eq_ok made
          exact ⟨values, bound, enough, outputs⟩
      · cases came
  · cases came

variable {ground left right : Ground} {name encoding : String} {query first second : Value}

/-- Two parameter sets of one shape are bound to one query. From either as many parameters are
dumped, unless a value is missing. -/
theorem convert_alike (own : ground.dumper.transformer = .text name)
    (shape : Params.SameShape first second) {binding next other : ServerBinding}
    (came : binding.convert ground encoding query first = (.ok (), next, left))
    (cameToo : binding.convert ground encoding query second = (.ok (), other, right)) :
    left.converter = right.converter ∧ next.query = other.query ∧
      (Params.SamePresence first second →
        next.params.map List.length = other.params.map List.length) := by
  obtain ⟨present, presentToo⟩ := shape.isNull
  obtain ⟨bytes, found, converter, dumped, dumper, given, parsed, dumps, rfl, rfl⟩ :=
    convert_eq_ok present came
  obtain ⟨bytes', found', converter', dumped', dumper', givenToo, parsedToo, dumpsToo, rfl, rfl⟩ :=
    convert_eq_ok presentToo cameToo
  obtain rfl : bytes = bytes' := by
    rw [Ground.queryBytes_congr (present.trans presentToo.symm), givenToo] at given
    exact (Except.ok.inj given).symm
  rw [shape.countOf_eq, parsedToo] at parsed
  cases parsed
  refine ⟨rfl, rfl, fun presence => congrArg some ?_⟩
  obtain ⟨values, bound, enough, outputs⟩ := dumpParams_eq_ok own dumps
  obtain ⟨others, boundToo, enoughToo, outputsToo⟩ := dumpParams_eq_ok own dumpsToo
  rw [outputs, outputsToo]
  exact presence.length_present bound boundToo (enough.trans enoughToo.symm)

end ServerBinding

/-- On the client the values go into the text; the converter does not see them. -/
theorem ClientBinding.convert_alike {ground left right : Ground} {encoding : String}
    {query first second : Value} (shape : Params.SameShape first second)
    {binding next other : ClientBinding}
    (came : binding.convert ground encoding query first = (.ok (), next, left))
    (cameToo : binding.convert ground encoding query second = (.ok (), other, right)) :
    left.converter = right.converter := by
  obtain ⟨present, presentToo⟩ := shape.isNull
  obtain ⟨bytes, found, converter, given, parsed, rfl⟩ := convert_eq_ok present came
  obtain ⟨bytes', found', converter', givenToo, parsedToo, rfl⟩ := convert_eq_ok presentToo cameToo
  obtain rfl : bytes = bytes' := by
    rw [Ground.queryBytes_congr (present.trans presentToo.symm), givenToo] at given
    exact (Except.ok.inj given).symm
  rw [shape.countOf_eq, parsedToo] at parsed
  cases parsed
  rfl

end QueryBind
