import QueryBind.Proofs.Binding.Wording
import QueryBind.Proofs.Params.Answers

/-! # Mappings that agree on the names of a query

Maps, plain records and records that inherit nothing are mappings all alike, and a query looks up
its own names in them and nothing else. Two mappings may differ in what they are, in the order of
their entries and in everything that they store under other names; if they agree on the names that
the query asks for, it is converted to the same with either (`Ground.converted_of_agreeing`). The
number of entries decides whether a converter uses its cache, and that does not show.
-/

namespace QueryBind

namespace Params

section Entries

variable {entries others : List (Text.Wide × Value)} {names : List String}
  (same : ∀ name ∈ names, get? entries name = get? others name)

include same

/-- The same is found for names under which the same is stored. -/
theorem select?_congr : select? entries names = select? others names := by
  unfold select?
  induction names with
  | nil => rfl
  | cons name rest ih =>
      obtain ⟨first, later⟩ := List.forall_mem_cons.mp same
      rw [List.mapM_cons, List.mapM_cons, first, ih later]

/-- The same names are absent. -/
theorem absent_congr : absent entries names = absent others names := by
  have filtered : (names.filter fun name => (get? entries name).isNone) =
      names.filter fun name => (get? others name).isNone :=
    List.filter_congr fun name among => congrArg Option.isNone (same name among)
  rw [absent, absent, filtered]

end Entries

/-- A query takes from a mapping what it stores under the names that are looked up. -/
theorem valuesFor_congr {entries others : List (Text.Wide × Value)}
    {order : Option (List String)}
    (same : ∀ name ∈ order.getD [], get? entries name = get? others name) (scan : Scan) :
    valuesFor scan order (.mapping entries) = valuesFor scan order (.mapping others) := by
  simp only [valuesFor, select?_congr same, absent_congr same]

/-- A value is a mapping whose keys can be written. -/
structure Mapping (params : Value) : Prop where
  mapping : params.isMapping = true
  primitive : params.HasPrimitiveKeys

/-- A mapping is there. -/
theorem Mapping.isNull {params : Value} (mapping : Mapping params) : params.isNull = false := by
  cases params with
  | undefined | hole | null => cases mapping.mapping
  | _ => rfl

/-- Mappings that agree on the names that are looked up are one to a query. -/
theorem bind_of_agreeing {first second : Value} (mapping : Mapping first)
    (mappingToo : Mapping second) {order : Option (List String)}
    (agree : ∀ name ∈ order.getD [], first.stored? name = second.stored? name) (scan : Scan) :
    bind scan order first = bind scan order second := by
  obtain ⟨entries, held, looked⟩ := ofValue_of_isMapping mapping.mapping mapping.primitive
  obtain ⟨others, heldToo, lookedToo⟩ :=
    ofValue_of_isMapping mappingToo.mapping mappingToo.primitive
  have same : ∀ name ∈ order.getD [], get? entries name = get? others name := by
    intro name among
    rw [looked, lookedToo]
    exact agree name among
  rw [bind_of_ofValue held, bind_of_ofValue heldToo, valuesFor_congr same]

/-- The names that are looked up are names of placeholders. -/
theorem mem_keys_of_orderOf {scan : Scan} {style : Style} (keyed : scan.Keyed style)
    {keys : List Key} (covers : Covers scan keys) {name : String}
    (among : name ∈ (orderOf scan keys).getD []) : Key.name name ∈ scan.keys := by
  unfold orderOf at among
  split at among
  · next named =>
      obtain ⟨key, member, rfl⟩ := List.mem_map.mp among
      have placed := covers.mem_keys member
      rcases keyed.kinds with ⟨_, unnamed, _⟩ | ⟨keyed, _⟩ | ⟨_, unnamed, _⟩
      · rw [unnamed] at named
        cases named
      · obtain ⟨spelled, rfl⟩ := keyed.exists_name placed
        exact placed
      · rw [unnamed] at named
        cases named
  · cases among

end Params

/-- Some placeholder of a query has this name. -/
def Scan.Names (encoding : String) (query : Bytes) (name : String) : Prop :=
  ∃ scan, Scan.ofBytes encoding false query = .ok scan ∧ Key.name name ∈ scan.keys

namespace Statement

variable {encoding : String} {codec : Text.Codec} {query : Bytes} {variant : Variant}
  {parsed : Statement}

/-- Both variants look up names of the query's placeholders. -/
theorem names_of_order (selected : Encoding.codec encoding = .ok codec)
    (assembled : ofBytes encoding query variant = .ok parsed) {name : String}
    (among : name ∈ parsed.order.getD []) : Scan.Names encoding query name := by
  cases variant with
  | server =>
      obtain ⟨server, came, rfl⟩ := Outcome.map_eq_ok.mp assembled
      obtain ⟨scan, assigned, scanned, marked, rfl⟩ := ServerQuery.ofBytes_eq_ok came
      obtain ⟨style, keyed⟩ := Scan.keyed_ofBytes selected scanned
      obtain ⟨counterpart, kept, same⟩ := Scan.exists_scan_of_mode selected false scanned
      rw [order, Assignment.order_ofAssignment] at among
      refine ⟨counterpart, kept, ?_⟩
      rw [Scan.keys_of_demands same]
      exact Params.mem_keys_of_orderOf keyed (Assignment.covers_keys marked) among
  | client =>
      obtain ⟨client, came, rfl⟩ := Outcome.map_eq_ok.mp assembled
      obtain ⟨scan, scanned, rfl⟩ := Outcome.map_eq_ok.mp came
      obtain ⟨style, keyed⟩ := Scan.keyed_ofBytes selected scanned
      rw [order, Assignment.order_ofScan] at among
      exact ⟨scan, scanned, Params.mem_keys_of_orderOf keyed (.inl rfl) among⟩

/-- Binding looks at the parameters only when it takes its values from them. -/
theorem bindTo_congr {first second : Value}
    (same : Params.bind parsed.scan parsed.order first =
      Params.bind parsed.scan parsed.order second) (transformer : Transformer) :
    parsed.bindTo transformer first = parsed.bindTo transformer second := by
  cases parsed with
  | server parsed =>
      have taken : Params.bind parsed.scan parsed.order first =
          Params.bind parsed.scan parsed.order second := same
      simp only [bindTo, taken]
  | client parsed =>
      have taken : Params.bind parsed.scan parsed.order first =
          Params.bind parsed.scan parsed.order second := same
      simp only [bindTo, ClientBinding.expandParams, ClientBinding.renderParams, taken]

end Statement

/-- What a conversion comes to depends on the names of the query's placeholders alone, as far as
mappings are concerned. -/
theorem Binding.ofQuery_of_agreeing {encoding : String} {codec : Text.Codec}
    (selected : Encoding.codec encoding = .ok codec) {first second : Value}
    (mapping : Params.Mapping first) (mappingToo : Params.Mapping second)
    {transformer : Transformer} {query : Value}
    (agree : ∀ bytes, Ground.queryBytes transformer encoding query (.record []) = .ok bytes →
      ∀ name, Scan.Names encoding bytes name → first.stored? name = second.stored? name)
    (variant : Variant) :
    ofQuery variant transformer encoding query first =
      ofQuery variant transformer encoding query second := by
  have bytesOf : ∀ params : Value, Params.Mapping params →
      Ground.queryBytes transformer encoding query params =
        Ground.queryBytes transformer encoding query (.record []) :=
    fun params mapping => Ground.queryBytes_congr mapping.isNull
  have present : ∀ params : Value, Params.Mapping params → ¬ params.isNull = true :=
    fun params mapping => Bool.not_eq_true _ ▸ mapping.isNull
  cases given : Ground.queryBytes transformer encoding query (.record []) with
  | error fault =>
      rw [ofQuery_of_refused ((bytesOf first mapping).trans given),
        ofQuery_of_refused ((bytesOf second mappingToo).trans given)]
  | ok bytes =>
      have givenFirst := (bytesOf first mapping).trans given
      have givenSecond := (bytesOf second mappingToo).trans given
      cases assembled : Statement.ofBytes encoding bytes variant with
      | error error =>
          rw [ofQuery_of_unparsed givenFirst (present first mapping) assembled,
            ofQuery_of_unparsed givenSecond (present second mappingToo) assembled]
      | ok parsed =>
          rw [ofQuery_of_parsed givenFirst (present first mapping) assembled,
            ofQuery_of_parsed givenSecond (present second mappingToo) assembled]
          refine Statement.bindTo_congr ?_ transformer
          refine Params.bind_of_agreeing mapping mappingToo (fun name among => ?_) _
          exact agree bytes given name (Statement.names_of_order selected assembled among)

namespace Ground

/-- A query looks this name up when it is converted: one of its placeholders has it. -/
def AsksFor (ground : Ground) (query : Value) (name : String) : Prop :=
  ∃ bytes, queryBytes ground.dumper.transformer ground.encoding query (.record []) = .ok bytes ∧
    Scan.Names ground.encoding bytes name

/-- **Only the named values matter.** Two mappings that store the same under every name that a
query asks for are one as far as the query is concerned: with either it fails with the same error,
or shows the same once it is converted, for both variants. That is so for any two converters,
whatever their configurations are and whatever their caches hold of what was parsed before, by
bound queries or otherwise. No encoding of an earlier parse has a NUL in it, as none has that a
bound query can be made with. -/
theorem converted_of_agreeing {left right : Ground} {encoding : String}
    (used : left.converter.Used) (usedToo : right.converter.Used)
    (own : left.dumper.transformer = .text encoding)
    (ownToo : right.dumper.transformer = .text encoding) {first second : Value}
    (mapping : Params.Mapping first) (mappingToo : Params.Mapping second) (query : Value)
    (agree : ∀ name, left.AsksFor query name → first.stored? name = second.stored? name)
    (variant : Variant) :
    left.converted variant query first = right.converted variant query second := by
  have encodings : left.encoding = right.encoding := by
    rw [Ground.encoding, Ground.encoding, own, ownToo]
    rfl
  cases selected : Encoding.codec left.encoding with
  | error fault =>
      have selectedToo : Encoding.codec right.encoding = .error fault := encodings ▸ selected
      simp only [converted, checkedEncoding, selected, selectedToo]
      rfl
  | ok codec =>
      rw [converted_eq used.sound selected, converted_eq usedToo.sound (encodings ▸ selected),
        ← encodings, ownToo, ← own]
      refine congrArg (Except.map Binding.shown) ?_
      exact Binding.ofQuery_of_agreeing selected mapping mappingToo
        (fun bytes given name named => agree name ⟨bytes, given, named⟩) variant

/-- A map with an entry of no use, and a record with the other two entries in another order; the
converter of the one has parsed the query before, that of the other keeps nothing. -/
theorem converted_of_agreeing_of_map :
    let query := "%(b)s, %(a)s"
    let first : Value := .map [(.text "a", .null), (.text "c", .text "x"), (.text "b", .bool true)]
    let second : Value := .bareRecord [("b", .bool true), ("a", .null)]
    let fresh : Converter := ⟨.standard, { capacity := .int 1 }, { capacity := .int 1 }, {}⟩
    let closed : Converter := ⟨{ Config.standard with maxStatementParams := .int 1 },
      { capacity := .int 0 }, { capacity := .int 0 }, {}⟩
    let left : Ground :=
      ⟨(fresh.runAll [.client (Text.Utf8.encode query) "utf8" (.int 3)]).2, ⟨.text "utf8", none⟩⟩
    let right : Ground := ⟨closed, ⟨.text "utf8", none⟩⟩
    left.converter.Used ∧ right.converter.Used ∧ Params.Mapping first ∧ Params.Mapping second ∧
      (∀ name, left.AsksFor (.text query) name → first.stored? name = second.stored? name) ∧
      left.converted .client (.text query) first = right.converted .client (.text query) second ∧
      (right.converted .client (.text query) second).map Shown.query =
        .ok (Text.Utf8.encode "true, NULL") := by
  intro query first second fresh closed left right
  have used : left.converter.Used := ⟨fresh, [.client (Text.Utf8.encode query) "utf8" (.int 3)],
    rfl, rfl, by simp [Converter.Call.Plain], rfl⟩
  have usedToo : right.converter.Used :=
    ⟨closed, [], rfl, rfl, fun _ among => absurd among List.not_mem_nil, rfl⟩
  have mapping : Params.Mapping first := by
    refine ⟨rfl, fun entries same entry among => ?_⟩
    obtain rfl := Value.map.inj same
    simp only [List.mem_cons, List.not_mem_nil, or_false] at among
    rcases among with rfl | rfl | rfl <;> rfl
  have mappingToo : Params.Mapping second := by
    refine ⟨rfl, fun entries same => ?_⟩
    simp [second] at same
  have agree : ∀ name, left.AsksFor (.text query) name →
      first.stored? name = second.stored? name := by
    rintro name ⟨bytes, given, scan, scanned, among⟩
    have bytesOf : queryBytes (.text "utf8") "utf8" (.text query) (.record []) =
        .ok (Text.Utf8.encode query) := queryBytes_text (Encoding.codec_name .utf8) _ query _
    obtain rfl := Except.ok.inj (bytesOf.symm.trans given)
    have cut : Scan.ofBytes "utf8" false (Text.Utf8.encode query) =
        .ok ⟨[⟨[], .name "b", .auto⟩, ⟨[0x2C, 0x20], .name "a", .auto⟩], []⟩ := by cbv
    obtain rfl := Except.ok.inj (cut.symm.trans scanned)
    simp only [Scan.keys, List.map_cons, List.map_nil, List.mem_cons, Key.name.injEq,
      List.not_mem_nil, or_false] at among
    rcases among with rfl | rfl <;> rfl
  refine ⟨used, usedToo, mapping, mappingToo, agree,
    converted_of_agreeing used usedToo rfl rfl mapping mappingToo (.text query) agree .client, ?_⟩
  rw [converted_eq usedToo.sound (Encoding.codec_name .utf8)]
  cbv

end Ground

end QueryBind
