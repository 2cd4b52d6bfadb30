import Mathlib
import QueryBind.Proofs.Binding.Histories

/-! # Binding again

Other parameters are bound to the query that was parsed when it was converted last. Whatever came
in between, this is as good as to convert the query anew on a fresh bound query
(`Family.dump_eq_convert`). The invariant is that a member holds the parse of the query that its
last conversion was given (`Family.View.Holds`): a dump takes parameters from it or fails, and a
conversion that fails leaves it alone.
-/

namespace QueryBind

namespace Family

/-- The query and the parameters of a conversion that succeeded. -/
def Record.conversion? : Record → Option (Value × Value)
  | ⟨.convert query params, .ok _, _⟩ => some (query, params)
  | _ => none

/-- What a call came to. -/
def Record.result (record : Record) : Except Fault Binding :=
  record.outcome.map fun _ => record.binding

/-- The conversion that succeeded last. -/
def lastConversion (records : List Record) : Option (Value × Value) :=
  (records.filterMap Record.conversion?).getLast?

/-- The last conversion is the new one if it succeeded, and the one before if not. -/
theorem lastConversion_concat (records : List Record) (record : Record) :
    lastConversion (records ++ [record]) = record.conversion?.or (lastConversion records) := by
  unfold lastConversion
  rw [List.filterMap_append]
  cases converted : record.conversion? with
  | none => simp [converted]
  | some both => simp [converted]

namespace View

private theorem result_record (view : View) (call : Call) :
    (view.record call).result = view.result call := by
  unfold record next Record.result
  cases view.result call <;> rfl

/-- A history grows by the record of its next call. -/
theorem records_concat (view : View) (calls : List Call) (call : Call) :
    view.records (calls ++ [call]) =
      view.records calls ++ [(calls.foldl next view).record call] := by
  induction calls generalizing view with
  | nil => rfl
  | cons first rest ih => exact congrArg (view.record first :: ·) (ih (view.next first))

/-- A call that fails leaves the view as it was. -/
theorem next_of_error {view : View} {call : Call} {fault : Fault}
    (failed : view.result call = .error fault) : view.next call = view := by
  unfold next
  rw [failed]
  rfl

/-- A call that succeeds leaves the binding that it came to. -/
theorem next_of_ok {view : View} {call : Call} {binding : Binding}
    (came : view.result call = .ok binding) : view.next call = { view with binding } := by
  unfold next
  rw [came]
  rfl

private theorem variant_next (view : View) (call : Call) :
    (view.next call).binding.variant = view.binding.variant := by
  cases came : view.result call with
  | error fault => rw [next_of_error came]
  | ok binding =>
      rw [next_of_ok came]
      exact (Call.keeps came).1

/-- A call that fails is no conversion that succeeded. -/
theorem conversion?_of_error {view : View} {call : Call} {fault : Fault}
    (failed : view.result call = .error fault) : (view.record call).conversion? = none := by
  unfold record
  rw [failed]
  cases call <;> rfl

/-- A conversion that succeeds is recorded with its query and parameters. -/
theorem conversion?_convert {view : View} {query params : Value} {binding : Binding}
    (came : view.result (.convert query params) = .ok binding) :
    (view.record (.convert query params)).conversion? = some (query, params) := by
  unfold record
  rw [came]
  rfl

/-- A dump is no conversion. -/
theorem conversion?_dump (view : View) (params : Value) :
    (view.record (.dump params)).conversion? = none := rfl

/-- A member holds the parse of a query. -/
def Holds (view : View) (query : Value) : Prop :=
  ∃ bytes parsed,
    (∀ params, params.isNull = false →
      Ground.queryBytes view.transformer view.encoding query params = .ok bytes) ∧
    Statement.ofBytes view.encoding bytes view.binding.variant = .ok parsed ∧
    view.binding.statement? = some parsed

/-- A conversion with parameters leaves a binding that holds its query. -/
theorem holds_of_conversion {view : View} {query params : Value} (present : params.isNull = false)
    {binding : Binding} (came : view.result (.convert query params) = .ok binding) :
    View.Holds { view with binding } query := by
  obtain ⟨bytes, given, ⟨absent, _⟩ | ⟨_, parsed, assembled, bound⟩⟩ := Binding.ofQuery_eq_ok came
  · rw [present] at absent
    cases absent
  · have kept : binding.variant = view.binding.variant := (Call.keeps came).1
    refine ⟨bytes, parsed, ?_, ?_, (Binding.statement?_of_bindTo bound).1⟩
    · intro others presentToo
      rw [← given]
      apply Ground.queryBytes_congr
      rw [present, presentToo]
    · rw [kept]
      exact assembled

private theorem Holds.dump {view : View} {query : Value} (holds : view.Holds query) {params : Value}
    {binding : Binding} (came : view.result (.dump params) = .ok binding) :
    View.Holds { view with binding } query := by
  obtain ⟨bytes, parsed, given, assembled, kept⟩ := holds
  have same : binding.variant = view.binding.variant := (Call.keeps came).1
  refine ⟨bytes, parsed, given, ?_, ?_⟩
  · rw [same]
    exact assembled
  · change view.binding.rebound view.transformer params = .ok binding at came
    unfold Binding.rebound at came
    rw [kept] at came
    split at came
    · cases came
      exact (Binding.statement?_unbound _).trans kept
    · exact (Binding.statement?_of_bindTo came).1

/-- One call keeps the parse of the last conversion, or is the last conversion. -/
theorem holds_next {view : View} {previous : Option (Value × Value)} {query given : Value}
    (holds : previous = some (query, given) → view.Holds query) (present : given.isNull = false)
    {call : Call} (last : (view.record call).conversion?.or previous = some (query, given)) :
    (view.next call).Holds query := by
  cases came : view.result call with
  | error fault =>
      rw [conversion?_of_error came, Option.none_or] at last
      rw [next_of_error came]
      exact holds last
  | ok binding =>
      rw [next_of_ok came]
      cases call with
      | convert source params =>
          rw [conversion?_convert came, Option.some_or] at last
          cases last
          exact holds_of_conversion present came
      | dump params =>
          rw [conversion?_dump, Option.none_or] at last
          exact (holds last).dump came

/-- After any calls a member holds the parse of the query that was converted last. -/
theorem holds_of_lastConversion (view : View) {calls : List Call} {query given : Value}
    (last : lastConversion (view.records calls) = some (query, given))
    (present : given.isNull = false) : (calls.foldl next view).Holds query := by
  induction calls using List.reverseRecOn with
  | nil => cases last
  | append_singleton calls call ih =>
      rw [records_concat, lastConversion_concat] at last
      rw [List.foldl_append, List.foldl_cons, List.foldl_nil]
      exact holds_next ih present last

/-- Calls replace bindings with bindings of the same variant, and nothing else. -/
theorem fixed_foldl_next (view : View) (calls : List Call) :
    (calls.foldl next view).binding.variant = view.binding.variant ∧
      (calls.foldl next view).encoding = view.encoding ∧
      (calls.foldl next view).transformer = view.transformer := by
  induction calls generalizing view with
  | nil => exact ⟨rfl, rfl, rfl⟩
  | cons call rest ih =>
      obtain ⟨variant, fixed⟩ := ih (view.next call)
      exact ⟨variant.trans (view.variant_next call), fixed⟩

/-- Binding anew what a member holds comes to what a conversion comes to. -/
theorem Holds.result_dump {view other : View} {query : Value} (holds : view.Holds query)
    (variant : view.binding.variant = other.binding.variant)
    (encoding : view.encoding = other.encoding) (transformer : view.transformer = other.transformer)
    {params : Value} (present : params.isNull = false) :
    view.result (.dump params) = other.result (.convert query params) := by
  obtain ⟨bytes, parsed, given, assembled, kept⟩ := holds
  have converts : other.result (.convert query params) = parsed.bindTo view.transformer params := by
    change Binding.ofQuery _ _ _ _ _ = _
    rw [← variant, ← encoding, ← transformer]
    exact Binding.ofQuery_of_parsed (given params present) (ne_true_of_eq_false present) assembled
  rw [converts]
  simp [result, Call.result, Binding.rebound, present, kept]

end View

/-- **Binding again is converting afresh.** The last conversion of a member that succeeded was given
parameters, and anything happened to its family since. To dump other parameters then comes to the
same as to convert the query with them on a bound query that is made over a converter with the same
configuration and a transformer of its own: the same error, or the same binding. -/
theorem dump_eq_convert {family made : Family} (reachable : family.Reachable) {own : Converter}
    (used : own.Used) (config : own.config = family.converter.config) {variant : Variant}
    {number index : Nat} {dumper : Dumper} (held : family.dumpers[number]? = some dumper)
    (added : family.add variant number = (.ok index, made)) {events : List Event}
    {query given : Value}
    (last : lastConversion (made.history index events) = some (query, given))
    (bound : given.isNull = false) {params : Value} (present : params.isNull = false) :
    ∃ apart again anew, alone own dumper.transformer variant = (.ok 0, apart) ∧
      (made.run events).2.record? index (.dump params) = some again ∧
      apart.record? 0 (.convert query params) = some anew ∧ again.result = anew.result := by
  obtain ⟨apart, encoding, adds, apartSound, madeSound, shown, shownApart⟩ :=
    exists_alone reachable used config held added
  obtain ⟨records, shownLast⟩ := history_eq madeSound shown events
  rw [records] at last
  have holds := View.holds_of_lastConversion _ last bound
  obtain ⟨kept, encoded, transformed⟩ := View.fixed_foldl_next
    ⟨.fresh variant, encoding, dumper.transformer⟩ (callsOn index events)
  refine ⟨apart, _, _, adds, record?_eq (madeSound.run events) shownLast _,
    record?_eq apartSound shownApart _, ?_⟩
  rw [View.result_record, View.result_record]
  exact holds.result_dump kept encoded transformed present

/-- Between the conversion and the dump the literals are dropped, another query is refused, and a
sequence of the wrong length. -/
theorem dump_eq_convert_of_refusals :
    let own : Converter := ⟨.standard, { capacity := .int 1 }, { capacity := .int 1 }, {}⟩
    let family : Family := ⟨own, [⟨.text "utf8", none⟩], []⟩
    let made : Family := ⟨own, [⟨.text "utf8", none⟩], [⟨.client {}, "utf8", 0⟩]⟩
    let query : Value := .text "%s%%"
    let given : Value := .list [.bool true]
    let events : List Event := [.call 0 (.convert query given), .call 0 (.dump .null),
      .call 0 (.convert (.text "%(") given), .call 0 (.dump (.list []))]
    let params : Value := .list [.null]
    let bound : ClientBinding := ⟨[0x4E, 0x55, 0x4C, 0x4C, 0x25], some [[0x4E, 0x55, 0x4C, 0x4C]],
      some [0x25, 0x73, 0x25, 0x25],
      some ⟨[0x25, 0x73, 0x25, 0x25], none, ⟨[⟨[], .position 0, .auto⟩], [0x25, 0x25]⟩⟩⟩
    family.Reachable ∧ own.Used ∧ family.add .client 0 = (.ok 0, made) ∧
      lastConversion (made.history 0 events) = some (query, given) ∧
      given.isNull = false ∧ params.isNull = false ∧
      ∃ apart again anew, alone own (.text "utf8") .client = (.ok 0, apart) ∧
        (made.run events).2.record? 0 (.dump params) = some again ∧
        apart.record? 0 (.convert query params) = some anew ∧ again.result = anew.result ∧
        again.result = .ok (.client bound) := by
  intro own family made query given events params bound
  have used : own.Used := ⟨own, [], rfl, rfl, nofun, rfl⟩
  have selected : Encoding.codec "utf8" = .ok .utf8 := Encoding.codec_name .utf8
  have checked := checkedEncoding_text selected own none
  have reachable : family.Reachable := ⟨own, [.transformer (.text "utf8")], used, rfl⟩
  have added : family.add .client 0 = (.ok 0, made) := by
    simp [family, add, checked, Binding.fresh, made]
  have sound := (reachable.add added).sound
  have shown : made.view 0 = some ⟨.client {}, "utf8", .text "utf8"⟩ := rfl
  obtain ⟨records, shownLast⟩ := history_eq sound shown events
  have last : lastConversion (made.history 0 events) = some (query, given) := by
    rw [records]
    cbv
  have present : params.isNull = false := rfl
  obtain ⟨apart, again, anew, adds, dumped, converted, same⟩ :=
    dump_eq_convert reachable used rfl rfl added last rfl present
  refine ⟨reachable, used, added, last, rfl, rfl, apart, again, anew, adds, dumped, converted,
    same, ?_⟩
  have recorded := record?_eq (sound.run events) shownLast (.dump params)
  rw [Option.some.inj (dumped.symm.trans recorded), View.result_record]
  cbv

end Family

end QueryBind
