import Mathlib.Data.List.Forall2
import QueryBind.Params
import QueryBind.Proofs.Outcome
import QueryBind.Proofs.Placeholder.Keys
import QueryBind.Proofs.Statement.Occurrences

/-! # Values for keys

What a query takes from its parameters depends on its keys alone. Whether the parameters are
refused, and with which error, does not depend on whether a name is looked up once or at each of
its placeholders (`Params.refusal?`); and if they are not, every key that is looked up gets the
value that the parameters have for it (`Params.outcome_valuesFor`).
-/

namespace QueryBind.Params

/-- The value that parameters have for a key. -/
def value? : Params → Key → Option Value
  | .sequence values, .position index => values[index]?
  | .mapping entries, .name name => get? entries name
  | _, _ => none

/-- The error that parameters are refused with, if they are. -/
def refusal? (scan : Scan) : Params → Option QueryError
  | .sequence values =>
    if values.length ≠ scan.count then some (.paramCount scan.count values.length)
    else if values ≠ [] ∧ scan.isNamed then some (.paramsShape .needsMapping)
    else none
  | .mapping entries =>
    if scan.isPositional then some (.paramsShape .needsSequence)
    else
      match absent entries (scan.keys.map Key.text) with
      | [] => none
      | missing => some (.missing missing)

/-- The names of keys, for a query with named placeholders. -/
def orderOf (scan : Scan) (keys : List Key) : Option (List String) :=
  if scan.isNamed then some (keys.map Key.text) else none

/-- Each key once, or each as often as it stands in the query. -/
def Covers (scan : Scan) (keys : List Key) : Prop :=
  keys = scan.keys ∨ keys = scan.keys.eraseDups

/-- What looking keys up may result in. -/
def Outcome (scan : Scan) (keys : List Key) (held : Params) :
    Except QueryError (List Value) → Prop
  | .error error => refusal? scan held = some error
  | .ok values => refusal? scan held = none ∧
      List.Forall₂ (fun key value => held.value? key = some value) keys values

/-- A key that is looked up is a key of the query. -/
theorem Covers.mem_keys {scan : Scan} {keys : List Key} (covers : Covers scan keys) {key : Key}
    (member : key ∈ keys) : key ∈ scan.keys := by
  rcases covers with rfl | rfl
  · exact member
  · exact List.mem_eraseDups.mp member

private theorem Covers.eq_nil {scan : Scan} {keys : List Key} (covers : Covers scan keys)
    (empty : scan.keys = []) : keys = [] := by
  refine List.eq_nil_iff_forall_not_mem.mpr fun key member => ?_
  have among := covers.mem_keys member
  rw [empty] at among
  cases among

/-- The values of a sequence are taken as they are. -/
theorem values_of_sequence {scan : Scan} {order : Option (List String)} {items values : List Value}
    (chosen : valuesFor scan order (.sequence items) = .ok values) : items = values := by
  rw [valuesFor] at chosen
  split at chosen
  · cases chosen
  · split at chosen
    · cases chosen
    · exact Except.ok.inj chosen

/-- The values for names are found exactly if each name has its value. -/
theorem select?_eq_some_iff {entries : List (Text.Wide × Value)} {names : List String}
    {values : List Value} :
    select? entries names = some values ↔
      List.Forall₂ (fun name value => get? entries name = some value) names values := by
  unfold select?
  induction names generalizing values with
  | nil => simp [eq_comm]
  | cons name rest ih =>
      rw [List.mapM_cons, List.forall₂_cons_left_iff]
      cases found : get? entries name with
      | none => simp
      | some value =>
          simp only [← ih, Option.some.injEq]
          cases rest.mapM (get? entries) <;> simp [eq_comm]

/-- No name is absent exactly if each is found. -/
theorem absent_eq_nil_iff {entries : List (Text.Wide × Value)} {names : List String} :
    absent entries names = [] ↔ ∀ name ∈ names, ∃ value, get? entries name = some value := by
  rw [absent, List.eq_nil_iff_forall_not_mem]
  simp only [List.mem_eraseDups, List.mem_filter, not_and, Option.isNone_iff_eq_none,
    Option.ne_none_iff_exists', ← ne_eq]

/-- Values are found exactly if no name is absent. -/
theorem exists_select?_iff {entries : List (Text.Wide × Value)} {names : List String} :
    (∃ values, select? entries names = some values) ↔ absent entries names = [] := by
  simp only [absent_eq_nil_iff, select?_eq_some_iff]
  induction names with
  | nil => simp
  | cons name rest ih =>
      rw [List.forall_mem_cons, ← ih]
      constructor
      · rintro ⟨_, found⟩
        cases found with
        | cons first others => exact ⟨⟨_, first⟩, _, others⟩
      · rintro ⟨⟨value, first⟩, values, others⟩
        exact ⟨value :: values, .cons first others⟩

/-- Values are not found where a name is absent. -/
theorem select?_of_absent {entries : List (Text.Wide × Value)} {names : List String}
    (missing : absent entries names ≠ []) : select? entries names = none := by
  rw [Option.eq_none_iff_forall_ne_some]
  intro values found
  exact missing (exists_select?_iff.mp ⟨values, found⟩)

private theorem absent_eraseDups (entries : List (Text.Wide × Value)) (names : List String) :
    absent entries names.eraseDups = absent entries names := by
  rw [absent, absent, eraseDups_filter, eraseDups_filter,
    eraseDups_of_nodup (nodup_eraseDups names)]

section Keyed

variable {scan : Scan} {style : Style} {keys : List Key}

private theorem names_orderOf (keyed : scan.Keyed style) (covers : Covers scan keys)
    (free : scan.isPositional = false) : (orderOf scan keys).getD [] = keys.map Key.text := by
  rcases keyed.kinds with ⟨empty, unnamed, _⟩ | ⟨_, named, _⟩ | ⟨_, _, positional⟩
  · rcases covers with rfl | rfl <;> simp [orderOf, unnamed, empty]
  · simp [orderOf, named]
  · rw [free] at positional
    cases positional

/-- The absent names are the same for keys once and for keys with repetitions. -/
theorem absent_of_covers (keyed : scan.Keyed style) (covers : Covers scan keys)
    (free : scan.isPositional = false) (entries : List (Text.Wide × Value)) :
    absent entries (keys.map Key.text) = absent entries (scan.keys.map Key.text) := by
  rcases covers with rfl | rfl
  · rfl
  · rcases keyed.kinds with ⟨empty, _⟩ | ⟨keyed, _⟩ | ⟨_, _, positional⟩
    · rw [empty]
      rfl
    · rw [← eraseDups_map keyed.text_injective, absent_eraseDups]
    · rw [free] at positional
      cases positional

private theorem forall₂_sequence (keyed : scan.Keyed style) (covers : Covers scan keys)
    {values : List Value} (enough : values.length = scan.count)
    (fits : ¬(values ≠ [] ∧ scan.isNamed = true)) :
    List.Forall₂ (fun key value => (sequence values).value? key = some value) keys values := by
  have full : scan.keys.length = values.length := by
    rw [Scan.keys, List.length_map, enough, Scan.count]
  have unfilled : scan.keys = [] → List.Forall₂
      (fun key value => (sequence values).value? key = some value) keys values := by
    intro empty
    rw [empty] at full
    rw [covers.eq_nil empty, List.length_eq_zero_iff.mp full.symm]
    exact .nil
  rcases keyed.kinds with ⟨empty, _⟩ | ⟨_, named, _⟩ | ⟨keyed, _⟩
  · exact unfilled empty
  · have nothing : values = [] := by
      by_contra something
      exact fits ⟨something, named⟩
    refine unfilled (List.length_eq_zero_iff.mp ?_)
    rw [full, nothing, List.length_nil]
  · have listed : keys = scan.keys := by
      rcases covers with rfl | rfl
      · rfl
      · exact eraseDups_of_nodup keyed.nodup_keys
    rw [listed]
    refine List.forall₂_of_length_eq_of_get full fun position first second => ?_
    have placed : scan.keys[position]? = some (scan.keys.get ⟨position, first⟩) :=
      List.getElem?_eq_getElem first
    rw [keyed.getElem_keys placed]
    exact List.getElem?_eq_getElem second

private theorem forall₂_mapping (keyed : scan.Keyed style) (covers : Covers scan keys)
    (free : scan.isPositional = false) {entries : List (Text.Wide × Value)} {values : List Value}
    (found : List.Forall₂ (fun name value => get? entries name = some value)
      (keys.map Key.text) values) :
    List.Forall₂ (fun key value => (mapping entries).value? key = some value) keys values := by
  rw [List.forall₂_map_left_iff] at found
  have named : ∀ key ∈ keys, ∃ name, key = .name name := by
    intro key member
    have among := covers.mem_keys member
    rcases keyed.kinds with ⟨empty, _⟩ | ⟨keyed, _⟩ | ⟨_, _, positional⟩
    · rw [empty] at among
      cases among
    · exact keyed.exists_name among
    · rw [free] at positional
      cases positional
  refine ((List.forall₂_and_left keys values).mpr ⟨named, found⟩).imp ?_
  rintro key value ⟨⟨name, rfl⟩, same⟩
  exact same

/-- What a sequence comes to. -/
theorem outcome_sequence (keyed : scan.Keyed style) (covers : Covers scan keys)
    (values : List Value) (order : Option (List String)) :
    Outcome scan keys (.sequence values) (valuesFor scan order (.sequence values)) := by
  rw [valuesFor]
  split
  · next mismatch => simp only [Outcome, refusal?, if_pos mismatch]
  · next enough =>
      split
      · next named => simp only [Outcome, refusal?, if_neg enough, if_pos named]
      · next fits =>
          have admitted : refusal? scan (.sequence values) = none := by
            simp only [refusal?, if_neg enough, if_neg fits]
          exact ⟨admitted, forall₂_sequence keyed covers (not_not.mp enough) fits⟩

/-- What a mapping comes to. -/
theorem outcome_mapping (keyed : scan.Keyed style) (covers : Covers scan keys)
    (entries : List (Text.Wide × Value)) :
    Outcome scan keys (.mapping entries)
      (valuesFor scan (orderOf scan keys) (.mapping entries)) := by
  simp only [valuesFor]
  split
  · next positional => simp only [Outcome, refusal?, if_pos positional]
  · next styled =>
      have free : scan.isPositional = false := eq_false_of_ne_true styled
      rw [names_orderOf keyed covers free]
      cases missing : absent entries (keys.map Key.text) with
      | nil =>
          obtain ⟨values, found⟩ := exists_select?_iff.mpr missing
          have admitted : refusal? scan (.mapping entries) = none := by
            rw [refusal?, if_neg styled, ← absent_of_covers keyed covers free, missing]
          rw [found]
          exact ⟨admitted, forall₂_mapping keyed covers free (select?_eq_some_iff.mp found)⟩
      | cons name others =>
          have absence : absent entries (keys.map Key.text) ≠ [] := by simp [missing]
          rw [select?_of_absent absence, Outcome, refusal?, if_neg styled,
            ← absent_of_covers keyed covers free, missing]

/-- **Looking keys up.** Parameters are refused with an error that the order of the look-ups has
no part in, or every key gets the value that the parameters have for it. -/
theorem outcome_valuesFor (keyed : scan.Keyed style) (covers : Covers scan keys) (held : Params) :
    Outcome scan keys held (valuesFor scan (orderOf scan keys) held) := by
  cases held with
  | sequence values => exact outcome_sequence keyed covers values _
  | mapping entries => exact outcome_mapping keyed covers entries

/-- One value is taken for every key that is looked up. -/
theorem length_of_bind (keyed : scan.Keyed style) (covers : Covers scan keys) {params : Value}
    {values : List Value} (bound : bind scan (orderOf scan keys) params = .ok values) :
    values.length = keys.length := by
  unfold bind at bound
  split at bound
  · next held _ =>
      have taken := outcome_valuesFor keyed covers held
      rw [QueryBind.Outcome.mapError_eq_ok.mp bound] at taken
      exact taken.2.length_eq.symm
  · cases bound

end Keyed

end QueryBind.Params
