import Mathlib
import QueryBind.Proofs.Observe.Labels

/-! # What a collector has collected

After any calls a counter holds the sum of what was added under its key, and the durations of a
series are those recorded under its key (`Metrics.exists_performAll`). So whether a series keeps its
own numbers, whatever is counted beside it, is a question of keys only
(`Metrics.performAll_keepsApart_iff`).
-/

namespace QueryBind

/-! ## Sums -/

/-- Integers are added exactly while every sum on the way is exact. -/
theorem Number.foldl_add_int (start : Int) {integers : List Int}
    (safe : ∀ count, isSafe (start + (integers.take count).sum) = true) :
    (integers.map int).foldl add (int start) = int (start + integers.sum) := by
  induction integers generalizing start with
  | nil => simp
  | cons first rest ih =>
      have next : (int start).add (int first) = int (start + first) :=
        add_int_of_isSafe start first (by simpa using safe 1)
      have later (count : Nat) : isSafe (start + first + (rest.take count).sum) = true := by
        have sum := safe (count + 1)
        rw [List.take_succ_cons, List.sum_cons, ← add_assoc] at sum
        exact sum
      rw [List.map_cons, List.foldl_cons, next, ih _ later, List.sum_cons, add_assoc]

namespace Tally

/-- A counter that holds the sum of numbers, added one after the other. For integers this is their
sum while every sum on the way is exact. -/
structure Sums (tally : Tally) (amounts : List Number) : Prop where
  added : tally = .number (amounts.foldl Number.add (.int 0))
  exact : ∀ integers : List Int, amounts = integers.map .int →
    (∀ count, Number.isSafe (integers.take count).sum = true) →
      tally = .number (.int integers.sum)

private theorem foldl_addNumber (start : Number) (amounts : List Number) :
    amounts.foldl addNumber (.number start) = .number (amounts.foldl Number.add start) := by
  induction amounts generalizing start with
  | nil => rfl
  | cons amount rest ih => exact ih (start.add amount)

private theorem sums_foldl (amounts : List Number) :
    (amounts.foldl addNumber zero).Sums amounts where
  added := foldl_addNumber (.int 0) amounts
  exact := by
    rintro integers rfl safe
    rw [zero, foldl_addNumber, Number.foldl_add_int 0 (by simpa using safe), zero_add]

end Tally

namespace Metrics

/-! ## Calls of a collector -/

/-- A call that collects something. An amount that is left out is one. -/
inductive Call where
  | increment (label : Label) (amount : Option Number)
  | timing (label : Label) (duration : Value)

namespace Call

/-- The series that a call is for. -/
def label : Call → Label
  | .increment label _ => label
  | .timing label _ => label

/-- What a call adds to a counter. -/
def amount? : Call → Option Number
  | .increment _ amount => some (amount.getD (.int 1))
  | .timing .. => none

/-- The duration that a call records. -/
def duration? : Call → Option Value
  | .increment .. => none
  | .timing _ duration => some duration

end Call

/-- The amounts that calls add. -/
def amounts (calls : List Call) : List Number :=
  calls.filterMap Call.amount?

/-- The durations that calls record. -/
def recorded (calls : List Call) : List Value :=
  calls.filterMap Call.duration?

namespace Label

/-- The calls for a series. -/
def own (label : Label) (calls : List Call) : List Call :=
  calls.filter fun call => call.label.Same label

/-- The calls whose series have the key of this one. -/
def keyed (label : Label) (calls : List Call) : List Call :=
  calls.filter fun call => call.label.key = label.key

end Label

/-- Collects what a call gives. -/
def perform (metrics : Metrics) : Call → Except Fault Metrics
  | .increment label amount =>
    metrics.add label.name ((amount.map Value.number).getD .undefined) label.tags
  | .timing label duration => .ok (metrics.timing label.name duration label.tags)

/-- What a new collector has after calls. -/
def performAll (calls : List Call) : Except Fault Metrics :=
  calls.foldlM perform {}

/-- The counter of a series. -/
def counterOf (metrics : Metrics) (label : Label) : Tally :=
  metrics.counter label.name label.tags

/-- The durations of a series. -/
def durationsOf (metrics : Metrics) (label : Label) : List Value :=
  metrics.durations label.name label.tags

/-! ## What calls change -/

/-- What calls change in the series that have their keys. -/
structure Changed (calls : List Call) (before after : Metrics) : Prop where
  counter : ∀ label : Label, after.counterOf label =
    (amounts (label.keyed calls)).foldl Tally.addNumber (before.counterOf label)
  durations : ∀ label : Label, after.durationsOf label =
    before.durationsOf label ++ recorded (label.keyed calls)

namespace Changed

private theorem nil (metrics : Metrics) : Changed [] metrics metrics where
  counter _ := rfl
  durations _ := (List.append_nil _).symm

private theorem append {calls others : List Call} {first second third : Metrics}
    (changed : Changed calls first second) (more : Changed others second third) :
    Changed (calls ++ others) first third where
  counter label := by
    rw [more.counter, changed.counter, ← List.foldl_append, Label.keyed, Label.keyed, Label.keyed,
      amounts, amounts, amounts, List.filter_append, List.filterMap_append]
  durations label := by
    rw [more.durations, changed.durations, List.append_assoc, Label.keyed, Label.keyed,
      Label.keyed, recorded, recorded, recorded, List.filter_append, List.filterMap_append]

end Changed

/-- An amount that is left out is added as one. -/
theorem add_of_amount (metrics : Metrics) (label : Label) (amount : Option Number) :
    metrics.add label.name ((amount.map Value.number).getD .undefined) label.tags =
      .ok { metrics with
        counters := update .zero
          (fun _ => (metrics.counterOf label).addNumber (amount.getD (.int 1))) label.key
          metrics.counters } := by
  cases amount with
  | none =>
      rw [Option.map_none, Option.getD_none, add, Tally.add_number]
      rfl
  | some amount =>
      have given : Value.number amount ≠ .undefined := by
        intro same
        cases same
      rw [Option.map_some, Option.getD_some, add, Tally.add_number]
      · rfl
      · exact given

namespace Label

variable {label : Label} {call : Call}

private theorem keyed_singleton (same : label.key = call.label.key) : label.keyed [call] = [call] :=
  List.filter_cons_of_pos (decide_eq_true same.symm)

private theorem keyed_singleton_of_ne (other : label.key ≠ call.label.key) :
    label.keyed [call] = [] :=
  List.filter_cons_of_neg fun same => other (of_decide_eq_true same).symm

private theorem filterMap_keyed_eq_nil {given : Type} {observe : Call → Option given}
    (nothing : observe call = none) : (label.keyed [call]).filterMap observe = [] := by
  refine List.filterMap_eq_nil_iff.mpr fun other among => ?_
  rw [List.eq_of_mem_singleton (List.mem_of_mem_filter among)]
  exact nothing

end Label

private theorem changed_of_added (metrics : Metrics) (label : Label) (amount : Option Number) :
    Changed [.increment label amount] metrics { metrics with
      counters := update .zero
        (fun _ => (metrics.counterOf label).addNumber (amount.getD (.int 1))) label.key
        metrics.counters } where
  counter other := by
    change ((update _ _ label.key metrics.counters).lookup other.key).getD .zero = _
    rw [lookup_update]
    by_cases same : other.key = label.key
    · rw [if_pos same, Label.keyed_singleton same]
      have held : metrics.counterOf other = metrics.counterOf label :=
        congrArg (fun key => (metrics.counters.lookup key).getD .zero) same
      rw [held]
      rfl
    · rw [if_neg same, Label.keyed_singleton_of_ne same]
      rfl
  durations other := by
    rw [recorded, Label.filterMap_keyed_eq_nil rfl, List.append_nil]
    rfl

private theorem changed_of_timed (metrics : Metrics) (label : Label) (duration : Value) :
    Changed [.timing label duration] metrics
      (metrics.timing label.name duration label.tags) where
  counter other := by
    rw [amounts, Label.filterMap_keyed_eq_nil rfl]
    rfl
  durations other := by
    change ((update _ _ label.key metrics.timings).lookup other.key).getD [] = _
    rw [lookup_update]
    by_cases same : other.key = label.key
    · rw [if_pos same, Label.keyed_singleton same]
      have held : metrics.durationsOf other = metrics.durationsOf label :=
        congrArg (fun key => (metrics.timings.lookup key).getD []) same
      rw [held]
      rfl
    · rw [if_neg same, Label.keyed_singleton_of_ne same]
      exact (List.append_nil _).symm

/-- A call succeeds and changes the series that have its key. -/
theorem exists_perform (metrics : Metrics) (call : Call) :
    ∃ next, metrics.perform call = .ok next ∧ Changed [call] metrics next := by
  cases call with
  | increment label amount =>
      exact ⟨_, add_of_amount metrics label amount, changed_of_added metrics label amount⟩
  | timing label duration => exact ⟨_, rfl, changed_of_timed metrics label duration⟩

/-- Calls are performed one after the other, and change the metrics as they say. -/
theorem exists_foldlM_perform (metrics : Metrics) (calls : List Call) :
    ∃ next, calls.foldlM perform metrics = .ok next ∧ Changed calls metrics next := by
  induction calls generalizing metrics with
  | nil => exact ⟨metrics, rfl, .nil metrics⟩
  | cons call rest ih =>
      obtain ⟨second, performed, changed⟩ := metrics.exists_perform call
      obtain ⟨last, came, more⟩ := ih second
      refine ⟨last, ?_, changed.append more⟩
      rw [List.foldlM_cons, performed]
      exact came

/-- **Keys decide what is summed.** -/
theorem exists_performAll (calls : List Call) :
    ∃ metrics, performAll calls = .ok metrics ∧ ∀ label : Label,
      (metrics.counterOf label).Sums (amounts (label.keyed calls)) ∧
        metrics.durationsOf label = recorded (label.keyed calls) := by
  obtain ⟨metrics, came, changed⟩ := exists_foldlM_perform {} calls
  refine ⟨metrics, came, fun label => ⟨?_, changed.durations label⟩⟩
  rw [changed.counter]
  exact Tally.sums_foldl _

/-! ## Series kept apart -/

/-- Behind the calls the counter of a series holds the sum of what was added to this series. -/
def CountsOwn (calls : List Call) (label : Label) : Prop :=
  ∃ metrics, performAll calls = .ok metrics ∧
    (metrics.counterOf label).Sums (amounts (label.own calls))

/-- Behind the calls the durations of a series are those that were recorded for this series. -/
def TimesOwn (calls : List Call) (label : Label) : Prop :=
  ∃ metrics, performAll calls = .ok metrics ∧
    metrics.durationsOf label = recorded (label.own calls)

/-- Both the counter and the durations of a series are its own. -/
def KeepsApart (calls : List Call) (label : Label) : Prop :=
  CountsOwn calls label ∧ TimesOwn calls label

/-- A series is kept apart if no other one has its key. -/
theorem keepsApart_of_keys {calls : List Call} {label : Label}
    (keys : ∀ call ∈ calls, call.label.key = label.key → call.label.Same label) :
    KeepsApart calls label := by
  obtain ⟨metrics, came, collected⟩ := exists_performAll calls
  have same : label.keyed calls = label.own calls := by
    refine List.filter_congr fun call among => decide_eq_decide.mpr ?_
    exact ⟨keys call among, Label.key_congr⟩
  obtain ⟨counted, timed⟩ := collected label
  rw [same] at counted timed
  exact ⟨⟨metrics, came, counted⟩, metrics, came, timed⟩

private theorem Label.own_singleton_of_not {label : Label} {call : Call}
    (different : ¬ call.label.Same label) : label.own [call] = [] :=
  List.filter_cons_of_neg fun same => different (of_decide_eq_true same)

section Telling

variable {label other : Label} (key : other.key = label.key)

include key

/-- One increment tells a counter from its own. -/
theorem same_of_countsOwn (own : CountsOwn [.increment other none] label) : other.Same label := by
  obtain ⟨metrics, came, sums⟩ := own
  obtain ⟨_, cameToo, collected⟩ := exists_performAll [.increment other none]
  cases came.symm.trans cameToo
  have counted := (collected label).1
  rw [Label.keyed_singleton key.symm] at counted
  by_contra different
  have nothing : label.own [.increment other none] = [] := Label.own_singleton_of_not different
  rw [nothing] at sums
  cases sums.added.symm.trans counted.added

/-- One duration tells durations from their own. -/
theorem same_of_timesOwn (own : TimesOwn [.timing other .undefined] label) : other.Same label := by
  obtain ⟨metrics, came, durations⟩ := own
  obtain ⟨_, cameToo, collected⟩ := exists_performAll [.timing other .undefined]
  cases came.symm.trans cameToo
  have timed := (collected label).2
  rw [Label.keyed_singleton key.symm] at timed
  by_contra different
  have nothing : label.own [.timing other .undefined] = [] := Label.own_singleton_of_not different
  rw [nothing] at durations
  cases durations.symm.trans timed

end Telling

/-- **Which series are kept apart.** Whatever calls are made for series of some vocabulary, a
counter holds the sum of what was added to its series, exactly if no other series of the vocabulary
has the same key; and so it is with durations. Plain series are kept apart from each other. A series
is kept apart from all others exactly if it has no tags and a name that does not look like a key
with tags. -/
theorem performAll_keepsApart_iff (label : Label) :
    (∀ vocabulary : Label → Prop,
      ((∀ calls, (∀ call ∈ calls, vocabulary call.label) → CountsOwn calls label) ↔
        ∀ other, vocabulary other → other.key = label.key → other.Same label) ∧
      ((∀ calls, (∀ call ∈ calls, vocabulary call.label) → TimesOwn calls label) ↔
        ∀ other, vocabulary other → other.key = label.key → other.Same label)) ∧
      (label.Plain → ∀ calls, (∀ call ∈ calls, call.label.Plain) → KeepsApart calls label) ∧
      (label.Spelled → ((∀ calls, KeepsApart calls label) ↔ label.Alone)) := by
  refine ⟨fun vocabulary => ⟨⟨fun counts other known key => ?_, fun keys calls known => ?_⟩,
    fun times other known key => ?_, fun keys calls known => ?_⟩, fun plain calls others => ?_,
    fun spelled => ?_⟩
  · exact same_of_countsOwn key (counts _ (List.forall_mem_singleton.mpr known))
  · exact (keepsApart_of_keys fun call among => keys call.label (known call among)).1
  · exact same_of_timesOwn key (times _ (List.forall_mem_singleton.mpr known))
  · exact (keepsApart_of_keys fun call among => keys call.label (known call among)).2
  · exact keepsApart_of_keys fun call among => Label.same_of_key_of_plain (others call among) plain
  · rw [Label.alone_iff spelled]
    constructor
    · intro apart other key
      exact same_of_countsOwn key (apart _).1
    · intro keys calls
      exact keepsApart_of_keys fun call _ => keys call.label

/-- A tag whose value has a comma and an equals sign: the series has the key of one with two tags.
That one keeps its own numbers beside plain series, in whatever order its tags are given, but not
beside all series. -/
theorem performAll_keepsApart_iff_of_comma :
    ∃ label reordered other : Label,
      label.name = "errors" ∧
      label.tags = [("code", Text.units "X"), ("variant", Text.units "server")] ∧
      reordered.name = "errors" ∧
      reordered.tags = [("variant", Text.units "server"), ("code", Text.units "X")] ∧
      other.name = "errors" ∧ other.tags = [("code", Text.units "X,variant=server")] ∧
      label.Plain ∧ reordered.Plain ∧
      KeepsApart [.increment label (some (.int 2)), .increment reordered none] label ∧
      label.Spelled ∧ ¬ (∀ calls, KeepsApart calls label) ∧
      other.key = label.key ∧ ¬ other.Same label ∧
      ¬ ∀ calls, (∀ call ∈ calls, call.label = other) → CountsOwn calls label := by
  let label : Label :=
    ⟨"errors", [("code", Text.units "X"), ("variant", Text.units "server")], by decide⟩
  let reordered : Label :=
    ⟨"errors", [("variant", Text.units "server"), ("code", Text.units "X")], by decide⟩
  let other : Label := ⟨"errors", [("code", Text.units "X,variant=server")], by decide⟩
  have plain : label.Plain := ⟨by decide, by decide⟩
  have plainToo : reordered.Plain := ⟨by decide, by decide⟩
  have key : other.key = label.key := by cbv
  have different : ¬ other.Same label := by decide
  have spelled : label.Spelled :=
    List.forall_mem_cons.mpr ⟨.units _, List.forall_mem_singleton.mpr (.units _)⟩
  obtain ⟨exact, apart, always⟩ := performAll_keepsApart_iff label
  have untagged (alone : label.Alone) : False := List.cons_ne_nil _ _ alone.untagged
  have kept := apart plain [.increment label (some (.int 2)), .increment reordered none]
    (List.forall_mem_cons.mpr ⟨plain, List.forall_mem_singleton.mpr plainToo⟩)
  refine ⟨label, reordered, other, rfl, rfl, rfl, rfl, rfl, rfl, plain, plainToo, kept,
    spelled, fun all => untagged ((always spelled).mp all), key, different, fun counts => ?_⟩
  exact different ((exact (· = other)).1.mp counts other rfl key)

end Metrics

end QueryBind
