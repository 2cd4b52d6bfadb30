import Mathlib.Algebra.BigOperators.Group.Finset.Basic
import Mathlib.Algebra.GroupWithZero.Nat
import QueryBind.Proofs.Converter.Events

/-! # Counters, statistics and caches

Every event of a run adds to the series that it stands for, and to the statistics of a cache with
them. So over a run the counters and the statistics hold the numbers of events of their kinds, and
cannot drift apart (`Converter.runAll_reconciled`).
-/

namespace QueryBind

/-- The codes of the errors of the library. -/
def ErrorClass.codes : Finset String :=
  {configuration.code, unsupportedEncoding.code, malformedPlaceholder.code, mixedPlaceholders.code,
    conflictingFormat.code, paramsShape.code, paramCount.code, missingParams.code,
    notConverted.code, conversion.code, execution.code}

private theorem ErrorClass.code_mem_codes (errorClass : ErrorClass) : errorClass.code ∈ codes := by
  cases errorClass <;> simp [codes]

namespace Converter

private theorem codeOf_mem_codes {α : Type} {outcome : Except Fault α} {code : String}
    (thrown : codeOf outcome = some code) : code ∈ ErrorClass.codes := by
  unfold codeOf at thrown
  split at thrown
  · next error =>
      cases thrown
      exact error.errorClass.code_mem_codes
  · cases thrown

private theorem Answer.code?_mem_codes {variant : Variant} {answer : Answer} {code : String}
    (thrown : answer.code? variant = some code) : code ∈ ErrorClass.codes := by
  cases answer with
  | server outcome | client outcome =>
      simp only [code?] at thrown
      split at thrown
      · exact codeOf_mem_codes thrown
      · cases thrown
  | cleared => cases thrown

private theorem fst_runAll_cons (converter : Converter) (call : Call) (rest : List Call) :
    (converter.runAll (call :: rest)).1 =
      (call.run converter).1 :: ((call.run converter).2.runAll rest).1 :=
  rfl

/-! ## Runs -/

/-- What happens in a run. -/
def events (converter : Converter) : List Call → List Event
  | [] => []
  | call :: rest => (call.event? converter).toList ++ events (call.run converter).2 rest

/-- How many ones are added to a series of a variant. -/
def added (events : List Event) (variant : Variant) (series : Series) : Nat :=
  (events.map (·.adds variant series)).sum

/-- What a converter shows at the end of every period of a run, added up. A period ends where the
caches are emptied, and at the end of the run. -/
def acrossPeriods (read : Converter → Nat) (converter : Converter) : List Call → Nat
  | [] => read converter
  | .clear :: rest => read converter + acrossPeriods read converter.clearCaches rest
  | call :: rest => acrossPeriods read (call.run converter).2 rest

private theorem added_cons (event : Event) (events : List Event) (variant : Variant)
    (series : Series) :
    added (event :: events) variant series =
      event.adds variant series + added events variant series := by
  rw [added, List.map_cons, List.sum_cons]
  rfl

private theorem events_cons_of_event {converter : Converter} {call : Call} {event : Event}
    (happened : call.event? converter = some event) (rest : List Call) :
    events converter (call :: rest) = event :: events (call.run converter).2 rest := by
  rw [events, happened]
  rfl

private theorem snd_runAll_cons (converter : Converter) (call : Call) (rest : List Call) :
    (converter.runAll (call :: rest)).2 = ((call.run converter).2.runAll rest).2 :=
  rfl

/-- A run adds to a series what its events add. -/
theorem tally_runAll (converter : Converter) (calls : List Call) (variant : Variant)
    (series : Series) :
    (converter.runAll calls).2.tally variant series =
      (converter.tally variant series).plus (added (events converter calls) variant series) := by
  induction calls generalizing converter with
  | nil => rfl
  | cons call rest ih =>
      rw [snd_runAll_cons, ih]
      obtain ⟨event, happened⟩ | rfl := event_cases converter call
      · rw [events_cons_of_event happened, added_cons, tally_of_tells (run_tells happened),
          ← Tally.plus_add]
      · rfl

/-- Statistics that every event changes as it adds to a series, and that are zero behind a clearing,
add up to the ones that were added. -/
theorem acrossPeriods_eq {read : Converter → Nat} {variant : Variant} {series : Series}
    (steps : ∀ {event : Event} {before after : Converter}, event.Tells before after →
      read after = read before + event.adds variant series)
    (cleared : ∀ converter : Converter, read converter.clearCaches = 0) (converter : Converter)
    (calls : List Call) :
    acrossPeriods read converter calls =
      read converter + added (events converter calls) variant series := by
  induction calls generalizing converter with
  | nil => rfl
  | cons call rest ih =>
      obtain ⟨event, happened⟩ | rfl := event_cases converter call
      · have same : acrossPeriods read converter (call :: rest) =
            acrossPeriods read (call.run converter).2 rest := by
          cases call with
          | server query encoding count => rfl
          | client query encoding count => rfl
          | clear => cases happened
        rw [same, ih, events_cons_of_event happened, added_cons, steps (run_tells happened),
          Nat.add_assoc]
      · rw [acrossPeriods, ih, cleared, Nat.zero_add]
        rfl

/-! ## What the counters stand for -/

/-- Conversions are those that went past the cache, the hits and the misses. -/
theorem added_balance (events : List Event) (variant : Variant) :
    added events variant .conversions = added events variant .bypasses +
      added events variant .hits + added events variant .misses := by
  induction events with
  | nil => rfl
  | cons event events ih =>
      rw [added_cons, added_cons, added_cons, added_cons, ih, event.adds_balance]
      omega

section Run

variable (converter : Converter) (calls : List Call) (variant : Variant)

/-- A run adds as many conversions as it has calls of the variant. -/
theorem added_conversions :
    added (events converter calls) variant .conversions = calls.countP (·.isOf variant) := by
  induction calls generalizing converter with
  | nil => rfl
  | cons call rest ih =>
      obtain ⟨event, happened⟩ | rfl := event_cases converter call
      · rw [events_cons_of_event happened, added_cons, ih, List.countP_cons,
          isOf_of_event happened, event.adds_conversions, Nat.add_comm]
        simp only [decide_eq_true_eq]
      · exact ih _

/-- A run adds as many bypasses as it has calls that go past the cache. -/
theorem added_bypasses :
    added (events converter calls) variant .bypasses =
      calls.countP fun call => call.isOf variant && call.goesPast converter.config := by
  induction calls generalizing converter with
  | nil => rfl
  | cons call rest ih =>
      obtain ⟨event, happened⟩ | rfl := event_cases converter call
      · rw [events_cons_of_event happened, added_cons, ih, List.countP_cons,
          isOf_of_event happened, goesPast_of_event happened, event.adds_bypasses,
          (run_tells happened).config, Nat.add_comm]
        simp only [Bool.and_eq_true, decide_eq_true_eq]
      · exact ih _

/-- A run adds as many errors as it has answers with the code. -/
theorem added_errors (code : String) :
    added (events converter calls) variant (.errors code) =
      (converter.runAll calls).1.countP (·.code? variant = some code) := by
  induction calls generalizing converter with
  | nil => rfl
  | cons call rest ih =>
      rw [fst_runAll_cons, List.countP_cons, ← ih]
      obtain ⟨event, happened⟩ | rfl := event_cases converter call
      · rw [events_cons_of_event happened, added_cons, code?_of_event happened,
          event.adds_errors, Nat.add_comm]
        by_cases same : variant = event.variant
        · simp only [same, true_and, if_true, decide_eq_true_eq]
        · simp only [same, false_and, if_false, reduceCtorEq, decide_false, Bool.false_eq_true]
      · rfl

/-- Every error has a code. -/
theorem threw_eq_isSome :
    ∀ answer ∈ (converter.runAll calls).1,
      answer.threw variant = (answer.code? variant).isSome := by
  induction calls generalizing converter with
  | nil => nofun
  | cons call rest ih =>
      rw [fst_runAll_cons]
      refine List.forall_mem_cons.mpr ⟨?_, ih _⟩
      obtain ⟨event, happened⟩ | rfl := event_cases converter call
      · rw [threw_of_event happened, code?_of_event happened]
        by_cases same : variant = event.variant
        · simp only [same, decide_true, Bool.true_and, if_true]
        · simp only [same, decide_false, Bool.false_and, if_false, Option.isSome_none]
      · rfl

/-- Summed over the codes, the errors are the answers that are errors. -/
theorem countP_threw :
    (converter.runAll calls).1.countP (·.threw variant) =
      ∑ code ∈ ErrorClass.codes,
        (converter.runAll calls).1.countP (·.code? variant = some code) := by
  let answers := (converter.runAll calls).1
  let thrown := answers.filterMap (·.code? variant)
  have known : ∀ code ∈ (thrown : Multiset String), code ∈ ErrorClass.codes := by
    intro code among
    obtain ⟨answer, -, coded⟩ := List.mem_filterMap.mp among
    exact answer.code?_mem_codes coded
  calc
    answers.countP (·.threw variant) = answers.countP fun answer => (answer.code? variant).isSome :=
      List.countP_congr fun answer among => by
        rw [threw_eq_isSome converter calls variant answer among]
    _ = thrown.length := List.length_filterMap_eq_countP.symm
    _ = ∑ code ∈ ErrorClass.codes, thrown.count code := by
      rw [← Multiset.coe_card, ← Multiset.sum_count_eq_card known]
      simp only [Multiset.coe_count]
    _ = ∑ code ∈ ErrorClass.codes, answers.countP (·.code? variant = some code) :=
      Finset.sum_congr rfl fun code _ => by
        rw [List.count_filterMap]
        simp only [beq_eq_decide]

private theorem config_runAll : (converter.runAll calls).2.config = converter.config := by
  induction calls generalizing converter with
  | nil => rfl
  | cons call rest ih =>
      rw [snd_runAll_cons, ih]
      obtain ⟨event, happened⟩ | rfl := event_cases converter call
      · exact (run_tells happened).config
      · rfl

end Run

/-- A converter whose counters and statistics are zero. -/
structure Uncounted (converter : Converter) : Prop where
  hits : ∀ variant, (converter.stats variant).hits = 0
  misses : ∀ variant, (converter.stats variant).misses = 0
  counters : converter.telemetry.metrics.counters = []

/-- A converter with caches of its own begins that way. -/
theorem uncounted_of_ofConfig {config : Config} {context : Fields} {converter : Converter}
    (made : ofConfig config none none context = .ok converter) : converter.Uncounted := by
  unfold ofConfig at made
  obtain ⟨server, served, later⟩ := Outcome.bind_eq_ok.mp made
  obtain ⟨client, cliented, result⟩ := Outcome.bind_eq_ok.mp later
  obtain ⟨capacity, -, rfl⟩ := Outcome.map_eq_ok.mp served
  obtain ⟨again, -, rfl⟩ := Outcome.map_eq_ok.mp cliented
  cases result
  refine ⟨?_, ?_, rfl⟩
  · intro variant
    cases variant <;> rfl
  · intro variant
    cases variant <;> rfl

/-- The counters of a variant and the statistics of its cache after a run agree with each other,
with the calls and with the answers. -/
structure Reconciled (start : Converter) (calls : List Call) (variant : Variant) : Prop where
  conversions : ((start.runAll calls).2.tally variant .conversions).Counts
    (calls.countP (·.isOf variant))
  bypasses : ((start.runAll calls).2.tally variant .bypasses).Counts
    (calls.countP fun call => call.isOf variant && call.goesPast start.config)
  hits : ((start.runAll calls).2.tally variant .hits).Counts
    (start.acrossPeriods (fun converter => (converter.stats variant).hits) calls)
  misses : ((start.runAll calls).2.tally variant .misses).Counts
    (start.acrossPeriods (fun converter => (converter.stats variant).misses) calls)
  balance : calls.countP (·.isOf variant) =
    (calls.countP fun call => call.isOf variant && call.goesPast start.config) +
      start.acrossPeriods (fun converter => (converter.stats variant).hits) calls +
      start.acrossPeriods (fun converter => (converter.stats variant).misses) calls
  errors : ∀ code, ((start.runAll calls).2.tally variant (.errors code)).Counts
    ((start.runAll calls).1.countP (·.code? variant = some code))
  failures : (start.runAll calls).1.countP (·.threw variant) =
    ∑ code ∈ ErrorClass.codes, (start.runAll calls).1.countP (·.code? variant = some code)

/-- A series counts what the events of a run add. -/
theorem Uncounted.counts {start : Converter} (uncounted : start.Uncounted) (calls : List Call)
    (variant : Variant) (series : Series) :
    ((start.runAll calls).2.tally variant series).Counts
      (added (start.events calls) variant series) := by
  have began : start.tally variant series = .zero := by
    unfold tally Metrics.tally Metrics.counter
    rw [uncounted.counters]
    rfl
  rw [tally_runAll, began]
  exact Tally.counts_plus _

/-- The hits of all periods are those of the events. -/
theorem Uncounted.acrossPeriods_hits {start : Converter} (uncounted : start.Uncounted)
    (calls : List Call) (variant : Variant) :
    start.acrossPeriods (fun converter => (converter.stats variant).hits) calls =
      added (start.events calls) variant .hits := by
  rw [acrossPeriods_eq (fun tells => tells.hits variant) (fun _ => by cases variant <;> rfl),
    uncounted.hits, Nat.zero_add]

/-- The misses of all periods are those of the events. -/
theorem Uncounted.acrossPeriods_misses {start : Converter} (uncounted : start.Uncounted)
    (calls : List Call) (variant : Variant) :
    start.acrossPeriods (fun converter => (converter.stats variant).misses) calls =
      added (start.events calls) variant .misses := by
  rw [acrossPeriods_eq (fun tells => tells.misses variant) (fun _ => by cases variant <;> rfl),
    uncounted.misses, Nat.zero_add]

/-- After a run counters and statistics agree with the calls and the answers. -/
theorem Uncounted.reconciled {start : Converter} (uncounted : start.Uncounted) (calls : List Call)
    (variant : Variant) : start.Reconciled calls variant where
  conversions := by
    rw [← added_conversions]
    exact uncounted.counts calls variant .conversions
  bypasses := by
    rw [← added_bypasses]
    exact uncounted.counts calls variant .bypasses
  hits := by
    rw [uncounted.acrossPeriods_hits]
    exact uncounted.counts calls variant .hits
  misses := by
    rw [uncounted.acrossPeriods_misses]
    exact uncounted.counts calls variant .misses
  balance := by
    rw [← added_conversions start, ← added_bypasses, uncounted.acrossPeriods_hits,
      uncounted.acrossPeriods_misses]
    exact added_balance (start.events calls) variant
  errors := fun code => by
    rw [← added_errors]
    exact uncounted.counts calls variant (.errors code)
  failures := countP_threw start calls variant

/-- **Counters, statistics and caches agree.** A converter that has counted nothing yet is asked any
calls. For either variant, its queries are those that went past the cache, the hits and the misses,
where hits and misses are those of the cache, added up over the periods between clearings; its
errors are the answers that are errors, code by code. No call that goes past the cache changes a
cache, and none that fails changes the entries of one. -/
theorem runAll_reconciled {start : Converter} (uncounted : start.Uncounted) (calls : List Call) :
    (∀ variant, start.Reconciled calls variant) ∧
      ∀ past call later, calls = past ++ call :: later →
        let before := (start.runAll past).2
        let after := (call.run before).2
        (call.goesPast start.config = true →
          after.serverCache = before.serverCache ∧ after.clientCache = before.clientCache) ∧
        ∀ variant, (call.run before).1.threw variant = true →
          after.serverCache.entries = before.serverCache.entries ∧
            after.clientCache.entries = before.clientCache.entries := by
  refine ⟨uncounted.reconciled calls, fun past call later _ => ?_⟩
  have untouched := run_untouched (start.runAll past).2 call
  rw [config_runAll] at untouched
  exact untouched

/-- A new converter: a miss, a hit, a query that has no scan, one that goes past the cache, a fresh
start and a miss again. -/
theorem runAll_reconciled_of_one_place :
    let config : Config :=
      { Config.standard with cacheCapacity := .int 1, maxStatementParams := .int 1 }
    let start : Converter :=
      ⟨config, { capacity := .int 1 }, { capacity := .int 1 }, ⟨component, [], {}⟩⟩
    let calls : List Call := [.server [0x25, 0x73] "utf8" (.int 1),
      .server [0x25, 0x73] "utf8" (.int 1), .server [0x25, 0x28] "utf8" (.int 0),
      .server [0x25, 0x73] "utf8" (.int 2), .clear, .server [0x25, 0x73] "utf8" (.int 1)]
    let left := (start.runAll calls).2
    ofConfig config none none [] = .ok start ∧ start.Uncounted ∧
      left.tally .server .conversions = .number (.int 5) ∧
      left.tally .server .bypasses = .number (.int 1) ∧
      (left.stats .server).misses = 1 ∧ start.Reconciled calls .client := by
  intro config start calls left
  have made : ofConfig config none none [] = .ok start := rfl
  have uncounted := uncounted_of_ofConfig made
  obtain ⟨reconciled, -⟩ := runAll_reconciled uncounted calls
  refine ⟨made, uncounted, ?_, ?_, ?_, reconciled .client⟩
  · exact (reconciled .server).conversions.exact (by decide)
  · exact (reconciled .server).bypasses.exact (by decide)
  · decide +kernel

end Converter

end QueryBind
