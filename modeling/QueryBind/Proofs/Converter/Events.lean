import QueryBind.Proofs.Converter.Series
import QueryBind.Proofs.Converter.Transparency
import QueryBind.Proofs.Outcome

/-! # Calls as events

A call to a converter is an event: the converter looked for the query in a cache and found it or
not, or went past the cache, and it answered or threw an error with a code. The event says which
ones are added to which series (`Converter.Event.series`), what happens to the statistics of the
caches, and which entries stay as they are (`Converter.run_tells`).
-/

namespace QueryBind

namespace Converter

/-! ## Events -/

/-- What happened at a call. -/
structure Event where
  variant : Variant
  /-- Where the converter had the query from, or would have had it from. -/
  source : Source
  /-- The code of the error that was thrown, if one was. -/
  code? : Option String

namespace Event

/-- The series that ones are added to. -/
def series (event : Event) : List Series :=
  .conversions ::
    (match event.source with
      | .cache => .hits
      | .parsed => .misses
      | .bypass => .bypasses) ::
    event.code?.toList.map .errors

/-- How many ones are added to a series of a variant. -/
def adds (event : Event) (variant : Variant) (series : Series) : Nat :=
  if variant = event.variant then event.series.count series else 0

end Event

/-- The code of an error of the library that an outcome is. -/
def codeOf {α : Type} : Except Fault α → Option String
  | .error (.query error) => some error.code
  | _ => none

private theorem codeOf_map {α β : Type} (f : α → β) (outcome : Except Fault α) :
    codeOf (outcome.map f) = codeOf outcome := by
  cases outcome with
  | error fault => cases fault <;> rfl
  | ok value => rfl

private theorem isOk_map {α β : Type} (f : α → β) (outcome : Except Fault α) :
    (outcome.map f).isOk = outcome.isOk := by
  cases outcome <;> rfl

section Parse

variable {ν : Type}

/-- Where a query comes from, if it comes from anywhere. -/
def sourceOf (config : Config) (cache : Lru String ν) (query : Bytes) (encoding : String)
    (count : Number) : Source :=
  match isCacheable config query (.number count) with
  | .ok true => if (cache.peek (cacheKey encoding query)).isSome then .cache else .parsed
  | _ => .bypass

/-- A query goes past the cache if it is too long or has too many parameters. -/
theorem decide_sourceOf (config : Config) (cache : Lru String ν) (query : Bytes)
    (encoding : String) (count : Number) :
    decide (sourceOf config cache query encoding count = .bypass) =
      !((Number.ofNat query.length).le config.maxStatementLength &&
        count.le config.maxStatementParams) := by
  have decided : isCacheable config query (.number count) =
      .ok ((Number.ofNat query.length).le config.maxStatementLength &&
        count.le config.maxStatementParams) := by
    unfold isCacheable
    cases (Number.ofNat query.length).le config.maxStatementLength <;> rfl
  unfold sourceOf
  rw [decided]
  cases (Number.ofNat query.length).le config.maxStatementLength &&
    count.le config.maxStatementParams with
  | true => cases (cache.peek (cacheKey encoding query)).isSome <;> rfl
  | false => rfl

/-- A parse behaved as its event says: it added to the series of the event, the statistics of the
cache changed with the counters, the cache was left alone by a bypass and kept its entries behind a
failure, and nothing but errors of the library was thrown. -/
structure Reports (event : Event) (cache : Lru String ν) (metrics : Metrics)
    (ran : Except Fault (Parsed ν) × Lru String ν × Telemetry) : Prop where
  metrics : ran.2.2.metrics = metrics.addOnes event.variant event.series
  hits : ran.2.1.hits = cache.hits + event.series.count .hits
  misses : ran.2.1.misses = cache.misses + event.series.count .misses
  bypass : event.source = .bypass → ran.2.1 = cache
  failure : event.code?.isSome = true → ran.2.1.entries = cache.entries
  outcome : event.code?.isSome = !ran.1.isOk

private theorem statistics_set (cache : Lru String ν) (key : String) (value : Option ν) :
    (cache.set key value).hits = cache.hits ∧ (cache.set key value).misses = cache.misses := by
  unfold Lru.set
  split <;> exact ⟨rfl, rfl⟩

variable (variant : Variant) (assemble : String → Bytes → Except QueryError ν)
  (cache : Lru String ν) (telemetry : Telemetry) (query : Bytes) (encoding : String)

/-- Going past the cache is reported as that. -/
theorem parsePast_reports (count : Value) :
    let started := telemetry.count MetricName.conversions (tags variant)
    let ran := parsePast variant assemble started query encoding count
    Reports ⟨variant, .bypass, codeOf ran.1⟩ cache telemetry.metrics (ran.1, cache, ran.2) := by
  intro started ran
  unfold ran parsePast
  cases assemble encoding query with
  | ok parsed => exact ⟨rfl, rfl, rfl, fun _ => rfl, fun _ => rfl, rfl⟩
  | error error => exact ⟨rfl, rfl, rfl, fun _ => rfl, fun _ => rfl, rfl⟩

/-- A look-up that finds something is a hit, whatever comes of it; one that does not is a miss, and
what is stored behind it changes no statistics. -/
theorem parseThrough_reports :
    let started := telemetry.count MetricName.conversions (tags variant)
    let ran := parseThrough variant assemble cache started query encoding
    let source : Source :=
      if (cache.peek (cacheKey encoding query)).isSome then .cache else .parsed
    Reports ⟨variant, source, codeOf ran.1⟩ cache telemetry.metrics ran := by
  intro started ran source
  unfold ran parseThrough source
  unfold Lru.get
  cases found : cache.peek (cacheKey encoding query) with
  | some parsed => exact ⟨rfl, rfl, rfl, nofun, nofun, rfl⟩
  | none =>
      cases assemble encoding query with
      | ok parsed =>
          have stats := statistics_set { cache with misses := cache.misses + 1 }
            (cacheKey encoding query) (some parsed)
          exact ⟨rfl, stats.1, stats.2, nofun, nofun, rfl⟩
      | error error => exact ⟨rfl, rfl, rfl, nofun, fun _ => rfl, rfl⟩

/-- Parsing is reported with where the query came from, and what it came to. -/
theorem parse_reports (config : Config) (count : Number) :
    let ran := parse config variant assemble cache telemetry query encoding (.number count)
    Reports ⟨variant, sourceOf config cache query encoding count, codeOf ran.1⟩ cache
      telemetry.metrics ran := by
  obtain ⟨decision, decided⟩ := isCacheable_number config query count
  unfold parse sourceOf
  rw [decided]
  cases decision with
  | true => exact parseThrough_reports variant assemble cache telemetry query encoding
  | false => exact parsePast_reports variant assemble cache telemetry query encoding _

end Parse

/-! ## Calls -/

/-- The statistics of the cache of a variant. -/
def stats (converter : Converter) : Variant → CacheStats
  | .server => converter.serverCache.stats
  | .client => converter.clientCache.stats

/-- The counter of a series of a variant. -/
def tally (converter : Converter) (variant : Variant) (series : Series) : Tally :=
  converter.telemetry.metrics.tally variant series

namespace Call

/-- Whether a query of a variant is to be parsed. -/
def isOf (variant : Variant) : Call → Bool
  | .server .. => variant = .server
  | .client .. => variant = .client
  | .clear => false

/-- Whether a query is too long to be kept, or has too many parameters. What is not a number is too
many. -/
def goesPast (config : Config) : Call → Bool
  | .server query _ count | .client query _ count =>
    !((Number.ofNat query.length).le config.maxStatementLength &&
      count.le config.maxStatementParams)
  | .clear => false

/-- What happens at a call; nothing is counted when the caches are emptied. -/
def event? (converter : Converter) : Call → Option Event
  | .server query encoding count =>
    some ⟨.server, sourceOf converter.config converter.serverCache query encoding count,
      codeOf (converter.parseServer query encoding (.number count)).1⟩
  | .client query encoding count =>
    some ⟨.client, sourceOf converter.config converter.clientCache query encoding count,
      codeOf (converter.parseClient query encoding (.number count)).1⟩
  | .clear => none

end Call

/-- The code of the error that an answer for a variant is. -/
def Answer.code? (variant : Variant) : Answer → Option String
  | .server outcome => if variant = .server then codeOf outcome else none
  | .client outcome => if variant = .client then codeOf outcome else none
  | .cleared => none

/-- Whether an answer for a variant is an error, of whatever kind. -/
def Answer.threw (variant : Variant) : Answer → Bool
  | .server outcome => variant = .server && !outcome.isOk
  | .client outcome => variant = .client && !outcome.isOk
  | .cleared => false

/-- What an event says about the converters before and behind it. -/
structure Event.Tells (event : Event) (before after : Converter) : Prop where
  metrics : after.telemetry.metrics =
    before.telemetry.metrics.addOnes event.variant event.series
  hits : ∀ variant, (after.stats variant).hits =
    (before.stats variant).hits + event.adds variant .hits
  misses : ∀ variant, (after.stats variant).misses =
    (before.stats variant).misses + event.adds variant .misses
  bypass : event.source = .bypass →
    after.serverCache = before.serverCache ∧ after.clientCache = before.clientCache
  failure : event.code?.isSome = true →
    after.serverCache.entries = before.serverCache.entries ∧
      after.clientCache.entries = before.clientCache.entries
  config : after.config = before.config

/-- A call changes the converter as its event tells. -/
theorem run_tells {converter : Converter} {call : Call} {event : Event}
    (happened : call.event? converter = some event) :
    event.Tells converter (call.run converter).2 := by
  cases call with
  | server query encoding count =>
      cases happened
      have reports := parse_reports .server ServerQuery.ofBytes converter.serverCache
        converter.telemetry query encoding converter.config count
      exact {
        metrics := reports.metrics
        hits := fun variant => by
          cases variant with
          | server => exact reports.hits
          | client => rfl
        misses := fun variant => by
          cases variant with
          | server => exact reports.misses
          | client => rfl
        bypass := fun past => ⟨reports.bypass past, rfl⟩
        failure := fun failed => ⟨reports.failure failed, rfl⟩
        config := rfl }
  | client query encoding count =>
      cases happened
      have reports := parse_reports .client ClientQuery.ofBytes converter.clientCache
        converter.telemetry query encoding converter.config count
      exact {
        metrics := reports.metrics
        hits := fun variant => by
          cases variant with
          | server => rfl
          | client => exact reports.hits
        misses := fun variant => by
          cases variant with
          | server => rfl
          | client => exact reports.misses
        bypass := fun past => ⟨rfl, reports.bypass past⟩
        failure := fun failed => ⟨rfl, reports.failure failed⟩
        config := rfl }
  | clear => cases happened

/-- An event adds to the series of its own variant what it tells. -/
theorem tally_of_tells {event : Event} {before after : Converter} (tells : event.Tells before after)
    (variant : Variant) (series : Series) :
    after.tally variant series =
      (before.tally variant series).plus (event.adds variant series) := by
  unfold tally
  rw [tells.metrics, Metrics.tally_addOnes]
  rfl

/-- A call is an event, or empties the caches. -/
theorem event_cases (converter : Converter) (call : Call) :
    (∃ event, call.event? converter = some event) ∨ call = .clear := by
  cases call with
  | server query encoding count => exact .inl ⟨_, rfl⟩
  | client query encoding count => exact .inl ⟨_, rfl⟩
  | clear => exact .inr rfl

/-! ## What an event stands for -/

namespace Event

/-- An event is one conversion of its variant. -/
theorem adds_conversions (event : Event) (variant : Variant) :
    event.adds variant .conversions = if variant = event.variant then 1 else 0 := by
  obtain ⟨_, source, code⟩ := event
  unfold adds series
  cases source <;> cases code <;> rfl

/-- An event is a bypass of its variant if it went past the cache. -/
theorem adds_bypasses (event : Event) (variant : Variant) :
    event.adds variant .bypasses =
      if variant = event.variant ∧ event.source = .bypass then 1 else 0 := by
  obtain ⟨_, source, code⟩ := event
  unfold adds series
  cases source <;> cases code <;> simp

/-- An event is an error of its variant if it has the code. -/
theorem adds_errors (event : Event) (variant : Variant) (code : String) :
    event.adds variant (.errors code) =
      if variant = event.variant ∧ event.code? = some code then 1 else 0 := by
  obtain ⟨own, source, thrown⟩ := event
  unfold adds series
  by_cases same : variant = own
  · cases source <;> cases thrown <;> simp [same, List.count_cons]
  · simp [same]

/-- Every query is found, is looked for in vain, or goes past the cache. -/
theorem adds_balance (event : Event) (variant : Variant) :
    event.adds variant .conversions = event.adds variant .bypasses + event.adds variant .hits +
      event.adds variant .misses := by
  obtain ⟨_, source, code⟩ := event
  unfold adds series
  split
  · cases source <;> cases code <;> rfl
  · rfl

end Event

section Happened

variable {converter : Converter} {call : Call} {event : Event}
  (happened : call.event? converter = some event) (variant : Variant)

include happened

/-- A call is of the variant of its event. -/
theorem isOf_of_event : call.isOf variant = decide (variant = event.variant) := by
  cases call <;> cases happened <;> rfl

/-- A call goes past the cache if its event does. -/
theorem goesPast_of_event :
    call.goesPast converter.config = decide (event.source = .bypass) := by
  cases call with
  | server query encoding count =>
      cases happened
      exact (decide_sourceOf converter.config converter.serverCache query encoding count).symm
  | client query encoding count =>
      cases happened
      exact (decide_sourceOf converter.config converter.clientCache query encoding count).symm
  | clear => cases happened

/-- The error that is answered is the one of the event. -/
theorem code?_of_event : (call.run converter).1.code? variant =
    if variant = event.variant then event.code? else none := by
  cases call with
  | server query encoding count =>
      cases happened
      exact congrArg (fun code => if variant = .server then code else none) (codeOf_map _ _)
  | client query encoding count =>
      cases happened
      exact congrArg (fun code => if variant = .client then code else none) (codeOf_map _ _)
  | clear => cases happened

/-- A converter throws no errors but those of the library. -/
theorem threw_of_event : (call.run converter).1.threw variant =
    (decide (variant = event.variant) && event.code?.isSome) := by
  cases call with
  | server query encoding count =>
      cases happened
      have reports := parse_reports .server ServerQuery.ofBytes converter.serverCache
        converter.telemetry query encoding converter.config count
      refine congrArg (decide (variant = .server) && ·) (Eq.trans ?_ reports.outcome.symm)
      exact congrArg (!·) (isOk_map _ _)
  | client query encoding count =>
      cases happened
      have reports := parse_reports .client ClientQuery.ofBytes converter.clientCache
        converter.telemetry query encoding converter.config count
      refine congrArg (decide (variant = .client) && ·) (Eq.trans ?_ reports.outcome.symm)
      exact congrArg (!·) (isOk_map _ _)
  | clear => cases happened

end Happened

/-- A call that goes past the cache leaves both caches alone, and one that fails leaves both their
entries. -/
theorem run_untouched (converter : Converter) (call : Call) :
    (call.goesPast converter.config = true →
      (call.run converter).2.serverCache = converter.serverCache ∧
        (call.run converter).2.clientCache = converter.clientCache) ∧
      ∀ variant, (call.run converter).1.threw variant = true →
        (call.run converter).2.serverCache.entries = converter.serverCache.entries ∧
          (call.run converter).2.clientCache.entries = converter.clientCache.entries := by
  obtain ⟨event, happened⟩ | rfl := event_cases converter call
  · have tells := run_tells happened
    constructor
    · intro past
      rw [goesPast_of_event happened] at past
      exact tells.bypass (of_decide_eq_true past)
    · intro variant threw
      rw [threw_of_event happened, Bool.and_eq_true] at threw
      exact tells.failure threw.2
  · exact ⟨nofun, fun _ => nofun⟩

end Converter

end QueryBind
