import QueryBind.Converter.Basic
import QueryBind.Proofs.Cache.Holdings
import QueryBind.Proofs.Text.EncodingName
import QueryBind.Proofs.Text.Octets
import QueryBind.Proofs.Text.Separated

/-! # The caches of a converter do not show

A converter whose caches were empty once answers every call as if it had none. The invariant is
that each cached query is what its key was parsed to (`Converter.Sound`); it survives hits,
misses, failures, bypasses and evictions, because a store is the only way into a cache and keys
of different queries differ (`Converter.cacheKey_injective`). `Converter.runAll_eq_assembled` is
the statement about whole runs.
-/

namespace QueryBind.Converter

/-- What may be kept under a key: a parse of the query that the key belongs to. -/
def Parses {ν : Type} (assemble : String → Bytes → Except QueryError ν) (key : String)
    (parsed : ν) : Prop :=
  ∃ encoding query, '\x00' ∉ encoding.toList ∧ key = cacheKey encoding query ∧
    assemble encoding query = .ok parsed

/-- Both caches hold parses and nothing else. -/
structure Sound (converter : Converter) : Prop where
  server : converter.serverCache.Holds (Parses ServerQuery.ofBytes)
  client : converter.clientCache.Holds (Parses ClientQuery.ofBytes)

/-- Keys of different queries, or of one query in different encodings, differ. -/
theorem cacheKey_injective {encoding other : String} {query inquiry : Bytes}
    (plain : '\x00' ∉ encoding.toList) (plainToo : '\x00' ∉ other.toList)
    (same : cacheKey encoding query = cacheKey other inquiry) :
    encoding = other ∧ query = inquiry := by
  have spelled := congrArg String.toList same
  simp only [cacheKey, String.toList_append] at spelled
  rw [List.append_assoc, List.append_assoc] at spelled
  obtain ⟨sameName, sameBytes⟩ := Text.append_separator_injective plain plainToo spelled
  exact ⟨String.toList_inj.mp sameName,
    Text.Codec.latin1Text_injective (String.toList_inj.mp sameBytes)⟩

section Parse

variable {ν : Type} {assemble : String → Bytes → Except QueryError ν} {cache : Lru String ν}
  {encoding : String}

/-- What is found under the key of a query is the parse of that query. -/
theorem assemble_of_peek (sound : cache.Holds (Parses assemble)) (plain : '\x00' ∉ encoding.toList)
    {query : Bytes} {parsed : ν} (found : cache.peek (cacheKey encoding query) = some parsed) :
    assemble encoding query = .ok parsed := by
  obtain ⟨other, inquiry, plainToo, same, parses⟩ := sound.peek found
  obtain ⟨rfl, rfl⟩ := cacheKey_injective plain plainToo same
  exact parses

variable (config : Config) (variant : Variant) (telemetry : Telemetry) (query : Bytes)

/-- A number of parameters can always be compared with the limit. -/
theorem isCacheable_number (count : Number) :
    ∃ decision, isCacheable config query (.number count) = .ok decision := by
  unfold isCacheable
  split
  · exact ⟨_, rfl⟩
  · exact ⟨_, rfl⟩

/-- Past the cache a query is what assembling it comes to. -/
theorem parsePast_outcome (count : Value) :
    (parsePast variant assemble telemetry query encoding count).1.map (·.query) =
      (assemble encoding query).mapError .query := by
  unfold parsePast
  cases assemble encoding query <;> rfl

/-- Through a sound cache a query is what assembling it comes to. -/
theorem parseThrough_outcome (sound : cache.Holds (Parses assemble))
    (plain : '\x00' ∉ encoding.toList) :
    (parseThrough variant assemble cache telemetry query encoding).1.map (·.query) =
      (assemble encoding query).mapError .query := by
  have looked : (cache.get (cacheKey encoding query)).1 = cache.peek (cacheKey encoding query) :=
    Lru.fst_get cache _
  unfold parseThrough
  split
  · next parsed used found =>
      rw [found] at looked
      rw [assemble_of_peek sound plain looked.symm]
      rfl
  · cases assemble encoding query <;> rfl

/-- A sound cache is left sound. -/
theorem parseThrough_holds (sound : cache.Holds (Parses assemble))
    (plain : '\x00' ∉ encoding.toList) :
    (parseThrough variant assemble cache telemetry query encoding).2.1.Holds
      (Parses assemble) := by
  have used := sound.get (cacheKey encoding query)
  unfold parseThrough
  split
  · next parsed left found =>
      rw [found] at used
      exact used
  · next missed left =>
      rw [left] at used
      cases parses : assemble encoding query with
      | error error => exact used
      | ok parsed => exact used.set ⟨encoding, query, plain, rfl, parses⟩

/-- A parse through a sound cache is a parse. -/
theorem parse_outcome (sound : cache.Holds (Parses assemble)) (plain : '\x00' ∉ encoding.toList)
    (count : Number) :
    (parse config variant assemble cache telemetry query encoding (.number count)).1.map
        (·.query) = (assemble encoding query).mapError .query := by
  obtain ⟨decision, decided⟩ := isCacheable_number config query count
  unfold parse
  rw [decided]
  cases decision with
  | true => exact parseThrough_outcome variant _ query sound plain
  | false => exact parsePast_outcome variant _ query _

/-- Parsing leaves a sound cache sound. -/
theorem parse_holds (sound : cache.Holds (Parses assemble)) (plain : '\x00' ∉ encoding.toList)
    (count : Value) :
    (parse config variant assemble cache telemetry query encoding count).2.1.Holds
      (Parses assemble) := by
  unfold parse
  split
  · exact sound
  · exact parseThrough_holds variant _ query sound plain
  · exact sound

end Parse

/-- What a converter can be asked to do. The number of parameters is any number. -/
inductive Call where
  | server (query : Bytes) (encoding : String) (count : Number)
  | client (query : Bytes) (encoding : String) (count : Number)
  | clear

/-- What a converter answers. -/
inductive Answer where
  | server (outcome : Except Fault ServerQuery)
  | client (outcome : Except Fault ClientQuery)
  | cleared

namespace Call

/-- Asks a converter, and says what is left of it. -/
def run (converter : Converter) : Call → Answer × Converter
  | .server query encoding count =>
    let (outcome, left) := converter.parseServer query encoding (.number count)
    (.server (outcome.map (·.query)), left)
  | .client query encoding count =>
    let (outcome, left) := converter.parseClient query encoding (.number count)
    (.client (outcome.map (·.query)), left)
  | .clear => (.cleared, converter.clearCaches)

/-- The answer of somebody who keeps nothing. -/
def assembled : Call → Answer
  | .server query encoding _ => .server ((ServerQuery.ofBytes encoding query).mapError .query)
  | .client query encoding _ => .client ((ClientQuery.ofBytes encoding query).mapError .query)
  | .clear => .cleared

/-- The encoding of a call has no NUL in it. -/
def Plain : Call → Prop
  | .server _ encoding _ => '\x00' ∉ encoding.toList
  | .client _ encoding _ => '\x00' ∉ encoding.toList
  | .clear => True

end Call

/-- Asks a converter one call after the other. -/
def runAll (converter : Converter) : List Call → List Answer × Converter
  | [] => ([], converter)
  | call :: rest =>
    let (answer, next) := call.run converter
    let (answers, last) := runAll next rest
    (answer :: answers, last)

/-- Empty caches are sound. -/
theorem sound_of_empty {converter : Converter} (server : converter.serverCache.entries = [])
    (client : converter.clientCache.entries = []) : converter.Sound :=
  ⟨Lru.holds_of_entries_eq_nil server, Lru.holds_of_entries_eq_nil client⟩

/-- A call on a sound converter is answered by assembling its query. -/
theorem run_outcome {converter : Converter} (sound : converter.Sound) {call : Call}
    (plain : call.Plain) : (call.run converter).1 = call.assembled := by
  cases call with
  | server query encoding count =>
      exact congrArg Answer.server (parse_outcome converter.config .server converter.telemetry
        query sound.server plain count)
  | client query encoding count =>
      exact congrArg Answer.client (parse_outcome converter.config .client converter.telemetry
        query sound.client plain count)
  | clear => rfl

/-- A call leaves a sound converter. -/
theorem Sound.run {converter : Converter} (sound : converter.Sound) {call : Call}
    (plain : call.Plain) : (call.run converter).2.Sound := by
  cases call with
  | server query encoding count => exact ⟨parse_holds _ _ _ _ sound.server plain _, sound.client⟩
  | client query encoding count => exact ⟨sound.server, parse_holds _ _ _ _ sound.client plain _⟩
  | clear => exact ⟨Lru.holds_of_entries_eq_nil rfl, Lru.holds_of_entries_eq_nil rfl⟩

/-- Calls on a sound converter are answered by assembling their queries. -/
theorem runAll_outcome {converter : Converter} (sound : converter.Sound) {calls : List Call}
    (plain : ∀ call ∈ calls, call.Plain) :
    (converter.runAll calls).1 = calls.map Call.assembled := by
  induction calls generalizing converter with
  | nil => rfl
  | cons call rest ih =>
      obtain ⟨first, later⟩ := List.forall_mem_cons.mp plain
      change (call.run converter).1 :: ((call.run converter).2.runAll rest).1 = _
      rw [run_outcome sound first, ih (sound.run first) later, List.map_cons]

/-- Calls leave a sound converter. -/
theorem Sound.runAll {converter : Converter} (sound : converter.Sound) {calls : List Call}
    (plain : ∀ call ∈ calls, call.Plain) : (converter.runAll calls).2.Sound := by
  induction calls generalizing converter with
  | nil => exact sound
  | cons call rest ih =>
      obtain ⟨first, later⟩ := List.forall_mem_cons.mp plain
      exact ih (sound.run first) later

/-- A converter that began with empty caches and was asked any calls in the encodings that
select a codec, or in other ones without a NUL. -/
def Used (converter : Converter) : Prop :=
  ∃ (start : Converter) (calls : List Call), start.serverCache.entries = [] ∧
    start.clientCache.entries = [] ∧ (∀ call ∈ calls, call.Plain) ∧
    converter = (start.runAll calls).2

/-- A converter in use is sound. -/
theorem Used.sound {converter : Converter} (used : converter.Used) : converter.Sound := by
  obtain ⟨start, calls, server, client, plain, rfl⟩ := used
  exact (sound_of_empty server client).runAll plain

/-- **Caching is transparent.** Whatever the configuration of a converter whose caches are empty,
and whatever it is asked in whatever order, it answers as if it kept nothing, provided that no
encoding in the calls has a NUL in it. A name that selects a codec has none. -/
theorem runAll_eq_assembled (start : Converter) (server : start.serverCache.entries = [])
    (client : start.clientCache.entries = []) (calls : List Call)
    (plain : ∀ call ∈ calls, call.Plain) :
    (start.runAll calls).1 = calls.map Call.assembled ∧
      ∀ encoding codec, Encoding.codec encoding = .ok codec → '\x00' ∉ encoding.toList :=
  ⟨runAll_outcome (sound_of_empty server client) plain, fun _ _ selected =>
    Text.Codec.nul_not_mem_of_ofName? (Encoding.codec_eq_ok.mp selected)⟩

/-- Two queries that push each other out of a cache for one, a repetition, a query that has no
scan, one that goes past the cache, and a fresh start. -/
theorem runAll_eq_assembled_of_one_place :
    let start : Converter := ⟨{ Config.standard with maxStatementParams := .int 1 },
      { capacity := .int 1 }, { capacity := .int 1 }, {}⟩
    let calls : List Call := [.server [0x25, 0x73] "utf8" (.int 1),
      .server [0x25, 0x73] "utf8" (.int 1), .server [0x25, 0x74] "utf8" (.int 1),
      .server [0x25, 0x73] "UTF8" (.int 1), .server [0x25, 0x28] "utf8" (.int 0),
      .client [0x25, 0x73] "utf8" .negativeZero, .client [0x25, 0x73] "utf8" .nan, .clear,
      .server [0x25, 0x73] "utf8" (.int 2)]
    start.serverCache.entries = [] ∧ start.clientCache.entries = [] ∧
      (∀ call ∈ calls, call.Plain) ∧ (start.runAll calls).1 = calls.map Call.assembled := by
  intro start calls
  have plain : ∀ call ∈ calls, call.Plain := by
    simp [calls, Call.Plain]
  exact ⟨rfl, rfl, plain, (runAll_eq_assembled start rfl rfl calls plain).1⟩

end QueryBind.Converter
