import QueryBind.Cache.Lru
import QueryBind.Config.Validation
import QueryBind.Converter.Telemetry
import QueryBind.Statement.Client
import QueryBind.Statement.Server

/-! # Converters

A converter parses queries for both variants of binding and keeps the results, each variant
in a cache of its own. A query is kept under its connection encoding and its bytes. Queries
that are too long or have too many parameters go past the cache; failures are never kept.
-/

namespace QueryBind

/-- Where a parsed query came from. -/
inductive Source where
  | cache
  | parsed
  /-- Parsed without a look at the cache. -/
  | bypass
  deriving DecidableEq, Repr

/-- A parsed query with its source. -/
structure Parsed (ν : Type) where
  query : ν
  source : Source

/-- A converter. -/
structure Converter where
  config : Config
  serverCache : Lru String ServerQuery
  clientCache : Lru String ClientQuery
  telemetry : Telemetry

namespace Converter

/-- What a converter adds to the context of its log entries. -/
def component : Fields := [("component", .text "QueryConverter")]

/-- A converter with the given configuration, caches that replace the ones that it would
make, and the context of its logger. -/
def ofConfig (config : Config) (serverCache : Option (Lru String ServerQuery))
    (clientCache : Option (Lru String ClientQuery)) (context : Fields) :
    Except Fault Converter := do
  let capacity := Value.number config.cacheCapacity
  let server ← match serverCache with
    | some cache => Except.ok cache
    | none => Lru.ofCapacity capacity
  let client ← match clientCache with
    | some cache => Except.ok cache
    | none => Lru.ofCapacity capacity
  return ⟨config, server, client, ⟨Fields.merge context component, [], {}⟩⟩

/-- A converter with the standard configuration, some fields replaced. -/
def make (overrides : Value) : Except Fault Converter := do
  let config ← (Config.override overrides).mapError Fault.query
  ofConfig config none none []

/-- The key that a parsed query is kept under. -/
def cacheKey (encoding : String) (query : Bytes) : String :=
  encoding ++ "\x00" ++ Text.Codec.latin1Text query

/-- Whether a query with this number of parameters may be kept. The number is looked at only
if the query is short enough; it is any value that stands for a number. -/
def isCacheable (config : Config) (query : Bytes) (count : Value) : Except Fault Bool :=
  if (Number.ofNat query.length).le config.maxStatementLength then
    count.isAtMost config.maxStatementParams
  else .ok false

/-- The tags of a variant's counters. -/
def tags (variant : Variant) : Tags := .ofTexts [("variant", variant.name)]

/-- Telemetry behind a query that was refused. -/
def noteFailure (variant : Variant) (telemetry : Telemetry) (error : QueryError) : Telemetry :=
  let counted := telemetry.count MetricName.conversionErrors
    (tags variant ++ .ofTexts [("code", error.code)])
  counted.log .debug "Query conversion failed"
    [("variant", .text variant.name), ("code", .text error.code),
      ("message", .text error.message)]

/-- Telemetry behind a query that went past the cache. -/
def noteBypass (variant : Variant) (telemetry : Telemetry) (query : Bytes) (count : Value) :
    Telemetry :=
  (telemetry.count MetricName.cacheBypasses (tags variant)).log .trace "Query cache bypassed"
    [("variant", .text variant.name), ("length", .number (.ofNat query.length)),
      ("paramCount", count)]

/-- Parses a query and looks neither into a cache nor stores anything. -/
def parsePast {ν : Type} (variant : Variant) (assemble : String → Bytes → Except QueryError ν)
    (telemetry : Telemetry) (query : Bytes) (encoding : String) (count : Value) :
    Except Fault (Parsed ν) × Telemetry :=
  let noted := noteBypass variant telemetry query count
  match assemble encoding query with
  | .ok parsed => (.ok ⟨parsed, .bypass⟩, noted)
  | .error error => (.error error, noteFailure variant noted error)

/-- Parses a query unless it is found in the cache, and stores what was parsed. -/
def parseThrough {ν : Type} (variant : Variant)
    (assemble : String → Bytes → Except QueryError ν) (cache : Lru String ν)
    (telemetry : Telemetry) (query : Bytes) (encoding : String) :
    Except Fault (Parsed ν) × Lru String ν × Telemetry :=
  match cache.get (cacheKey encoding query) with
  | (some parsed, used) =>
    (.ok ⟨parsed, .cache⟩, used, telemetry.count MetricName.cacheHits (tags variant))
  | (none, missed) =>
    let noted := telemetry.count MetricName.cacheMisses (tags variant)
    match assemble encoding query with
    | .ok parsed =>
      (.ok ⟨parsed, .parsed⟩, missed.set (cacheKey encoding query) (some parsed), noted)
    | .error error => (.error error, missed, noteFailure variant noted error)

/-- Parses a query through a cache, or past it. -/
def parse {ν : Type} (config : Config) (variant : Variant)
    (assemble : String → Bytes → Except QueryError ν) (cache : Lru String ν)
    (telemetry : Telemetry) (query : Bytes) (encoding : String) (count : Value) :
    Except Fault (Parsed ν) × Lru String ν × Telemetry :=
  let started := telemetry.count MetricName.conversions (tags variant)
  match isCacheable config query count with
  | .error fault => (.error fault, cache, started)
  | .ok true => parseThrough variant assemble cache started query encoding
  | .ok false =>
    let (outcome, noted) := parsePast variant assemble started query encoding count
    (outcome, cache, noted)

/-- Parses a query for binding on the server. -/
def parseServer (converter : Converter) (query : Bytes) (encoding : String) (count : Value) :
    Except Fault (Parsed ServerQuery) × Converter :=
  let (outcome, cache, telemetry) := parse converter.config .server ServerQuery.ofBytes
    converter.serverCache converter.telemetry query encoding count
  (outcome, { converter with serverCache := cache, telemetry := telemetry })

/-- Parses a query for binding on the client. -/
def parseClient (converter : Converter) (query : Bytes) (encoding : String) (count : Value) :
    Except Fault (Parsed ClientQuery) × Converter :=
  let (outcome, cache, telemetry) := parse converter.config .client ClientQuery.ofBytes
    converter.clientCache converter.telemetry query encoding count
  (outcome, { converter with clientCache := cache, telemetry := telemetry })

/-- Whether a parsed query is kept for a variant. -/
def has (converter : Converter) (variant : Variant) (query : Bytes) (encoding : String) : Bool :=
  match variant with
  | .server => converter.serverCache.has (cacheKey encoding query)
  | .client => converter.clientCache.has (cacheKey encoding query)

/-- Empties both caches and sets their counters to zero. -/
def clearCaches (converter : Converter) : Converter :=
  { converter with
    serverCache := converter.serverCache.clear.resetStats
    clientCache := converter.clientCache.clear.resetStats }

end Converter

end QueryBind
