import QueryBind.Observe.Journal
import QueryBind.Observe.Metrics

/-! # Telemetry

What a converter or an executor leaves behind for its operators: a journal, written with a
standing context, and metrics.
-/

namespace QueryBind

/-- How the parameters of a query are bound. -/
inductive Variant where
  | server
  | client
  deriving DecidableEq, Repr

/-- The name of a variant. -/
def Variant.name : Variant → String
  | .server => "server"
  | .client => "client"

namespace MetricName

/-- Queries given to a converter. -/
def conversions : String := "pgquery_conversions_total"

/-- Queries that a converter refused. -/
def conversionErrors : String := "pgquery_conversion_errors_total"

/-- Queries found in a cache. -/
def cacheHits : String := "pgquery_cache_hits_total"

/-- Queries looked for in a cache and not found. -/
def cacheMisses : String := "pgquery_cache_misses_total"

/-- Queries that were not looked for in a cache. -/
def cacheBypasses : String := "pgquery_cache_bypass_total"

/-- Executed queries. -/
def queries : String := "pgquery_queries_total"

/-- Durations of successful executions. -/
def queryDuration : String := "pgquery_query_duration_seconds"

/-- Failed executions. -/
def errors : String := "pgquery_errors_total"

end MetricName

/-- A journal with its standing context, and metrics. -/
structure Telemetry where
  standing : Fields := []
  journal : Journal := []
  metrics : Metrics := {}

namespace Telemetry

/-- Adds one to a counter. -/
def count (telemetry : Telemetry) (name : String) (tags : Tags) : Telemetry :=
  { telemetry with metrics := telemetry.metrics.increment name (.int 1) tags }

/-- Records a duration. -/
def time (telemetry : Telemetry) (name : String) (duration : Number) (tags : Tags) : Telemetry :=
  { telemetry with metrics := telemetry.metrics.timing name (.number duration) tags }

/-- Writes to the journal. -/
def log (telemetry : Telemetry) (level : Level) (message : String) (context : Fields) :
    Telemetry :=
  { telemetry with
    journal := telemetry.journal.write telemetry.standing level message context }

end Telemetry

end QueryBind
