import QueryBind.Cache.Lru

/-! # Sessions with a cache

A session is a sequence of operations on one cache. The computation of a missing value may
itself operate on the cache before it ends, to any depth, so an operation is a tree. Running
an operation says what it answered, what the operations inside it reported, and the cache
that it left.
-/

namespace QueryBind.Lru

/-- An operation on a cache. -/
inductive Op (κ ν ε : Type) where
  | get (key : κ)
  | has (key : κ)
  | set (key : κ) (value : Option ν)
  | delete (key : κ)
  | clear
  | resetStats
  | size
  /-- The computation runs the operations in `during` and then ends with the outcome. -/
  | getOrCompute (key : κ) (during : List (Op κ ν ε)) (outcome : Except ε (Option ν))

/-- What an operation answers. -/
inductive Answer (ν ε : Type) where
  | done
  | value (value : Option ν)
  | flag (b : Bool)
  | count (n : Nat)
  | failed (error : ε)

/-- The report on an operation. -/
inductive Report (κ ν ε : Type) where
  /-- The answer, the reports on the operations inside if something was computed, and keys
  and counters behind the operation. -/
  | mk (answer : Answer ν ε) (during : Option (List (Report κ ν ε))) (keys : List κ)
    (stats : CacheStats)

variable {κ ν ε : Type} [DecidableEq κ]

/-- The report on an operation that computed nothing. -/
def reportOn (answer : Answer ν ε) (cache : Lru κ ν) : Report κ ν ε × Lru κ ν :=
  (.mk answer none cache.keys cache.stats, cache)

mutual

/-- Runs an operation. -/
def run (cache : Lru κ ν) : Op κ ν ε → Report κ ν ε × Lru κ ν
  | .get key => reportOn (.value (cache.get key).1) (cache.get key).2
  | .has key => reportOn (.flag (cache.has key)) cache
  | .set key value => reportOn .done (cache.set key value)
  | .delete key => reportOn (.flag (cache.delete key).1) (cache.delete key).2
  | .clear => reportOn .done cache.clear
  | .resetStats => reportOn .done cache.resetStats
  | .size => reportOn (.count cache.size) cache
  | .getOrCompute key during outcome =>
    let (result, left, reports) := cache.getOrCompute key fun missed =>
      let (reports, left) := runAll missed during
      (outcome, left, reports)
    let answer : Answer ν ε := match result with
      | .ok found => .value found
      | .error error => .failed error
    (.mk answer reports left.keys left.stats, left)

/-- Runs operations one after the other. -/
def runAll (cache : Lru κ ν) : List (Op κ ν ε) → List (Report κ ν ε) × Lru κ ν
  | [] => ([], cache)
  | op :: rest =>
    let (report, left) := run cache op
    let (reports, last) := runAll left rest
    (report :: reports, last)

end

end QueryBind.Lru

namespace QueryBind

/-- What a key is compared by: the content of a primitive, the two zeros being one number,
and the number of an object or a symbol in the order in which they were supplied. -/
inductive Identity where
  | undefined
  | null
  | bool (b : Bool)
  | number (n : Number)
  | bigint (n : Int)
  | text (s : String)
  | object (serial : Nat)
  deriving DecidableEq, Repr

/-- The identity of a value that is supplied as the object with this serial number. -/
def Identity.ofValue (serial : Nat) : Value → Identity
  | .undefined => .undefined
  | .null => .null
  | .bool b => .bool b
  | .number n => .number n.unsigned
  | .bigint n => .bigint n
  | .text s => .text s
  | _ => .object serial

end QueryBind
