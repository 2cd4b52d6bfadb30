import QueryBind.Value.Display

/-! # Least recently used caches

A cache of bounded size keeps its entries from the least to the most recently used one. A
look-up that finds a value and a store put the entry at the end; a store beyond the bound
evicts at the front. An entry may hold no value: a look-up counts it as a miss, and the key
is present all the same.
-/

namespace QueryBind

/-- Counters and size of a cache. -/
structure CacheStats where
  hits : Nat
  misses : Nat
  evictions : Nat
  size : Nat
  capacity : Number
  deriving DecidableEq, Repr

/-- A bounded cache. -/
structure Lru (κ ν : Type) where
  /-- The bound, as it was given. -/
  capacity : Number
  /-- Keys with their values, from the least to the most recently used one. -/
  entries : List (κ × Option ν) := []
  hits : Nat := 0
  misses : Nat := 0
  evictions : Nat := 0

namespace Lru

variable {κ ν ε α : Type} [DecidableEq κ]

/-- The largest number of entries. -/
def limit (cache : Lru κ ν) : Nat :=
  (cache.capacity.toInt?.getD 0).toNat

/-- The bound that a value stands for: an integer that is not negative. -/
def capacityOf (value : Value) : Except Fault Number :=
  match value with
  | .number n =>
    if n.toInt?.any (0 ≤ ·) then .ok n else reject value
  | other => reject other
where
  /-- The refusal of a bound. -/
  reject (value : Value) : Except Fault Number :=
    match value.inlineText with
    | .ok text =>
      .error (.range ("cache capacity must be a non-negative integer, got " ++ text.mended))
    | .error fault => .error fault

/-- An empty cache with the bound that a value stands for. -/
def ofCapacity (value : Value) : Except Fault (Lru κ ν) :=
  (capacityOf value).map fun capacity => ⟨capacity, [], 0, 0, 0⟩

/-- The number of entries. -/
def size (cache : Lru κ ν) : Nat :=
  cache.entries.length

/-- The keys, from the least to the most recently used one. -/
def keys (cache : Lru κ ν) : List κ :=
  cache.entries.map (·.1)

/-- Counters and size. -/
def stats (cache : Lru κ ν) : CacheStats :=
  ⟨cache.hits, cache.misses, cache.evictions, cache.size, cache.capacity⟩

/-- The value stored under a key, uses and counters aside. -/
def peek (cache : Lru κ ν) (key : κ) : Option ν :=
  (cache.entries.lookup key).join

/-- Whether a key is present. -/
def has (cache : Lru κ ν) (key : κ) : Bool :=
  (cache.entries.lookup key).isSome

/-- The entries without a key. -/
def without (key : κ) (entries : List (κ × Option ν)) : List (κ × Option ν) :=
  entries.filter (·.1 ≠ key)

/-- Looks a key up. A value that is found becomes the most recently used one. -/
def get (cache : Lru κ ν) (key : κ) : Option ν × Lru κ ν :=
  match cache.peek key with
  | some value =>
    (some value, { cache with
      entries := without key cache.entries ++ [(key, some value)]
      hits := cache.hits + 1 })
  | none => (none, { cache with misses := cache.misses + 1 })

/-- Stores an entry as the most recently used one and evicts what exceeds the bound. A cache
bounded by zero stores nothing. -/
def set (cache : Lru κ ν) (key : κ) (value : Option ν) : Lru κ ν :=
  if cache.limit = 0 then cache
  else
    let stored := without key cache.entries ++ [(key, value)]
    let excess := stored.length - cache.limit
    { cache with entries := stored.drop excess, evictions := cache.evictions + excess }

/-- Removes an entry and says whether it was present. -/
def delete (cache : Lru κ ν) (key : κ) : Bool × Lru κ ν :=
  (cache.has key, { cache with entries := without key cache.entries })

/-- Removes all entries; the counters stay. -/
def clear (cache : Lru κ ν) : Lru κ ν :=
  { cache with entries := [] }

/-- Sets the counters to zero. -/
def resetStats (cache : Lru κ ν) : Lru κ ν :=
  { cache with hits := 0, misses := 0, evictions := 0 }

/-- Looks a key up and computes and stores the value if there is none. The computation
works on the cache; it returns an outcome, the cache it leaves and a note. Nothing is stored
if it fails. The note is missing exactly when nothing was computed. -/
def getOrCompute (cache : Lru κ ν) (key : κ)
    (compute : Lru κ ν → Except ε (Option ν) × Lru κ ν × α) :
    Except ε (Option ν) × Lru κ ν × Option α :=
  match cache.get key with
  | (some value, used) => (.ok (some value), used, none)
  | (none, missed) =>
    match compute missed with
    | (.ok value, left, note) => (.ok value, left.set key value, some note)
    | (.error error, left, note) => (.error error, left, some note)

/-- A look-up keeps the bound. -/
@[simp] theorem limit_get (cache : Lru κ ν) (key : κ) :
    (cache.get key).2.limit = cache.limit := by
  unfold get
  split <;> rfl

/-- A store keeps the bound. -/
@[simp] theorem limit_set (cache : Lru κ ν) (key : κ) (value : Option ν) :
    (cache.set key value).limit = cache.limit := by
  unfold set
  split <;> rfl

omit [DecidableEq κ] in
/-- A cache with the bound zero is empty. -/
theorem keys_of_closed {cache : Lru κ ν} (bounded : cache.size ≤ cache.limit)
    (closed : cache.limit = 0) : cache.keys = [] := by
  have empty : cache.entries = [] :=
    List.length_eq_zero_iff.mp (Nat.le_zero.mp (closed ▸ bounded))
  rw [keys, empty, List.map_nil]

/-- A store leaves no more entries than the bound. -/
theorem size_set_le (cache : Lru κ ν) (key : κ) (value : Option ν)
    (bounded : cache.size ≤ cache.limit) : (cache.set key value).size ≤ cache.limit := by
  unfold set
  split
  · exact bounded
  · simp only [size, List.length_drop]
    omega

/-- A look-up returns what is stored. -/
@[simp] theorem fst_get (cache : Lru κ ν) (key : κ) : (cache.get key).1 = cache.peek key := by
  unfold get
  split <;> simp [*]

end Lru

end QueryBind
