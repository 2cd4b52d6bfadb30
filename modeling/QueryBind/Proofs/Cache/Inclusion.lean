import Mathlib.Data.Bool.Basic
import QueryBind.Proofs.Cache.Holdings
import QueryBind.Proofs.Cache.Recency

/-! # Caches of different sizes

Two caches are asked the same, and one of them has more room. A look-up may hit in the larger one
only, and then their orders part; an entry that is removed leaves a free place in one and not in the
other. Still the keys of the smaller one are always among those of the larger one, in the same order
(`Lru.runAll_includes`).

What an operation does to the keys depends on the keys alone as long as every entry has a value:
it is one of a few moves (`Lru.Op.move`). A move of both keeps the keys of the one within those of
the other (`Lru.Within.move`), because the larger cache has at no time more keys in addition than
it has places in addition: so when it evicts a key, the smaller one is full and evicts at least as
far.
-/

namespace QueryBind.Lru

/-! ## Moves -/

section Moves

variable {κ : Type} [DecidableEq κ]

/-- The keys with one of them behind all others. -/
def touch (key : κ) (keys : List κ) : List κ :=
  keys.filter (· ≠ key) ++ [key]

/-- What an operation does to the keys. -/
inductive Move (κ : Type) where
  /-- A key that is present is touched. -/
  | use (key : κ)
  /-- A key is touched, and what exceeds the bound is evicted. -/
  | store (key : κ)
  | remove (key : κ)
  | clear
  | stay

/-- The keys behind a move. -/
def Move.apply (limit : Nat) (keys : List κ) : Move κ → List κ
  | .use key => if key ∈ keys then touch key keys else keys
  | .store key => (touch key keys).drop ((touch key keys).length - limit)
  | .remove key => keys.filter (· ≠ key)
  | .clear => []
  | .stay => keys

/-- Keys under one bound among keys under another. -/
structure Within (limit bound : Nat) (few many : List κ) : Prop where
  among : few.Sublist many
  /-- There are no more additional keys than additional places. -/
  spare : many.length + limit ≤ few.length + bound
  fits : few.length ≤ limit
  fitsToo : many.length ≤ bound

private theorem length_filter_ne (key : κ) (keys : List κ) :
    (keys.filter (· ≠ key)).length + keys.count key = keys.length := by
  rw [List.length_eq_countP_add_countP (· == key) (l := keys), Nat.add_comm,
    ← List.countP_eq_length_filter, List.count]
  simp

private theorem length_touch (key : κ) (keys : List κ) :
    (touch key keys).length + keys.count key = keys.length + 1 := by
  have others := length_filter_ne key keys
  rw [touch, List.length_append, List.length_singleton]
  omega

private theorem length_touch_le {key : κ} {keys : List κ} (present : key ∈ keys) :
    (touch key keys).length ≤ keys.length := by
  have length := length_touch key keys
  have counted := List.count_pos_iff.mpr present
  omega

/-- To touch a key that is present evicts nothing. -/
theorem Move.store_of_mem {limit : Nat} {key : κ} {keys : List κ} (present : key ∈ keys)
    (bounded : keys.length ≤ limit) :
    (Move.store key).apply limit keys = (Move.use key).apply limit keys := by
  have fits : (touch key keys).length ≤ limit := Nat.le_trans (length_touch_le present) bounded
  simp only [Move.apply, Nat.sub_eq_zero_of_le fits, List.drop_zero, if_pos present]

section Within

variable {limit bound : Nat} {few many : List κ} (within : Within limit bound few many)

include within

/-- A key may be left out of both lists. -/
theorem Within.filter (key : κ) :
    Within limit bound (few.filter (· ≠ key)) (many.filter (· ≠ key)) := by
  have lost := length_filter_ne key few
  have lostToo := length_filter_ne key many
  have more := within.among.count_le key
  have spare := within.spare
  exact ⟨within.among.filter _, by omega, Nat.le_trans (List.length_filter_le _ _) within.fits,
    Nat.le_trans (List.length_filter_le _ _) within.fitsToo⟩

/-- A key may be used in both lists. -/
theorem Within.use (key : κ) :
    Within limit bound ((Move.use key).apply limit few) ((Move.use key).apply bound many) := by
  have length := length_touch key few
  have lengthToo := length_touch key many
  have more := within.among.count_le key
  obtain ⟨among, spare, fits, fitsToo⟩ := within
  simp only [Move.apply]
  by_cases present : key ∈ few
  · have presentToo : key ∈ many := among.subset present
    have counted := List.count_pos_iff.mpr present
    rw [if_pos present, if_pos presentToo]
    exact ⟨(among.filter _).append (List.Sublist.refl [key]), by omega, by omega, by omega⟩
  · rw [if_neg present]
    by_cases presentToo : key ∈ many
    · have counted := List.count_pos_iff.mpr presentToo
      have stays : few.filter (· ≠ key) = few :=
        List.filter_eq_self.mpr fun other among =>
          decide_eq_true fun same => present (same ▸ among)
      rw [if_pos presentToo]
      refine ⟨?_, by omega, fits, by omega⟩
      calc
        few = few.filter (· ≠ key) := stays.symm
        List.Sublist _ (many.filter (· ≠ key)) := among.filter _
        List.Sublist _ (touch key many) := List.sublist_append_left _ _
    · rw [if_neg presentToo]
      exact ⟨among, spare, fits, fitsToo⟩

/-- When the larger cache evicts a key the smaller one evicts as many or more. -/
theorem Within.store (key : κ) :
    Within limit bound ((Move.store key).apply limit few) ((Move.store key).apply bound many) := by
  have length := length_touch key few
  have lengthToo := length_touch key many
  have more := within.among.count_le key
  obtain ⟨among, spare, fits, fitsToo⟩ := within
  have touched : (touch key few).Sublist (touch key many) :=
    (among.filter _).append (List.Sublist.refl [key])
  -- Whatever the larger cache has in addition has a place of its own, so its excess is the smaller.
  have excess : (touch key many).length - bound ≤ (touch key few).length - limit := by omega
  refine ⟨?_, ?_, ?_, ?_⟩
  · exact (List.drop_sublist_drop_left (touch key few) excess).trans (touched.drop _)
  all_goals
    simp only [Move.apply, List.length_drop]
    omega

/-- **No move parts the keys of the smaller cache from those of the larger one.** -/
theorem Within.move (move : Move κ) :
    Within limit bound (move.apply limit few) (move.apply bound many) := by
  cases move with
  | use key => exact within.use key
  | store key => exact within.store key
  | remove key => exact within.filter key
  | clear =>
      have narrow := within.among.length_le
      have spare := within.spare
      exact ⟨List.nil_sublist _, by simp only [Move.apply, List.length_nil]; omega, Nat.zero_le _,
        Nat.zero_le _⟩
  | stay => exact within

end Within

end Moves

variable {κ ν ε : Type} [DecidableEq κ]

/-! ## Operations as moves -/

/-- What an operation does to the keys of a cache whose entries have values. -/
def Op.move : Op κ ν ε → Move κ
  | .get key => .use key
  | .set key _ => .store key
  | .delete key => .remove key
  | .clear => .clear
  | .getOrCompute key _ outcome =>
    match outcome with
    | .ok _ => .store key
    | .error _ => .use key
  | .has _ | .resetStats | .size => .stay

/-- The key that an operation looks up. -/
def Op.lookup? : Op κ ν ε → Option κ
  | .get key | .getOrCompute key _ _ => some key
  | .has _ | .set _ _ | .delete _ | .clear | .resetStats | .size => none

/-- The hits that an operation counts from. -/
def Op.hitsFrom (hits : Nat) : Op κ ν ε → Nat
  | .resetStats => 0
  | _ => hits

/-- What is stored or computed is a value, and a computation leaves the cache alone. -/
def Op.Plain : Op κ ν ε → Prop
  | .set _ value => value.isSome = true
  | .getOrCompute _ during outcome =>
    during = [] ∧ ∀ value, outcome = .ok value → value.isSome = true
  | .get _ | .has _ | .delete _ | .clear | .resetStats | .size => True

namespace Report

/-- Whether the operation was a look-up that found a value. -/
def isHit : Report κ ν ε → Bool
  | .mk (.value found) none _ _ => found.isSome
  | _ => false

/-- The keys behind the operation. -/
def keys : Report κ ν ε → List κ
  | .mk _ _ keys _ => keys

/-- Counters and size behind the operation. -/
def stats : Report κ ν ε → CacheStats
  | .mk _ _ _ stats => stats

end Report

/-- Every entry has a value, and there are no more entries than the bound admits. -/
structure Stocked (cache : Lru κ ν) : Prop where
  valued : ∀ entry ∈ cache.entries, entry.2.isSome = true
  bounded : cache.size ≤ cache.limit

omit [DecidableEq κ] in
private theorem stocked_of_empty {cache : Lru κ ν} (empty : cache.entries = []) :
    cache.Stocked ∧ cache.keys = [] := by
  refine ⟨⟨?_, ?_⟩, ?_⟩
  · rw [empty]
    exact fun _ among => absurd among List.not_mem_nil
  · rw [size, empty]
    exact Nat.zero_le _
  · rw [keys, empty]
    rfl

section Stocked

variable {cache : Lru κ ν} (stocked : cache.Stocked)

include stocked

omit [DecidableEq κ] in
/-- A stocked cache has no more keys than its bound. -/
theorem Stocked.length_keys_le : cache.keys.length ≤ cache.limit := by
  rw [keys, List.length_map]
  exact stocked.bounded

/-- In a stocked cache every key has a value. -/
theorem Stocked.peek_isSome_iff (key : κ) : (cache.peek key).isSome = true ↔ key ∈ cache.keys := by
  constructor
  · intro found
    obtain ⟨value, found⟩ := Option.isSome_iff_exists.mp found
    exact List.mem_map.mpr ⟨_, mem_entries_of_peek found, rfl⟩
  · intro present
    cases looked : cache.entries.lookup key with
    | none => exact absurd present (lookup_eq_none_iff.mp looked)
    | some held =>
        obtain ⟨before, after, split, -⟩ := List.lookup_eq_some_iff.mp looked
        have placed : (key, held) ∈ cache.entries := by
          rw [split]
          exact List.mem_append_right _ List.mem_cons_self
        rw [peek, looked]
        exact stocked.valued _ placed

/-- An entry with a value may be put behind the others. -/
theorem Stocked.valued_stored (key : κ) {value : Option ν} (filled : value.isSome = true) :
    ∀ entry ∈ without key cache.entries ++ [(key, value)], entry.2.isSome = true := by
  refine List.forall_mem_append.mpr ⟨fun entry kept => ?_, fun entry last => ?_⟩
  · exact stocked.valued entry (List.mem_filter.mp kept).1
  · rw [List.mem_singleton.mp last]
    exact filled

end Stocked

/-- To put an entry behind the others is to touch its key. -/
theorem map_fst_stored (key : κ) (value : Option ν) (entries : List (κ × Option ν)) :
    (without key entries ++ [(key, value)]).map (·.1) = touch key (entries.map (·.1)) := by
  rw [List.map_append, map_fst_without]
  rfl

/-- A cache behind a move. -/
structure Moved (cache : Lru κ ν) (move : Move κ) (left : Lru κ ν) : Prop where
  keys : left.keys = move.apply cache.limit cache.keys
  limit : left.limit = cache.limit
  stocked : left.Stocked

section Moved

variable {cache : Lru κ ν} (stocked : cache.Stocked)

include stocked

private theorem Stocked.stay : Moved cache .stay cache :=
  ⟨rfl, rfl, stocked⟩

/-- A look-up moves the key to the end if it is there. -/
theorem Stocked.get (key : κ) : Moved cache (.use key) (cache.get key).2 := by
  have present := stocked.peek_isSome_iff key
  cases found : cache.peek key with
  | none =>
      rw [found] at present
      have absent : key ∉ cache.keys := fun among => Bool.false_ne_true (present.mpr among)
      have stays : (Move.use key).apply cache.limit cache.keys = cache.keys := if_neg absent
      simp only [Lru.get, found]
      exact ⟨stays.symm, rfl, stocked.valued, stocked.bounded⟩
  | some value =>
      rw [found] at present
      have among : key ∈ cache.keys := present.mp rfl
      have touched : (Move.use key).apply cache.limit cache.keys = touch key cache.keys :=
        if_pos among
      have listed := map_fst_stored key (some value) cache.entries
      have fits : (touch key cache.keys).length ≤ cache.limit :=
        Nat.le_trans (length_touch_le among) stocked.length_keys_le
      rw [keys, ← listed, List.length_map] at fits
      simp only [Lru.get, found]
      exact ⟨listed.trans touched.symm, rfl, stocked.valued_stored key rfl, fits⟩

/-- A store moves the key to the end, and may push the first one out. -/
theorem Stocked.set (key : κ) {value : Option ν} (filled : value.isSome = true) :
    Moved cache (.store key) (cache.set key value) := by
  have bounded := size_set_le cache key value stocked.bounded
  rw [← limit_set cache key value] at bounded
  rcases Nat.eq_zero_or_pos cache.limit with closed | room
  · have stays : cache.set key value = cache := if_pos closed
    have empty : cache.keys = [] := keys_of_closed stocked.bounded closed
    rw [stays]
    refine ⟨?_, rfl, stocked⟩
    rw [Move.apply, closed, Nat.sub_zero, List.drop_length, empty]
  · have stored := set_of_excess room key _ rfl value
    have listed := map_fst_stored key value cache.entries
    refine ⟨?_, limit_set cache key value, fun entry kept => ?_, bounded⟩
    · rw [stored, Lru.keys, List.map_drop, listed, Move.apply, Lru.keys, ← listed, List.length_map,
        List.length_append, List.length_singleton]
    · rw [stored] at kept
      exact stocked.valued_stored key filled entry (List.mem_of_mem_drop kept)

/-- A deletion takes the key away. -/
theorem Stocked.delete (key : κ) : Moved cache (.remove key) (cache.delete key).2 :=
  ⟨map_fst_without key cache.entries, rfl,
    fun entry kept => stocked.valued entry (List.mem_filter.mp kept).1,
    Nat.le_trans (List.length_filter_le _ _) stocked.bounded⟩

omit stocked in
private theorem moved_clear : Moved cache .clear cache.clear :=
  ⟨rfl, rfl, nofun, Nat.zero_le _⟩

/-- Setting the counters back moves nothing. -/
theorem Stocked.resetStats : Moved cache .stay cache.resetStats :=
  ⟨rfl, rfl, stocked.valued, stocked.bounded⟩

/-- A plain operation is its move. -/
theorem Stocked.run {op : Op κ ν ε} (plain : op.Plain) :
    Moved cache op.move (Lru.run cache op).2 := by
  match op with
  | .get key => exact stocked.get key
  | .has key | .size => exact stocked.stay
  | .set key value => exact stocked.set key plain
  | .delete key => exact stocked.delete key
  | .clear => exact moved_clear
  | .resetStats => exact stocked.resetStats
  | .getOrCompute key during outcome =>
      obtain ⟨rfl, filled⟩ := plain
      have looked := stocked.get key
      have present := stocked.peek_isSome_iff key
      cases held : cache.peek key with
      | some value =>
          rw [run_of_peek held]
          cases outcome with
          | error error => exact looked
          | ok computed =>
              have among : key ∈ cache.keys := present.mp (held ▸ rfl)
              have same := Move.store_of_mem among stocked.length_keys_le
              exact ⟨looked.keys.trans same.symm, looked.limit, looked.stocked⟩
      | none =>
          have absent : key ∉ cache.keys := fun among =>
            Bool.false_ne_true ((held ▸ present).mpr among)
          cases outcome with
          | error error =>
              rw [run_of_thrown held]
              exact looked
          | ok computed =>
              have stored := looked.stocked.set key (filled computed rfl)
              have stays : (cache.get key).2.keys = cache.keys := looked.keys.trans (if_neg absent)
              have keys := stored.keys
              rw [looked.limit, stays] at keys
              rw [run_of_computed held]
              exact ⟨keys, stored.limit.trans looked.limit, stored.stocked⟩

end Moved

/-! ## Reports -/

/-- A report shows the keys and counters that the operation leaves. -/
theorem run_shows (cache : Lru κ ν) (op : Op κ ν ε) :
    (run cache op).1.keys = (run cache op).2.keys ∧
      (run cache op).1.stats = (run cache op).2.stats := by
  cases op with
  | getOrCompute key during outcome =>
      rw [run]
      exact ⟨rfl, rfl⟩
  | _ => exact ⟨rfl, rfl⟩

private theorem hits_get (cache : Lru κ ν) (key : κ) :
    (cache.get key).2.hits = cache.hits + (cache.peek key).isSome.toNat := by
  unfold get
  cases cache.peek key <;> rfl

private theorem hits_set (cache : Lru κ ν) (key : κ) (value : Option ν) :
    (cache.set key value).hits = cache.hits := by
  unfold set
  split <;> rfl

/-- A look-up of a key that is present hits, and a hit is counted. -/
theorem Stocked.counted {cache : Lru κ ν} (stocked : cache.Stocked) {op : Op κ ν ε}
    (plain : op.Plain) :
    (Lru.run cache op).1.isHit = op.lookup?.any (· ∈ cache.keys) ∧
      (Lru.run cache op).2.hits = op.hitsFrom cache.hits + (Lru.run cache op).1.isHit.toNat := by
  have sees : ∀ key, (cache.peek key).isSome = decide (key ∈ cache.keys) := fun key => by
    rw [Bool.eq_iff_iff, stocked.peek_isSome_iff, decide_eq_true_iff]
  match op with
  | .get key =>
      have found : (Lru.run cache (.get key : Op κ ν ε)).1.isHit = (cache.peek key).isSome :=
        congrArg Option.isSome (fst_get cache key)
      exact ⟨found.trans (sees key), found ▸ hits_get cache key⟩
  | .has key | .size | .clear | .delete key | .resetStats => exact ⟨rfl, rfl⟩
  | .set key value => exact ⟨rfl, hits_set cache key value⟩
  | .getOrCompute key during outcome =>
      obtain ⟨rfl, -⟩ := plain
      have looked := hits_get cache key
      have known := sees key
      cases held : cache.peek key with
      | some value =>
          rw [held] at looked known
          rw [run_of_peek held]
          exact ⟨known, looked⟩
      | none =>
          rw [held] at looked known
          cases outcome with
          | error error =>
              rw [run_of_thrown held]
              exact ⟨known, looked⟩
          | ok computed =>
              rw [run_of_computed held]
              exact ⟨known, (hits_set _ key computed).trans looked⟩

/-! ## Runs -/

/-- What a smaller cache shows is within what a larger one shows. -/
structure Report.Below (small large : Report κ ν ε) : Prop where
  keys : small.keys.Sublist large.keys
  hits : small.stats.hits ≤ large.stats.hits
  /-- A look-up that hits in the smaller cache hits in the larger one. -/
  hit : small.isHit = true → large.isHit = true

section Run

variable {small large : Lru κ ν}

/-- A plain operation on two caches keeps the one within the other. -/
theorem run_below (stocked : small.Stocked) (stockedToo : large.Stocked)
    (within : Within small.limit large.limit small.keys large.keys)
    (fewer : small.hits ≤ large.hits) {op : Op κ ν ε} (plain : op.Plain) :
    (run small op).1.Below (run large op).1 ∧
      Within small.limit large.limit (run small op).2.keys (run large op).2.keys ∧
      (run small op).2.hits ≤ (run large op).2.hits := by
  obtain ⟨hit, hits⟩ := stocked.counted plain
  obtain ⟨hitToo, hitsToo⟩ := stockedToo.counted plain
  have moved := stocked.run plain
  have movedToo := stockedToo.run plain
  have behind := within.move op.move
  rw [← moved.keys, ← movedToo.keys] at behind
  have hitBoth : (run small op).1.isHit = true → (run large op).1.isHit = true := by
    rw [hit, hitToo]
    cases op.lookup? with
    | none => exact id
    | some key => simpa using fun present => within.among.subset present
  have counts : (run small op).2.hits ≤ (run large op).2.hits := by
    have base : op.hitsFrom small.hits ≤ op.hitsFrom large.hits := by
      cases op with
      | resetStats => exact Nat.le_refl 0
      | _ => exact fewer
    have more : (run small op).1.isHit.toNat ≤ (run large op).1.isHit.toNat :=
      Bool.toNat_le_toNat hitBoth
    rw [hits, hitsToo]
    exact Nat.add_le_add base more
  obtain ⟨shown, stats⟩ := run_shows small op
  obtain ⟨shownToo, statsToo⟩ := run_shows large op
  refine ⟨⟨?_, ?_, hitBoth⟩, behind, counts⟩
  · rw [shown, shownToo]
    exact behind.among
  · rw [stats, statsToo]
    exact counts

/-- So do plain operations, one after the other. -/
theorem runAll_below (stocked : small.Stocked) (stockedToo : large.Stocked)
    (within : Within small.limit large.limit small.keys large.keys)
    (fewer : small.hits ≤ large.hits) {ops : List (Op κ ν ε)} (plain : ∀ op ∈ ops, op.Plain) :
    List.Forall₂ Report.Below (runAll small ops).1 (runAll large ops).1 := by
  induction ops generalizing small large with
  | nil => exact .nil
  | cons op rest ih =>
      obtain ⟨first, later⟩ := List.forall_mem_cons.mp plain
      have moved := stocked.run first
      have movedToo := stockedToo.run first
      obtain ⟨below, behind, counts⟩ := run_below stocked stockedToo within fewer first
      rw [← moved.limit, ← movedToo.limit] at behind
      exact .cons below (ih moved.stocked movedToo.stocked behind counts later)

end Run

/-- **A larger cache is never worse.** Two new caches, one with a bound that is not smaller than the
other's, are asked the same, whereby values are stored and computed only, and a computation may fail
but leaves the caches alone. Behind each operation the keys of the smaller cache stand among those
of the larger one, in the same order, and it has counted no more hits; and a look-up that hits in
the smaller cache hits in the larger one. -/
theorem runAll_includes {value other : Value} {small large : Lru κ ν}
    (made : ofCapacity value = .ok small) (madeToo : ofCapacity other = .ok large)
    (larger : small.limit ≤ large.limit) (ops : List (Op κ ν ε)) (plain : ∀ op ∈ ops, op.Plain) :
    List.Forall₂ Report.Below (runAll small ops).1 (runAll large ops).1 := by
  obtain ⟨-, nothing⟩ := of_ofCapacity made
  obtain ⟨-, nothingToo⟩ := of_ofCapacity madeToo
  obtain ⟨stocked, empty⟩ := stocked_of_empty nothing
  obtain ⟨stockedToo, emptyToo⟩ := stocked_of_empty nothingToo
  obtain ⟨hits, -⟩ := counters_of_ofCapacity made
  obtain ⟨hitsToo, -⟩ := counters_of_ofCapacity madeToo
  refine runAll_below stocked stockedToo ?_ (Nat.le_of_eq (hits.trans hitsToo.symm)) plain
  rw [empty, emptyToo]
  exact ⟨List.nil_sublist _, by simpa using larger, Nat.zero_le _, Nat.zero_le _⟩

/-- A key that only the larger cache still has is looked up, an entry is removed that leaves a free
place in the smaller one only, and a computation fails in the smaller one only. -/
theorem runAll_includes_of_one_place :
    let small : Lru Nat Nat := { capacity := .int 1 }
    let large : Lru Nat Nat := { capacity := .int 2 }
    let ops : List (Op Nat Nat Unit) :=
      [.set 1 (some 10), .getOrCompute 2 [] (.ok (some 20)), .get 1, .delete 2,
        .getOrCompute 1 [] (.error ()), .set 3 (some 30), .get 3]
    ofCapacity (.number (.int 1)) = .ok small ∧ ofCapacity (.number (.int 2)) = .ok large ∧
      small.limit ≤ large.limit ∧ (∀ op ∈ ops, op.Plain) ∧
      List.Forall₂ Report.Below (runAll small ops).1 (runAll large ops).1 ∧
      ((runAll small ops).2.keys, (runAll small ops).2.hits) = ([3], 1) ∧
      ((runAll large ops).2.keys, (runAll large ops).2.hits) = ([1, 3], 3) := by
  intro small large ops
  have made : ofCapacity (.number (.int 1)) = .ok small := rfl
  have madeToo : ofCapacity (.number (.int 2)) = .ok large := rfl
  have larger : small.limit ≤ large.limit := by decide
  have plain : ∀ op ∈ ops, op.Plain := by simp [ops, Op.Plain]
  exact ⟨made, madeToo, larger, plain, runAll_includes made madeToo larger ops plain,
    by decide +kernel, by decide +kernel⟩

end QueryBind.Lru
