import Mathlib.Data.List.Dedup
import QueryBind.Proofs.Cache.Moments
import QueryBind.Proofs.Outcome

/-! # Recency

A cache beside its history. The history is a log of what happened to keys: they are stored, used,
removed, evicted. Of the log alone it can be told in which order keys were touched last
(`touchOrder`) and which value is kept under a key (`kept`). A cache is faithful to a log if it
agrees with both (`Lru.Faithful`); each action keeps it faithful to what it adds to the log
(`Lru.Faithful.act`). So it is at every moment of every session, whatever the computations in it do
to the cache (`Lru.runAll_recent`).
-/

namespace QueryBind.Lru

/-- What happens to the keys of a cache. -/
inductive Event (κ ν : Type) where
  | stored (key : κ) (value : Option ν)
  /-- A look-up found a value. -/
  | used (key : κ)
  | removed (key : κ)
  | evicted (key : κ)
  | cleared
  deriving DecidableEq, Repr

/-- The key that an event touches. -/
def Event.touched? {κ ν : Type} : Event κ ν → Option κ
  | .stored key _ | .used key => some key
  | .removed _ | .evicted _ | .cleared => none

variable {κ ν ε : Type} [DecidableEq κ]

/-- The touched keys in the order in which they were touched last. -/
def touchOrder (log : List (Event κ ν)) : List κ :=
  (log.filterMap Event.touched?).dedup

/-- What is kept under a key behind an event. -/
def Event.leave (key : κ) (held : Option (Option ν)) : Event κ ν → Option (Option ν)
  | .stored other value => if other = key then some value else held
  | .removed other | .evicted other => if other = key then none else held
  | .used _ => held
  | .cleared => none

/-- What was stored under a key last, unless the key was taken away since. -/
def kept (key : κ) (log : List (Event κ ν)) : Option (Option ν) :=
  log.foldl (Event.leave key) none

/-- The keys that are gone when an entry is stored. -/
def pushedOut (cache : Lru κ ν) (key : κ) (value : Option ν) : List κ :=
  cache.keys.filter (· ∉ (cache.set key value).keys)

/-- What happens to keys in an action. -/
def events (cache : Lru κ ν) : Action κ ν → List (Event κ ν)
  | .get key => if (cache.get key).1.isSome then [.used key] else []
  | .set key value => .stored key value :: (cache.pushedOut key value).map .evicted
  | .delete key => [.removed key]
  | .clear => [.cleared]
  | .has _ | .resetStats | .size => []

/-- The log of actions, one after the other. -/
def log (cache : Lru κ ν) : List (Action κ ν) → List (Event κ ν)
  | [] => []
  | action :: rest => cache.events action ++ (cache.act action).log rest

section Log

variable (log : List (Event κ ν))

private theorem dedup_concat (items : List κ) (item : κ) :
    (items ++ [item]).dedup = items.dedup.filter (· ≠ item) ++ [item] := by
  induction items with
  | nil => rfl
  | cons first rest ih =>
      rw [List.cons_append]
      by_cases again : first ∈ rest
      · rw [List.dedup_cons_of_mem (List.mem_append_left _ again), List.dedup_cons_of_mem again, ih]
      · by_cases same : first = item
        · subst same
          rw [List.dedup_cons_of_mem (List.mem_append_right _ List.mem_cons_self),
            List.dedup_cons_of_notMem again, ih, List.filter_cons_of_neg (by simp)]
        · have fresh : first ∉ rest ++ [item] := by simp [again, same]
          rw [List.dedup_cons_of_notMem fresh, List.dedup_cons_of_notMem again, ih,
            List.filter_cons_of_pos (by simp [same]), List.cons_append]

/-- A touched key comes last. -/
theorem touchOrder_concat {event : Event κ ν} {key : κ} (touched : event.touched? = some key) :
    touchOrder (log ++ [event]) = (touchOrder log).filter (· ≠ key) ++ [key] := by
  rw [touchOrder, List.filterMap_append, List.filterMap_cons_some touched, List.filterMap_nil,
    dedup_concat]
  rfl

private theorem touchOrder_append_of_untouched (events : List (Event κ ν))
    (untouched : ∀ event ∈ events, event.touched? = none) :
    touchOrder (log ++ events) = touchOrder log := by
  rw [touchOrder, List.filterMap_append, List.filterMap_eq_nil_iff.mpr untouched, List.append_nil]
  rfl

private theorem kept_append (key : κ) (events : List (Event κ ν)) :
    kept key (log ++ events) = events.foldl (Event.leave key) (kept key log) :=
  List.foldl_append

/-- Evicted keys are not kept. -/
theorem foldl_leave_evicted (key : κ) (held : Option (Option ν)) (gone : List κ) :
    (gone.map Event.evicted).foldl (Event.leave key) held =
      if key ∈ gone then none else held := by
  induction gone generalizing held with
  | nil => rfl
  | cons first rest ih =>
      rw [List.map_cons, List.foldl_cons, ih]
      by_cases same : first = key
      · subst same
        simp [Event.leave]
      · simp [Event.leave, same, Ne.symm same]

end Log

section Entries

variable {entries : List (κ × Option ν)} {key : κ}

/-- The keys of entries from which a key was taken are the other keys. -/
theorem map_fst_without (key : κ) (entries : List (κ × Option ν)) :
    (without key entries).map (·.1) = (entries.map (·.1)).filter (· ≠ key) := by
  rw [without, List.filter_map]
  rfl

/-- Taking away a key that is not there changes nothing. -/
theorem without_of_not_mem (missing : key ∉ entries.map (·.1)) : without key entries = entries := by
  refine List.filter_eq_self.mpr fun entry among => ?_
  have different : entry.1 ≠ key := fun same => missing (List.mem_map.mpr ⟨entry, among, same⟩)
  simp [different]

private theorem lookup_without (key other : κ) (entries : List (κ × Option ν)) :
    (without key entries).lookup other = if other = key then none else entries.lookup other := by
  induction entries with
  | nil => simp [without]
  | cons entry rest ih =>
      obtain ⟨name, value⟩ := entry
      unfold without at ih ⊢
      by_cases gone : name = key
      · rw [List.filter_cons_of_neg (by simp [gone]), ih]
        by_cases same : other = key
        · simp [same]
        · have away : (other == name) = false := beq_false_of_ne (gone ▸ same)
          simp [List.lookup_cons, same, away]
      · rw [List.filter_cons_of_pos (by simp [gone]), List.lookup_cons, List.lookup_cons, ih]
        by_cases same : other = name
        · subst same
          simp [gone]
        · have away : (other == name) = false := beq_false_of_ne same
          simp [away]

/-- Nothing is found exactly if the key is not there. -/
theorem lookup_eq_none_iff : entries.lookup key = none ↔ key ∉ entries.map (·.1) := by
  rw [List.lookup_eq_none_iff, List.mem_map]
  constructor
  · rintro apart ⟨entry, among, same⟩
    simpa [same] using apart entry among
  · intro missing entry among
    rw [bne_iff_ne]
    exact fun same => missing ⟨entry, among, same.symm⟩

end Entries

/-- A cache agrees with a log, as far as its bound lets it. -/
structure Faithful (log : List (Event κ ν)) (cache : Lru κ ν) : Prop where
  distinct : cache.keys.Nodup
  bounded : cache.size ≤ cache.limit
  /-- Keys that are present are listed in the order of their last touch. -/
  ordered : cache.keys.Sublist (touchOrder log)
  /-- What is kept is what was stored last. -/
  held : 0 < cache.limit → ∀ key, cache.entries.lookup key = kept key log

section Set

variable {cache : Lru κ ν}

/-- There is one entry less without a key that is there. -/
theorem length_without_of_mem {key : κ} (distinct : cache.keys.Nodup) (present : key ∈ cache.keys) :
    (without key cache.entries).length + 1 = cache.size := by
  have filtered : (without key cache.entries).length = (cache.keys.erase key).length := by
    rw [← List.length_map (·.1), map_fst_without, distinct.erase_eq_filter]
    refine congrArg List.length (List.filter_congr fun other _ => ?_)
    rw [Bool.eq_iff_iff, decide_eq_true_iff, bne_iff_ne]
  have positive : 0 < cache.keys.length := List.length_pos_of_mem present
  rw [filtered, List.length_erase_of_mem present, keys, List.length_map, size]
  rw [keys, List.length_map] at positive
  omega

/-- A store evicts as many entries in front as exceed the bound. -/
theorem set_of_excess (room : 0 < cache.limit) (key : κ) (excess : Nat)
    (exceeds : (without key cache.entries).length + 1 - cache.limit = excess) (value : Option ν) :
    cache.set key value = { cache with
      entries := (without key cache.entries ++ [(key, value)]).drop excess
      evictions := cache.evictions + excess } := by
  simp only [set, if_neg (Nat.ne_of_gt room), List.length_append, List.length_singleton, exceeds]

/-- A store finds room, or evicts the entry in front: then the key is new and the cache is full. -/
theorem set_cases (distinct : cache.keys.Nodup) (bounded : cache.size ≤ cache.limit)
    (room : 0 < cache.limit) (key : κ) (value : Option ν) :
    ((key ∈ cache.keys ∨ cache.size < cache.limit) ∧
        cache.set key value =
          { cache with entries := without key cache.entries ++ [(key, value)] }) ∨
      ∃ oldest rest, key ∉ cache.keys ∧ cache.size = cache.limit ∧
        cache.entries = oldest :: rest ∧
        cache.set key value = { cache with
          entries := rest ++ [(key, value)]
          evictions := cache.evictions + 1 } := by
  by_cases present : key ∈ cache.keys
  · have shorter := length_without_of_mem distinct present
    exact .inl ⟨.inl present, set_of_excess room key 0 (by omega) value⟩
  · have same := without_of_not_mem present
    have length : (without key cache.entries).length = cache.size := congrArg List.length same
    rcases Nat.lt_or_eq_of_le bounded with less | full
    · exact .inl ⟨.inr less, set_of_excess room key 0 (by omega) value⟩
    · have stored := set_of_excess room key 1 (by omega) value
      cases entries : cache.entries with
      | nil =>
          rw [size, entries] at full
          exact absurd full (Nat.ne_of_lt room)
      | cons oldest rest =>
          rw [same, entries] at stored
          exact .inr ⟨oldest, rest, present, full, rfl, stored⟩

section Gone

variable {key : κ} {value : Option ν}

private theorem pushedOut_of_kept
    (stored : cache.set key value =
      { cache with entries := without key cache.entries ++ [(key, value)] }) :
    cache.pushedOut key value = [] := by
  refine List.filter_eq_nil_iff.mpr fun other present => ?_
  have stays : other ∈ (cache.set key value).keys := by
    rw [stored, keys, List.map_append, map_fst_without]
    by_cases same : other = key
    · exact List.mem_append_right _ (List.mem_singleton.mpr same)
    · exact List.mem_append_left _ (List.mem_filter.mpr ⟨present, decide_eq_true same⟩)
  exact fun gone => of_decide_eq_true gone stays

private theorem pushedOut_of_evicted (distinct : cache.keys.Nodup) (fresh : key ∉ cache.keys)
    {oldest : κ × Option ν} {rest : List (κ × Option ν)} (entries : cache.entries = oldest :: rest)
    {evictions : Nat}
    (stored : cache.set key value =
      { cache with entries := rest ++ [(key, value)], evictions := evictions }) :
    cache.pushedOut key value = [oldest.1] := by
  have listed : cache.keys = oldest.1 :: rest.map (·.1) := by
    rw [keys, entries, List.map_cons]
  have left : (cache.set key value).keys = rest.map (·.1) ++ [key] := by
    rw [stored, keys, List.map_append]
    rfl
  rw [listed] at distinct fresh
  have gone : oldest.1 ∉ rest.map (·.1) ++ [key] := by
    intro among
    rcases List.mem_append.mp among with behind | last
    · exact (List.nodup_cons.mp distinct).1 behind
    · exact List.ne_of_not_mem_cons fresh (List.mem_singleton.mp last).symm
  rw [pushedOut, left, listed, List.filter_cons_of_pos (by simpa using gone)]
  refine congrArg (oldest.1 :: ·) (List.filter_eq_nil_iff.mpr fun other among => ?_)
  exact fun gone => of_decide_eq_true gone (List.mem_append_left _ among)

end Gone

/-- What a store pushes out is the key in front, when a new key comes into a full cache. -/
theorem pushedOut_eq (distinct : cache.keys.Nodup) (bounded : cache.size ≤ cache.limit) (key : κ)
    (value : Option ν) :
    cache.pushedOut key value =
        (if key ∉ cache.keys ∧ cache.size = cache.limit then cache.keys.take 1 else []) ∧
      (cache.set key value).evictions =
        cache.evictions + (cache.pushedOut key value).length := by
  rcases Nat.eq_zero_or_pos cache.limit with none | room
  · have stays : cache.set key value = cache := if_pos none
    have empty : cache.keys = [] := by
      rw [none, size, Nat.le_zero, List.length_eq_zero_iff] at bounded
      rw [keys, bounded, List.map_nil]
    rw [pushedOut, stays, empty]
    simp
  · rcases set_cases distinct bounded room key value with
      ⟨fits, stored⟩ | ⟨oldest, rest, fresh, full, entries, stored⟩
    · have spare : ¬(key ∉ cache.keys ∧ cache.size = cache.limit) := by
        rintro ⟨fresh, full⟩
        exact fits.elim fresh (Nat.ne_of_lt · full)
      rw [pushedOut_of_kept stored, if_neg spare, stored]
      exact ⟨rfl, rfl⟩
    · rw [pushedOut_of_evicted distinct fresh entries stored, if_pos ⟨fresh, full⟩, stored, keys,
        entries]
      exact ⟨rfl, rfl⟩

/-- A key that is stored is not the one that is evicted: it comes last. -/
theorem getLast?_keys_set (distinct : cache.keys.Nodup) (bounded : cache.size ≤ cache.limit)
    (room : 0 < cache.limit) (key : κ) (value : Option ν) :
    (cache.set key value).keys.getLast? = some key := by
  rcases set_cases distinct bounded room key value with
    ⟨_, stored⟩ | ⟨oldest, rest, _, _, _, stored⟩
  · rw [stored, keys, List.map_append]
    exact List.getLast?_concat
  · rw [stored, keys, List.map_append]
    exact List.getLast?_concat

/-- After a store its key has the value, what was pushed out has none, and the rest is as before. -/
theorem lookup_set (distinct : cache.keys.Nodup) (bounded : cache.size ≤ cache.limit)
    (room : 0 < cache.limit) (key other : κ) (value : Option ν) :
    (cache.set key value).entries.lookup other =
      if other ∈ cache.pushedOut key value then none
      else if key = other then some value else cache.entries.lookup other := by
  rcases set_cases distinct bounded room key value with
    ⟨_, stored⟩ | ⟨oldest, rest, fresh, _, entries, stored⟩
  · rw [pushedOut_of_kept stored, if_neg List.not_mem_nil, stored]
    simp only [List.lookup_append, lookup_without]
    by_cases same : other = key
    · subst same
      simp
    · have away : (other == key) = false := beq_false_of_ne same
      simp [same, Ne.symm same, List.lookup_cons, away]
  · rw [pushedOut_of_evicted distinct fresh entries stored, stored, entries]
    rw [keys, entries, List.map_cons] at distinct fresh
    obtain ⟨front, dropped⟩ := oldest
    simp only [List.lookup_append, List.mem_singleton, List.lookup_cons, List.lookup_nil]
    by_cases first : other = front
    · subst first
      have apart := lookup_eq_none_iff.mpr (List.nodup_cons.mp distinct).1
      have away : (other == key) = false :=
        beq_false_of_ne (Ne.symm (List.ne_of_not_mem_cons fresh))
      simp [apart, away]
    · have behind : (other == front) = false := beq_false_of_ne first
      by_cases same : other = key
      · subst same
        have missing := lookup_eq_none_iff.mpr (List.not_mem_of_not_mem_cons fresh)
        simp [first, missing]
      · have away : (other == key) = false := beq_false_of_ne same
        simp [first, behind, Ne.symm same, away]

private theorem keys_set_sublist (room : 0 < cache.limit) (key : κ) (value : Option ν) :
    (cache.set key value).keys.Sublist (cache.keys.filter (· ≠ key) ++ [key]) := by
  have listed : ((without key cache.entries ++ [(key, value)]).map (·.1)) =
      cache.keys.filter (· ≠ key) ++ [key] := by
    rw [List.map_append, map_fst_without]
    rfl
  rw [set_of_excess room key _ rfl, keys, ← listed]
  exact (List.drop_sublist _ _).map _

end Set

section Step

variable {cache : Lru κ ν} {log : List (Event κ ν)} (faithful : cache.Faithful log)
include faithful

/-- A touch moves a key behind the others, in the cache as in the log. -/
theorem Faithful.touched (event : Event κ ν) {key : κ} (touched : event.touched? = some key) :
    (cache.keys.filter (· ≠ key) ++ [key]).Nodup ∧
      (cache.keys.filter (· ≠ key) ++ [key]).Sublist (touchOrder (log ++ [event])) := by
  constructor
  · refine List.nodup_append.mpr ⟨faithful.distinct.filter _, List.nodup_singleton key, ?_⟩
    intro other among last same
    rw [List.mem_singleton.mp same]
    exact of_decide_eq_true (List.mem_filter.mp among).2
  · rw [touchOrder_concat log touched]
    exact (faithful.ordered.filter _).append (List.Sublist.refl [key])

/-- An action that leaves entries and bound alone. -/
theorem Faithful.of_entries {left : Lru κ ν} (entries : left.entries = cache.entries)
    (limit : left.limit = cache.limit) : left.Faithful (log ++ []) := by
  rw [List.append_nil]
  refine ⟨?_, ?_, ?_, ?_⟩
  · rw [keys, entries]
    exact faithful.distinct
  · rw [size, entries, limit]
    exact faithful.bounded
  · rw [keys, entries]
    exact faithful.ordered
  · rw [limit, entries]
    exact faithful.held

/-- A look-up is what its events say. -/
theorem Faithful.get (key : κ) :
    (cache.get key).2.Faithful (log ++ cache.events (.get key)) := by
  cases found : cache.peek key with
  | none =>
      simp only [events, found, Lru.get]
      exact faithful.of_entries rfl rfl
  | some value =>
      have stored : cache.entries.lookup key = some (some value) := Option.join_eq_some_iff.mp found
      have present : key ∈ cache.keys := by
        refine Decidable.byContradiction fun missing => ?_
        rw [lookup_eq_none_iff.mpr missing] at stored
        cases stored
      have listed : (without key cache.entries ++ [(key, some value)]).map (·.1) =
          cache.keys.filter (· ≠ key) ++ [key] := by
        rw [List.map_append, map_fst_without]
        rfl
      obtain ⟨distinct, ordered⟩ := faithful.touched (.used key) rfl
      simp only [events, found, Lru.get]
      refine ⟨?_, ?_, ?_, fun room other => ?_⟩
      · rw [keys, listed]
        exact distinct
      · rw [size, List.length_append, List.length_singleton,
          length_without_of_mem faithful.distinct present]
        exact faithful.bounded
      · rw [keys, listed]
        exact ordered
      · have before := faithful.held room other
        simp only [List.lookup_append, lookup_without, Option.isSome_some, if_true, kept_append,
          List.foldl_cons, List.foldl_nil, Event.leave, ← before]
        by_cases same : other = key
        · subst same
          simp [stored]
        · have away : (other == key) = false := beq_false_of_ne same
          simp [same, List.lookup_cons, away]

/-- A store is what its events say. -/
theorem Faithful.set (key : κ) (value : Option ν) :
    (cache.set key value).Faithful (log ++ cache.events (.set key value)) := by
  have order : touchOrder (log ++ cache.events (.set key value)) =
      touchOrder (log ++ [.stored key value]) := by
    rw [events, List.append_cons]
    refine touchOrder_append_of_untouched _ _ fun event among => ?_
    obtain ⟨other, -, rfl⟩ := List.mem_map.mp among
    rfl
  have bounded := size_set_le cache key value faithful.bounded
  rcases Nat.eq_zero_or_pos cache.limit with closed | room
  · have stays : cache.set key value = cache := if_pos closed
    have empty : cache.keys = [] := keys_of_closed faithful.bounded closed
    rw [stays]
    refine ⟨faithful.distinct, faithful.bounded, ?_, fun room => absurd closed (Nat.ne_of_gt room)⟩
    rw [empty]
    exact List.nil_sublist _
  · obtain ⟨distinct, ordered⟩ := faithful.touched (.stored key value) rfl
    have listed := keys_set_sublist room key value
    refine ⟨listed.nodup distinct, ?_, ?_, fun _ other => ?_⟩
    · rw [limit_set]
      exact bounded
    · rw [order]
      exact listed.trans ordered
    · rw [lookup_set faithful.distinct faithful.bounded room, faithful.held room, kept_append,
        events, List.foldl_cons, foldl_leave_evicted]
      rfl

/-- A deletion is what its events say. -/
theorem Faithful.delete (key : κ) :
    (cache.delete key).2.Faithful (log ++ cache.events (.delete key)) := by
  have order : touchOrder (log ++ [.removed key]) = touchOrder log := by
    refine touchOrder_append_of_untouched _ _ fun event among => ?_
    rw [List.mem_singleton.mp among]
    rfl
  have listed : (without key cache.entries).map (·.1) = cache.keys.filter (· ≠ key) :=
    map_fst_without key cache.entries
  refine ⟨?_, ?_, ?_, fun room other => ?_⟩
  · rw [Lru.delete, keys, listed]
    exact faithful.distinct.filter _
  · exact Nat.le_trans (List.length_filter_le _ _) faithful.bounded
  · rw [Lru.delete, keys, listed, events, order]
    exact (List.filter_sublist).trans faithful.ordered
  · rw [Lru.delete, lookup_without, events, kept_append, faithful.held room]
    simp only [List.foldl_cons, List.foldl_nil, Event.leave, eq_comm]

/-- Every action keeps a cache faithful to its log. -/
theorem Faithful.act (action : Action κ ν) :
    (cache.act action).Faithful (log ++ cache.events action) := by
  cases action with
  | get key => exact faithful.get key
  | has key => exact faithful.of_entries rfl rfl
  | set key value => exact faithful.set key value
  | delete key => exact faithful.delete key
  | clear =>
      refine ⟨List.nodup_nil, Nat.zero_le _, List.nil_sublist _, fun _ key => ?_⟩
      rw [events, kept_append]
      rfl
  | resetStats => exact faithful.of_entries rfl rfl
  | size => exact faithful.of_entries rfl rfl

end Step

/-- So does any number of actions. -/
theorem Faithful.after {cache : Lru κ ν} {log : List (Event κ ν)} (faithful : cache.Faithful log)
    (actions : List (Action κ ν)) : (cache.after actions).Faithful (log ++ cache.log actions) := by
  induction actions generalizing cache log with
  | nil =>
      rw [Lru.log, List.append_nil]
      exact faithful
  | cons action rest ih =>
      rw [Lru.log, ← List.append_assoc]
      exact ih (faithful.act action)

/-- Actions keep the bound. -/
theorem limit_after (cache : Lru κ ν) (actions : List (Action κ ν)) :
    (cache.after actions).limit = cache.limit := by
  induction actions generalizing cache with
  | nil => rfl
  | cons action rest ih =>
      rw [after_cons, ih]
      cases action with
      | get key => exact limit_get cache key
      | set key value => exact limit_set cache key value
      | has key | delete key | clear | resetStats | size => rfl

private theorem reject_ne_ok (value : Value) (capacity : Number) :
    capacityOf.reject value ≠ .ok capacity := by
  unfold capacityOf.reject
  split <;> nofun

omit [DecidableEq κ] in
/-- A bound is an integer that is not negative, and a new cache is empty. -/
theorem of_ofCapacity {value : Value} {start : Lru κ ν} (made : ofCapacity value = .ok start) :
    start.capacity.toInt? = some (start.limit : Int) ∧ start.entries = [] := by
  obtain ⟨capacity, allowed, rfl⟩ := Outcome.map_eq_ok.mp made
  refine ⟨?_, rfl⟩
  unfold capacityOf at allowed
  split at allowed
  · next number =>
      split at allowed
      · next whole =>
          cases allowed
          obtain ⟨bound, read, positive⟩ := (Option.any_eq_true _ _).mp whole
          rw [limit, read, Option.getD_some, Int.toNat_of_nonneg (of_decide_eq_true positive)]
      · exact absurd allowed (reject_ne_ok _ _)
  · exact absurd allowed (reject_ne_ok _ _)

omit [DecidableEq κ] in
/-- The counters of a new cache are at zero. -/
theorem counters_of_ofCapacity {value : Value} {start : Lru κ ν}
    (made : ofCapacity value = .ok start) :
    start.hits = 0 ∧ start.misses = 0 ∧ start.evictions = 0 := by
  obtain ⟨capacity, -, rfl⟩ := Outcome.map_eq_ok.mp made
  exact ⟨rfl, rfl, rfl⟩

/-- An empty cache is faithful to an empty log. -/
theorem faithful_of_empty {start : Lru κ ν} (empty : start.entries = []) : start.Faithful [] := by
  refine ⟨?_, ?_, ?_, fun _ key => ?_⟩
  · rw [keys, empty]
    exact List.nodup_nil
  · rw [size, empty]
    exact Nat.zero_le _
  · rw [keys, empty]
    exact List.nil_sublist _
  · rw [empty]
    rfl

/-- The keys that a faithful cache lists are those that its log keeps, in the order of the last
touch. -/
theorem Faithful.keys_eq {cache : Lru κ ν} {log : List (Event κ ν)} (faithful : cache.Faithful log)
    (room : 0 < cache.limit) :
    cache.keys = (touchOrder log).filter fun key => (kept key log).isSome := by
  have present : ∀ key, key ∈ cache.keys ↔ (kept key log).isSome := by
    intro key
    rw [← faithful.held room, Option.isSome_iff_ne_none, ne_eq, lookup_eq_none_iff, not_not]
    rfl
  have all : cache.keys.filter (fun key => (kept key log).isSome) = cache.keys :=
    List.filter_eq_self.mpr fun key among => (present key).mp among
  have listed : cache.keys.Sublist ((touchOrder log).filter fun key => (kept key log).isSome) := by
    rw [← all]
    exact faithful.ordered.filter _
  have distinct : ((touchOrder log).filter fun key => (kept key log).isSome).Nodup :=
    (List.nodup_dedup _).filter _
  refine listed.eq_of_length_le (distinct.length_le_of_subset fun key among => ?_)
  exact (present key).mpr (List.mem_filter.mp among).2

/-- The state of a cache with a bound behind what the log says. -/
structure Recent (bound : Nat) (log : List (Event κ ν)) (cache : Lru κ ν) : Prop where
  distinct : cache.keys.Nodup
  bounded : cache.size ≤ bound
  closed : bound = 0 → cache.keys = []
  /-- The keys are those that the log keeps, in the order of the last touch. -/
  listed : 0 < bound → cache.keys = (touchOrder log).filter fun key => (kept key log).isSome
  /-- A look-up finds what was stored last. -/
  found : 0 < bound → ∀ key, (cache.get key).1 = (kept key log).join
  /-- A store pushes out the key that was touched least recently, when a new key comes into a full
  cache, and else nothing. -/
  evicts : ∀ key value, cache.pushedOut key value =
    if key ∉ cache.keys ∧ cache.size = bound then cache.keys.take 1 else []
  counted : ∀ key value,
    (cache.set key value).evictions = cache.evictions + (cache.pushedOut key value).length
  /-- The key that is stored stays, as the one touched last. -/
  stored : 0 < bound → ∀ key value, (cache.set key value).keys.getLast? = some key

/-- A cache that is what its log says keeps what was touched last. -/
theorem Faithful.recent {cache : Lru κ ν} {log : List (Event κ ν)} (faithful : cache.Faithful log) :
    Recent cache.limit log cache where
  distinct := faithful.distinct
  bounded := faithful.bounded
  closed := keys_of_closed faithful.bounded
  listed := faithful.keys_eq
  found := fun room key => by rw [fst_get, peek, faithful.held room]
  evicts := fun key value => (pushedOut_eq faithful.distinct faithful.bounded key value).1
  counted := fun key value => (pushedOut_eq faithful.distinct faithful.bounded key value).2
  stored := fun room => getLast?_keys_set faithful.distinct faithful.bounded room

/-- A session, at every depth, takes a new cache through moments at each of which it is what its
log says; and a computation that fails adds nothing to what was done inside it. -/
theorem runAll_recent {value : Value} {start : Lru κ ν} (made : ofCapacity value = .ok start)
    (ops : List (Op κ ν ε)) :
    ∃ bound : Nat, start.capacity.toInt? = some (bound : Int) ∧
      start.after (actionsAll start ops) = (runAll start ops).2 ∧
      start.Passes (actionsAll start ops) (Report.shownAll (runAll start ops).1) ∧
      ∀ past, past <+: actionsAll start ops →
        Recent bound (start.log past) (start.after past) ∧
        ∀ key, (start.after past).peek key = none → ∀ (during : List (Op κ ν ε)) (error : ε),
          let (reports, left) := runAll ((start.after past).get key).2 during
          run (start.after past) (.getOrCompute key during (.error error)) =
            (.mk (.failed error) (some reports) left.keys left.stats, left) := by
  obtain ⟨bound, empty⟩ := of_ofCapacity made
  refine ⟨start.limit, bound, after_actionsAll start ops, passes_runAll start ops,
    fun past _ => ⟨?_, fun key missing during error => run_of_thrown missing during error⟩⟩
  have recent := ((faithful_of_empty empty).after past).recent
  rwa [limit_after, List.nil_append] at recent

/-- Inside the computation for one key another one is stored, and a computation for a third one
stores and then fails. -/
theorem runAll_recent_of_nested :
    let start : Lru Nat Nat := { capacity := .int 1 }
    let inner : List (Op Nat Nat Unit) :=
      [.set 1 none, .getOrCompute 3 [.set 2 (some 7), .get 2] (.error ()), .has 2]
    let ops := [.set 1 (some 10), .getOrCompute 2 inner (.ok (some 20)), .get 2]
    ofCapacity (.number (.int 1)) = .ok start ∧
      (runAll start ops).2.keys = [2] ∧ (runAll start ops).2.evictions = 1 ∧
      ∃ bound : Nat, start.capacity.toInt? = some (bound : Int) ∧
        ∀ past, past <+: actionsAll start ops →
          Recent bound (start.log past) (start.after past) := by
  intro start inner ops
  have made : ofCapacity (.number (.int 1)) = .ok start := rfl
  obtain ⟨bound, read, -, -, moments⟩ := runAll_recent made ops
  exact ⟨made, by decide +kernel, by decide +kernel, bound, read,
    fun past early => (moments past early).1⟩

end QueryBind.Lru
