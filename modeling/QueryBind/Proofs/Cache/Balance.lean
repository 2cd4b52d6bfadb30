import QueryBind.Proofs.Cache.Recency

/-! # The counters of a cache

An account of what was done to a cache since its counters were set to zero: how often a key was
looked up, how many new keys were stored and how many entries were taken away on request. The
counters agree with it at every moment (`Lru.Balanced`): each look-up is a hit or a miss, and each
new key is still there, or was evicted, or was taken away. One action keeps that
(`Lru.Balanced.act`), so a session does, wherever in a pending computation the moment is and
wherever the counters were set to zero (`Lru.runAll_balanced`).
-/

namespace QueryBind.Lru

/-- What was done to a cache since its counters were set to zero. -/
structure Account where
  /-- Calls of `get`, and beginnings of `getOrCompute`. -/
  lookups : Nat := 0
  /-- Stores of a key that was not present and then was. -/
  added : Nat := 0
  /-- Entries that `delete` and `clear` took away. -/
  removed : Nat := 0
  /-- The number of entries when the counters were set to zero. -/
  opening : Nat := 0
  deriving DecidableEq, Repr

variable {κ ν ε : Type} [DecidableEq κ]

/-- The account behind an action on a cache. -/
def Account.enter (account : Account) (cache : Lru κ ν) : Action κ ν → Account
  | .get _ => { account with lookups := account.lookups + 1 }
  | .set key value =>
    if key ∉ cache.keys ∧ key ∈ (cache.set key value).keys then
      { account with added := account.added + 1 }
    else account
  | .delete key =>
    if key ∈ cache.keys then { account with removed := account.removed + 1 } else account
  | .clear => { account with removed := account.removed + cache.size }
  | .resetStats => { opening := cache.size }
  | .has _ | .size => account

/-- The account behind actions, one after the other. -/
def account (cache : Lru κ ν) (account : Account) : List (Action κ ν) → Account
  | [] => account
  | action :: rest => (cache.act action).account (account.enter cache action) rest

/-- The counters of a cache agree with an account. -/
structure Balanced (account : Account) (cache : Lru κ ν) : Prop where
  /-- Each look-up was a hit or a miss. -/
  looked : cache.hits + cache.misses = account.lookups
  /-- Each new key made the cache larger, or was made up for by an eviction or a removal. -/
  stored : (account.added : Int) =
    ((cache.size : Int) - account.opening) + cache.evictions + account.removed

section Step

variable {cache : Lru κ ν} (distinct : cache.keys.Nodup)

include distinct

/-- A look-up is counted once, and changes the number of entries in no case. -/
theorem counters_get (key : κ) :
    (cache.get key).2.hits + (cache.get key).2.misses = cache.hits + cache.misses + 1 ∧
      (cache.get key).2.evictions = cache.evictions ∧ (cache.get key).2.size = cache.size := by
  unfold get
  cases found : cache.peek key with
  | none => exact ⟨rfl, rfl, rfl⟩
  | some value =>
      have stored : cache.entries.lookup key = some (some value) := Option.join_eq_some_iff.mp found
      have present : key ∈ cache.keys := by
        refine Decidable.byContradiction fun missing => ?_
        rw [lookup_eq_none_iff.mpr missing] at stored
        cases stored
      refine ⟨Nat.succ_add _ _, rfl, ?_⟩
      rw [size, List.length_append, List.length_singleton]
      exact length_without_of_mem distinct present

/-- A store of a new key makes the cache larger or evicts an entry; any other one changes neither
size nor counters. -/
theorem counters_set (bounded : cache.size ≤ cache.limit) (key : κ) (value : Option ν) :
    (cache.set key value).hits = cache.hits ∧ (cache.set key value).misses = cache.misses ∧
      (cache.set key value).size + (cache.set key value).evictions =
        cache.size + cache.evictions +
          (if key ∉ cache.keys ∧ key ∈ (cache.set key value).keys then 1 else 0) := by
  rcases Nat.eq_zero_or_pos cache.limit with closed | room
  · have stays : cache.set key value = cache := if_pos closed
    have neither : ¬ (key ∉ cache.keys ∧ key ∈ cache.keys) := fun both => both.1 both.2
    rw [stays, if_neg neither]
    exact ⟨rfl, rfl, rfl⟩
  · have last : key ∈ (cache.set key value).keys :=
      List.mem_of_getLast? (getLast?_keys_set distinct bounded room key value)
    rcases set_cases distinct bounded room key value with
      ⟨-, stored⟩ | ⟨oldest, rest, fresh, -, entries, stored⟩
    · by_cases present : key ∈ cache.keys
      · have shorter := length_without_of_mem distinct present
        rw [if_neg fun both => both.1 present, stored]
        refine ⟨rfl, rfl, ?_⟩
        simp only [size, List.length_append, List.length_singleton] at shorter ⊢
        omega
      · rw [if_pos ⟨present, last⟩, stored]
        refine ⟨rfl, rfl, ?_⟩
        simp only [size, without_of_not_mem present, List.length_append, List.length_singleton]
        omega
    · rw [if_pos ⟨fresh, last⟩, stored]
      refine ⟨rfl, rfl, ?_⟩
      simp only [size, entries, List.length_append, List.length_cons, List.length_nil]
      omega

private theorem size_delete (key : κ) :
    (cache.delete key).2.size + (if key ∈ cache.keys then 1 else 0) = cache.size := by
  by_cases present : key ∈ cache.keys
  · rw [if_pos present]
    exact length_without_of_mem distinct present
  · rw [if_neg present, delete, size, without_of_not_mem present]
    rfl

/-- **An action keeps the counters balanced.** -/
theorem Balanced.act (bounded : cache.size ≤ cache.limit) {account : Account}
    (balanced : Balanced account cache) (action : Action κ ν) :
    Balanced (account.enter cache action) (cache.act action) := by
  obtain ⟨looked, stored⟩ := balanced
  cases action with
  | get key =>
      obtain ⟨counted, evictions, size⟩ := counters_get distinct key
      refine ⟨counted.trans (congrArg (· + 1) looked), ?_⟩
      simp only [Lru.act, Account.enter, evictions, size]
      exact stored
  | set key value =>
      obtain ⟨hits, misses, grown⟩ := counters_set distinct bounded key value
      simp only [Lru.act, Account.enter]
      split at grown
      · next fresh =>
          rw [if_pos fresh]
          exact ⟨by rw [hits, misses]; exact looked, by simp only; omega⟩
      · next known =>
          rw [if_neg known]
          exact ⟨by rw [hits, misses]; exact looked, by omega⟩
  | delete key =>
      have shrunk := size_delete distinct key
      simp only [Lru.act, Account.enter]
      split at shrunk
      · next present =>
          rw [if_pos present]
          exact ⟨looked, by simp only [Lru.delete] at shrunk ⊢; omega⟩
      · next absent =>
          rw [if_neg absent]
          exact ⟨looked, by simp only [Lru.delete] at shrunk ⊢; omega⟩
  | clear =>
      refine ⟨looked, ?_⟩
      simp only [Lru.act, Account.enter, Lru.clear, Lru.size, List.length_nil] at stored ⊢
      omega
  | resetStats =>
      refine ⟨rfl, ?_⟩
      simp [Lru.act, Account.enter, Lru.resetStats, Lru.size]
  | has key => exact ⟨looked, stored⟩
  | size => exact ⟨looked, stored⟩

end Step

/-- So do actions, one after the other. -/
theorem Balanced.after {cache : Lru κ ν} {log : List (Event κ ν)} (faithful : cache.Faithful log)
    {account : Account} (balanced : Balanced account cache) (actions : List (Action κ ν)) :
    Balanced (cache.account account actions) (cache.after actions) := by
  induction actions generalizing cache log account with
  | nil => exact balanced
  | cons action rest ih =>
      exact ih (faithful.act action) (balanced.act faithful.distinct faithful.bounded action)

/-- **The counters of a cache balance.** At every moment of a session, at whatever depth, hits and
misses are as many as the look-ups since the counters were set to zero, and the new keys that were
stored since then are as many as the cache grew, and were evicted, and were taken away. A cache
bounded by zero stores nothing. -/
theorem runAll_balanced {value : Value} {start : Lru κ ν} (made : ofCapacity value = .ok start)
    (ops : List (Op κ ν ε)) :
    start.after (actionsAll start ops) = (runAll start ops).2 ∧
      start.Passes (actionsAll start ops) (Report.shownAll (runAll start ops).1) ∧
      ∀ past, past <+: actionsAll start ops →
        Balanced (start.account {} past) (start.after past) ∧
        (start.limit = 0 → ∀ key stored, (start.after past).set key stored = start.after past) := by
  obtain ⟨-, empty⟩ := of_ofCapacity made
  obtain ⟨hits, misses, evictions⟩ := counters_of_ofCapacity made
  have balanced : Balanced {} start := by
    refine ⟨?_, ?_⟩
    · rw [hits, misses]
    · rw [evictions, size, empty]
      rfl
  refine ⟨after_actionsAll start ops, passes_runAll start ops, fun past _ =>
    ⟨balanced.after (faithful_of_empty empty) past, fun closed key stored => ?_⟩⟩
  exact if_pos ((limit_after start past).trans closed)

/-- The key that is looked up is there when its value is stored, and the counters are set to zero
while the value is computed. -/
theorem runAll_balanced_of_nested :
    let start : Lru Nat Nat := { capacity := .int 1 }
    let inner : List (Op Nat Nat Unit) :=
      [.resetStats, .getOrCompute 2 [.set 3 none] (.error ()), .set 1 (some 10)]
    let ops := [.set 0 (some 5), .getOrCompute 1 inner (.ok (some 20)), .delete 1, .clear, .get 1]
    ofCapacity (.number (.int 1)) = .ok start ∧
      start.account {} (actionsAll start ops) =
        { lookups := 2, added := 2, removed := 1, opening := 1 } ∧
      ((runAll start ops).2.hits, (runAll start ops).2.misses, (runAll start ops).2.evictions) =
        (0, 2, 2) ∧
      Balanced (start.account {} (actionsAll start ops)) (runAll start ops).2 := by
  intro start inner ops
  have made : ofCapacity (.number (.int 1)) = .ok start := rfl
  obtain ⟨last, -, moments⟩ := runAll_balanced made ops
  refine ⟨made, by decide +kernel, by decide +kernel, ?_⟩
  rw [← last]
  exact (moments _ (List.prefix_refl _)).1

end QueryBind.Lru
