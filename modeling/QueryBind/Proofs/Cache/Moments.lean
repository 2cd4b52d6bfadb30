import QueryBind.Cache.Session

/-! # The moments of a session

What a session does to a cache, taken apart. An operation whose computation works on the cache is
no single step: between its look-up and its store lies everything that the computation does. So a
session is flattened into actions that are single steps (`Lru.actions`), and the cache behind the
actions is the cache that the session leaves (`Lru.after_actionsAll`). Whatever an operation
reports, at whatever depth, was so at one of these moments (`Lru.passes_runAll`).
-/

namespace QueryBind.Lru

/-- What is done to a cache at one moment. -/
inductive Action (κ ν : Type) where
  | get (key : κ)
  | has (key : κ)
  | set (key : κ) (value : Option ν)
  | delete (key : κ)
  | clear
  | resetStats
  | size
  deriving DecidableEq, Repr

variable {κ ν ε : Type} [DecidableEq κ]

/-- The cache behind an action. -/
def act (cache : Lru κ ν) : Action κ ν → Lru κ ν
  | .get key => (cache.get key).2
  | .set key value => cache.set key value
  | .delete key => (cache.delete key).2
  | .clear => cache.clear
  | .resetStats => cache.resetStats
  | .has _ | .size => cache

/-- The cache behind actions, one after the other. -/
def after (cache : Lru κ ν) (actions : List (Action κ ν)) : Lru κ ν :=
  actions.foldl act cache

/-- Actions are done one after the other. -/
@[simp] theorem after_cons (cache : Lru κ ν) (action : Action κ ν) (rest : List (Action κ ν)) :
    cache.after (action :: rest) = (cache.act action).after rest := rfl

private theorem after_append (cache : Lru κ ν) (first second : List (Action κ ν)) :
    cache.after (first ++ second) = (cache.after first).after second :=
  List.foldl_append

mutual

/-- What an operation does, step by step: a computation comes between the look-up that missed and
the store of its value. -/
def actions (cache : Lru κ ν) : Op κ ν ε → List (Action κ ν)
  | .get key => [.get key]
  | .has key => [.has key]
  | .set key value => [.set key value]
  | .delete key => [.delete key]
  | .clear => [.clear]
  | .resetStats => [.resetStats]
  | .size => [.size]
  | .getOrCompute key during outcome =>
    match cache.peek key, outcome with
    | some _, _ => [.get key]
    | none, .ok value => .get key :: (actionsAll (cache.get key).2 during ++ [.set key value])
    | none, .error _ => .get key :: actionsAll (cache.get key).2 during

/-- What operations do, one after the other. -/
def actionsAll (cache : Lru κ ν) : List (Op κ ν ε) → List (Action κ ν)
  | [] => []
  | op :: rest => actions cache op ++ actionsAll (run cache op).2 rest

end

private theorem getOrCompute_of_peek {α : Type} {cache : Lru κ ν} {key : κ} {value : ν}
    (found : cache.peek key = some value)
    (compute : Lru κ ν → Except ε (Option ν) × Lru κ ν × α) :
    cache.getOrCompute key compute = (.ok (some value), (cache.get key).2, none) := by
  unfold getOrCompute
  have looked := fst_get cache key
  rw [found] at looked
  split
  · next other used same =>
      rw [same] at looked ⊢
      cases looked
      rfl
  · next used same =>
      rw [same] at looked
      cases looked

private theorem getOrCompute_of_missing {α : Type} {cache : Lru κ ν} {key : κ}
    (missing : cache.peek key = none)
    {compute : Lru κ ν → Except ε (Option ν) × Lru κ ν × α} {outcome : Except ε (Option ν)}
    {left : Lru κ ν} {note : α} (computed : compute (cache.get key).2 = (outcome, left, note)) :
    cache.getOrCompute key compute =
      (outcome, (match outcome with | .ok value => left.set key value | .error _ => left),
        some note) := by
  unfold getOrCompute
  have looked := fst_get cache key
  rw [missing] at looked
  split
  · next other used same =>
      rw [same] at looked
      cases looked
  · next used same =>
      rw [same] at computed
      rw [computed]
      cases outcome <;> rfl

section Run

variable {cache : Lru κ ν} {key : κ}

/-- Nothing is computed where a value is found. -/
theorem run_of_peek {value : ν} (found : cache.peek key = some value) (during : List (Op κ ν ε))
    (outcome : Except ε (Option ν)) :
    run cache (.getOrCompute key during outcome) =
      (.mk (.value (some value)) none (cache.get key).2.keys (cache.get key).2.stats,
        (cache.get key).2) := by
  rw [run, getOrCompute_of_peek found]

/-- A computed value is stored in the cache that the computation leaves. -/
theorem run_of_computed (missing : cache.peek key = none) (during : List (Op κ ν ε))
    (value : Option ν) :
    let (reports, left) := runAll (cache.get key).2 during
    run cache (.getOrCompute key during (.ok value)) =
      (.mk (.value value) (some reports) (left.set key value).keys (left.set key value).stats,
        left.set key value) := by
  rw [run, getOrCompute_of_missing missing rfl]

/-- A computation that fails leaves the cache as it is, and its error is passed on. -/
theorem run_of_thrown (missing : cache.peek key = none) (during : List (Op κ ν ε)) (error : ε) :
    let (reports, left) := runAll (cache.get key).2 during
    run cache (.getOrCompute key during (.error error)) =
      (.mk (.failed error) (some reports) left.keys left.stats, left) := by
  rw [run, getOrCompute_of_missing missing rfl]

private theorem actions_of_peek {value : ν} (found : cache.peek key = some value)
    (during : List (Op κ ν ε)) (outcome : Except ε (Option ν)) :
    actions cache (.getOrCompute key during outcome) = [.get key] := by
  simp only [actions, found]

private theorem actions_of_computed (missing : cache.peek key = none) (during : List (Op κ ν ε))
    (value : Option ν) :
    actions cache (.getOrCompute key during (.ok value)) =
      [.get key] ++ actionsAll (cache.get key).2 during ++ [.set key value] := by
  simp only [actions, missing, List.cons_append, List.nil_append]

private theorem actions_of_thrown (missing : cache.peek key = none) (during : List (Op κ ν ε))
    (error : ε) :
    actions cache (.getOrCompute key during (.error error)) =
      [.get key] ++ actionsAll (cache.get key).2 during := by
  simp only [actions, missing, List.cons_append, List.nil_append]

end Run

mutual

/-- The actions of an operation leave the cache that the operation leaves. -/
theorem after_actions (cache : Lru κ ν) (op : Op κ ν ε) :
    cache.after (actions cache op) = (run cache op).2 := by
  match op with
  | .get key | .has key | .set key value | .delete key | .clear | .resetStats | .size => rfl
  | .getOrCompute key during outcome =>
      have inside := after_actionsAll (cache.get key).2 during
      cases held : cache.peek key with
      | some value =>
          rw [run_of_peek held, actions_of_peek held]
          rfl
      | none =>
          cases outcome with
          | ok value =>
              rw [run_of_computed held, actions_of_computed held, ← inside]
              exact after_append _ _ _
          | error error =>
              rw [run_of_thrown held, actions_of_thrown held]
              exact inside

/-- The actions of a session leave the cache that the session leaves. -/
theorem after_actionsAll (cache : Lru κ ν) (ops : List (Op κ ν ε)) :
    cache.after (actionsAll cache ops) = (runAll cache ops).2 := by
  match ops with
  | [] => rfl
  | op :: rest =>
      rw [actionsAll, after_append, after_actions cache op, runAll]
      exact after_actionsAll (run cache op).2 rest

end

/-- Keys and counters of a cache. -/
def shown (cache : Lru κ ν) : List κ × CacheStats :=
  (cache.keys, cache.stats)

mutual

/-- The keys and counters that a report shows: those behind the operations inside, and those
behind the operation itself. -/
def Report.shown : Report κ ν ε → List (List κ × CacheStats)
  | .mk _ none keys stats => [(keys, stats)]
  | .mk _ (some during) keys stats => Report.shownAll during ++ [(keys, stats)]

/-- The keys and counters that reports show. -/
def Report.shownAll : List (Report κ ν ε) → List (List κ × CacheStats)
  | [] => []
  | report :: rest => Report.shown report ++ Report.shownAll rest

end

/-- Each of the given keys and counters is what the cache shows behind some of the actions. -/
def Passes (cache : Lru κ ν) (actions : List (Action κ ν)) (seen : List (List κ × CacheStats)) :
    Prop :=
  ∀ item ∈ seen, ∃ past, past <+: actions ∧ item = (cache.after past).shown

section Passes

variable {cache left : Lru κ ν} {first second : List (Action κ ν)}
  {seen others : List (List κ × CacheStats)}

private theorem Passes.append (passes : cache.Passes first seen)
    (reached : cache.after first = left)
    (later : left.Passes second others) : cache.Passes (first ++ second) (seen ++ others) := by
  intro item among
  rcases List.mem_append.mp among with early | late
  · obtain ⟨past, start, same⟩ := passes item early
    exact ⟨past, start.trans (List.prefix_append first second), same⟩
  · obtain ⟨past, start, same⟩ := later item late
    refine ⟨first ++ past, (List.prefix_append_right_inj first).mpr start, ?_⟩
    rw [after_append, reached]
    exact same

private theorem passes_nil : cache.Passes first [] :=
  nofun

/-- The last moment is one of them. -/
theorem passes_last (reached : cache.after first = left) : cache.Passes first [left.shown] := by
  intro item among
  rw [List.mem_singleton.mp among, ← reached]
  exact ⟨first, List.prefix_refl first, rfl⟩

private theorem Passes.concat (passes : cache.Passes first seen)
    (reached : cache.after first = left) : cache.Passes first (seen ++ [left.shown]) := by
  intro item among
  rcases List.mem_append.mp among with early | last
  · exact passes item early
  · exact passes_last reached item last

end Passes

mutual

/-- Whatever the report on an operation shows was so at one moment of the operation. -/
theorem passes_run (cache : Lru κ ν) (op : Op κ ν ε) :
    cache.Passes (actions cache op) (run cache op).1.shown := by
  match op with
  | .get key | .has key | .set key value | .delete key | .clear | .resetStats | .size =>
      exact passes_last rfl
  | .getOrCompute key during outcome =>
      have looked : cache.Passes [.get key] [] := passes_nil
      have inside := looked.append rfl (passes_runAll (cache.get key).2 during)
      have left := after_actionsAll (cache.get key).2 during
      cases held : cache.peek key with
      | some value =>
          rw [run_of_peek held, actions_of_peek held]
          exact passes_last rfl
      | none =>
          cases outcome with
          | ok value =>
              rw [run_of_computed held, actions_of_computed held]
              exact inside.append left (passes_last rfl)
          | error error =>
              rw [run_of_thrown held, actions_of_thrown held]
              exact inside.concat left

/-- Whatever the reports on a session show was so at one moment of the session. -/
theorem passes_runAll (cache : Lru κ ν) (ops : List (Op κ ν ε)) :
    cache.Passes (actionsAll cache ops) (Report.shownAll (runAll cache ops).1) := by
  match ops with
  | [] => exact passes_nil
  | op :: rest =>
      exact (passes_run cache op).append (after_actions cache op)
        (passes_runAll (run cache op).2 rest)

end

end QueryBind.Lru
