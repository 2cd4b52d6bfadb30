import QueryBind.Converter.Basic
import QueryBind.Proofs.Observe.Ledger
import QueryBind.Proofs.Text.Order

/-! # The series of a converter

A converter adds ones to the counters of a few series for each variant. Different series have
different keys (`Converter.Series.key_injective`), so a counter holds the ones that were added to
its own series and no others. Counters are doubles: they are exact as long as the number of ones
is (`Tally.Counts`).
-/

namespace QueryBind

/-! ## Counting by ones -/

namespace Tally

/-- A counter after so many ones were added to it. -/
def plus (tally : Tally) : Nat → Tally
  | 0 => tally
  | n + 1 => (tally.plus n).addNumber (.int 1)

/-- Counts are added one after the other. -/
theorem plus_add (tally : Tally) (m n : Nat) : tally.plus (m + n) = (tally.plus m).plus n := by
  induction n with
  | zero => rfl
  | succ n ih => rw [← Nat.add_assoc, plus, ih, plus]

/-- A counter that so many ones were added to, and that is their number while this is exact. -/
structure Counts (tally : Tally) (n : Nat) : Prop where
  added : tally = zero.plus n
  exact : n < Nat.pow 2 53 → tally = .number (.int n)

/-- Zero and a number count the number. -/
theorem counts_plus (n : Nat) : (zero.plus n).Counts n := by
  refine ⟨rfl, fun small => ?_⟩
  induction n with
  | zero => rfl
  | succ n ih =>
      have safe : Number.isSafe (n + 1) = true := by
        rw [Nat.pow_eq] at small
        simp only [Number.isSafe, Nat.pow_eq, decide_eq_true_eq]
        omega
      rw [plus, ih (Nat.lt_of_succ_lt small), addNumber, Number.add_int_of_isSafe _ _ safe]
      rfl

end Tally

namespace Converter

/-! ## Series -/

/-- What a converter counts of a variant. -/
inductive Series where
  | conversions
  | bypasses
  | hits
  | misses
  | errors (code : String)
  deriving DecidableEq

namespace Series

def name : Series → String
  | .conversions => MetricName.conversions
  | .bypasses => MetricName.cacheBypasses
  | .hits => MetricName.cacheHits
  | .misses => MetricName.cacheMisses
  | .errors _ => MetricName.conversionErrors

def tags (variant : Variant) : Series → Tags
  | .errors code => Converter.tags variant ++ .ofTexts [("code", code)]
  | _ => Converter.tags variant

/-- The text that a series of a variant is known by. -/
def key (variant : Variant) (series : Series) : List UInt16 :=
  seriesKey series.name (series.tags variant)

/-- The tags of an error come in the order of their names. -/
theorem key_errors (variant : Variant) (code : String) :
    key variant (.errors code) =
      Text.units MetricName.conversionErrors ++ Text.units "\x7b" ++
        (Text.units "code" ++ Text.units "=" ++ Text.units code ++ Text.units "," ++
          (Text.units "variant" ++ Text.units "=" ++ Text.units variant.name)) ++
        Text.units "\x7d" := by
  have behind : Text.nameLe "variant" "code" = false := by decide
  simp [key, name, tags, Converter.tags, seriesKey, Tags.ofTexts, Tags.sorted, List.mergeSort,
    List.MergeSort.Internal.splitInTwo, behind, List.intercalate]

private theorem units_name_inj {variant other : Variant}
    (same : Text.units variant.name = Text.units other.name) : variant = other := by
  revert same
  cases variant <;> cases other <;> decide

/-- The names of the variants are equally long, so the texts of two codes end in one place. -/
theorem key_errors_injective {variant other : Variant} {code another : String}
    (same : key variant (.errors code) = key other (.errors another)) :
    code = another ∧ variant = other := by
  have long (variant : Variant) : (Text.units variant.name).length = 6 := by
    cases variant <;> decide
  rw [key_errors, key_errors] at same
  simp only [List.append_assoc, List.append_cancel_left_eq] at same
  obtain ⟨codes, rest⟩ := List.append_inj' same (by simp only [List.length_append, long])
  simp only [List.append_cancel_left_eq, List.append_cancel_right_eq] at rest
  exact ⟨Text.units_injective codes, units_name_inj rest⟩

private theorem seriesKey_tags (name : String) (variant : Variant) :
    seriesKey name (Converter.tags variant) =
      Text.units name ++ Text.units "\x7b" ++
        (Text.units "variant" ++ Text.units "=" ++ Text.units variant.name) ++
        Text.units "\x7d" :=
  seriesKey_singleton name "variant" (Text.units variant.name)

private theorem seriesKey_tags_injective {name : String} {variant other : Variant}
    (same : seriesKey name (Converter.tags variant) = seriesKey name (Converter.tags other)) :
    variant = other := by
  simp only [seriesKey_tags, List.append_cancel_left_eq, List.append_cancel_right_eq] at same
  exact units_name_inj same

/-- A key begins with the name of the series. -/
theorem take_key (variant : Variant) (series : Series) :
    (series.key variant).take 19 = (Text.units series.name).take 19 := by
  have begins (name : String) (long : 19 ≤ (Text.units name).length) (behind : List UInt16) :
      (Text.units name ++ behind).take 19 = (Text.units name).take 19 :=
    List.take_append_of_le_length long
  cases series with
  | errors code =>
      rw [key_errors]
      simp only [List.append_assoc]
      exact begins _ (by decide) _
  | conversions | bypasses | hits | misses =>
      refine (congrArg (List.take 19) (seriesKey_tags _ variant)).trans ?_
      simp only [List.append_assoc]
      exact begins _ (by decide) _

/-- Different series, and the series of different variants, have different keys: the names of
the series differ within nineteen units. -/
theorem key_injective {series other : Series} {variant another : Variant}
    (same : series.key variant = other.key another) : series = other ∧ variant = another := by
  have names := congrArg (List.take 19) same
  rw [take_key, take_key] at names
  cases series <;> cases other
  case errors.errors code coded =>
    obtain ⟨rfl, rfl⟩ := key_errors_injective same
    exact ⟨rfl, rfl⟩
  case conversions.conversions | bypasses.bypasses | hits.hits | misses.misses =>
    exact ⟨rfl, seriesKey_tags_injective same⟩
  all_goals
    simp only [name] at names
    exact absurd names (by decide)

end Series

end Converter

namespace Metrics

open Converter (Series)

/-- The counter of a series of a variant. -/
def tally (metrics : Metrics) (variant : Variant) (series : Series) : Tally :=
  metrics.counter series.name (series.tags variant)

/-- Metrics behind ones that were added to series of a variant. -/
def addOnes (metrics : Metrics) (variant : Variant) (added : List Series) : Metrics :=
  added.foldl (fun metrics series => metrics.increment series.name (.int 1) (series.tags variant))
    metrics

/-- An increment adds one to its own series and variant, and nothing to the others. -/
theorem tally_increment (metrics : Metrics) (variant other : Variant) (series another : Series) :
    (metrics.increment series.name (.int 1) (series.tags variant)).tally other another =
      (metrics.tally other another).plus (if other = variant ∧ another = series then 1 else 0) := by
  unfold tally
  rw [counter_increment]
  by_cases same : other = variant ∧ another = series
  · obtain ⟨rfl, rfl⟩ := same
    rw [if_pos rfl, if_pos ⟨rfl, rfl⟩]
    rfl
  · have apart : another.key other ≠ series.key variant := by
      intro keys
      obtain ⟨rfl, rfl⟩ := Series.key_injective keys
      exact same ⟨rfl, rfl⟩
    rw [if_neg same]
    exact if_neg apart

/-- A counter holds the ones that were added to its series. -/
theorem tally_addOnes (metrics : Metrics) (variant other : Variant) (added : List Series)
    (series : Series) :
    (metrics.addOnes variant added).tally other series =
      (metrics.tally other series).plus (if other = variant then added.count series else 0) := by
  induction added generalizing metrics with
  | nil => simp [addOnes, Tally.plus]
  | cons first added ih =>
      change ((metrics.increment first.name (.int 1) (first.tags variant)).addOnes variant
        added).tally other series = _
      rw [ih, tally_increment, ← Tally.plus_add]
      congr 1
      by_cases same : other = variant
      · simp only [same, true_and, if_true, List.count_cons, beq_iff_eq, eq_comm (a := first)]
        exact Nat.add_comm _ _
      · simp only [same, false_and, if_false]

end Metrics

end QueryBind
