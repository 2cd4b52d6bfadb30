import QueryBind.Cache.Lru

/-! # What a cache holds

A law for the values that may be stored under a key. A cache that obeys it goes on to obey it
whatever is looked up, removed or evicted, as long as what is stored obeys it. The law is about
entries and not about look-ups, so nothing has to be known about the order of the entries or
about a key that is present twice.
-/

namespace QueryBind.Lru

variable {κ ν : Type}

/-- Every stored value obeys the law for its key. -/
def Holds (law : κ → ν → Prop) (cache : Lru κ ν) : Prop :=
  ∀ key value, (key, some value) ∈ cache.entries → law key value

/-- An empty cache holds what the law says. -/
theorem holds_of_entries_eq_nil {law : κ → ν → Prop} {cache : Lru κ ν}
    (empty : cache.entries = []) : cache.Holds law := by
  intro key value member
  rw [empty] at member
  cases member

private theorem Holds.of_subset {law : κ → ν → Prop} {cache next : Lru κ ν}
    (sound : cache.Holds law)
    (fewer : ∀ entry ∈ next.entries, entry ∈ cache.entries) : next.Holds law :=
  fun key value member => sound key value (fewer _ member)

variable [DecidableEq κ]

/-- A value that is found stands in the entries. -/
theorem mem_entries_of_peek {cache : Lru κ ν} {key : κ} {value : ν}
    (found : cache.peek key = some value) : (key, some value) ∈ cache.entries := by
  obtain ⟨before, after, split, _⟩ :=
    List.lookup_eq_some_iff.mp (Option.join_eq_some_iff.mp found)
  rw [split]
  exact List.mem_append_right _ List.mem_cons_self

/-- What is found obeys the law. -/
theorem Holds.peek {law : κ → ν → Prop} {cache : Lru κ ν} (sound : cache.Holds law) {key : κ}
    {value : ν} (found : cache.peek key = some value) : law key value :=
  sound key value (mem_entries_of_peek found)

/-- A look-up keeps the law. -/
theorem Holds.get {law : κ → ν → Prop} {cache : Lru κ ν} (sound : cache.Holds law) (key : κ) :
    (cache.get key).2.Holds law := by
  unfold Lru.get
  split
  · next value found =>
      refine sound.of_subset fun entry member => ?_
      rcases List.mem_append.mp member with kept | used
      · exact (List.mem_filter.mp kept).1
      · rw [List.mem_singleton.mp used]
        exact mem_entries_of_peek found
  · exact sound

/-- A store that obeys the law keeps it. -/
theorem Holds.set {law : κ → ν → Prop} {cache : Lru κ ν} (sound : cache.Holds law) {key : κ}
    {value : ν} (lawful : law key value) : (cache.set key (some value)).Holds law := by
  unfold Lru.set
  split
  · exact sound
  · intro other held member
    rcases List.mem_append.mp (List.mem_of_mem_drop member) with kept | stored
    · exact sound other held (List.mem_filter.mp kept).1
    · simp only [List.mem_singleton, Prod.mk.injEq, Option.some.injEq] at stored
      obtain ⟨rfl, rfl⟩ := stored
      exact lawful

end QueryBind.Lru
