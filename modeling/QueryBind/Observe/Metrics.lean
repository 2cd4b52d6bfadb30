import QueryBind.Value.Display

/-! # Metrics

Counters and timings by series. A series is a name with tags; it is known by the units of
one text, in which the tags are sorted, so the order in which tags are given does not matter.
A series without tags is known by its name alone. Counters that are only added numbers to
hold their sum (`add_number`); a text that is added is appended, from then on for good.
-/

namespace QueryBind

/-- Tag names with the units of their values. -/
abbrev Tags := List (String × List UInt16)

namespace Tags

/-- Tags whose values are given as texts. -/
def ofTexts (tags : List (String × String)) : Tags :=
  tags.map fun tag => (tag.1, Text.units tag.2)

/-- The tags in a value's fields. -/
def ofFields : Fields → Except Fault Tags
  | [] => .ok []
  | (name, value) :: rest => do
    let units ← value.inlineUnits
    let others ← ofFields rest
    return (name, units) :: others

/-- The tags that a value holds. -/
def ofValue (value : Value) : Except Fault Tags :=
  ofFields value.ownFields

/-- Tags in the order of their names. -/
def sorted (tags : Tags) : Tags :=
  tags.mergeSort fun a b => Text.nameLe a.1 b.1

end Tags

/-- The units that a series is known by. -/
def seriesKey (name : String) (tags : Tags) : List UInt16 :=
  if tags = [] then Text.units name
  else
    let pairs := tags.sorted.map fun tag => Text.units tag.1 ++ Text.units "=" ++ tag.2
    Text.units name ++ Text.units "\x7b" ++ (Text.units ",").intercalate pairs ++
      Text.units "\x7d"

/-- What a counter holds. -/
inductive Tally where
  | number (n : Number)
  | text (content : Text.Wide)
  deriving DecidableEq, Repr

namespace Tally

/-- A counter that was never added to. -/
def zero : Tally := .number (.int 0)

/-- Adds a number. -/
def addNumber (tally : Tally) (amount : Number) : Tally :=
  match tally with
  | .number n => .number (n.add amount)
  | .text content => .text (content.append amount.text)

/-- Adds the primitive form of a value: where either side is a text, both are joined as texts.
Big integers do not mix with numbers. -/
def add (tally : Tally) (amount : Value) : Except Fault Tally := do
  match tally, ← amount.toPrimitive .either with
  | .text content, primitive => return .text (content.append (← primitive.innerText))
  | .number n, .text s => return .text (Text.Wide.ofText (n.text ++ s))
  | .number n, .brokenText units => return .text ((Text.Wide.ofText n.text).append ⟨units⟩)
  | .number _, .bigint _ =>
    throw (.wrongKind "Cannot mix BigInt and other types, use explicit conversions" .undefined)
  | .number n, primitive => return .number (n.add (← primitive.numberOf))

/-- A number is added to any count. -/
theorem add_number (tally : Tally) (n : Number) :
    tally.add (.number n) = .ok (tally.addNumber n) := by
  cases tally <;> rfl

end Tally

/-- Counters and timings, by the units of their series. -/
structure Metrics where
  counters : List (List UInt16 × Tally) := []
  timings : List (List UInt16 × List Value) := []
  deriving Repr

namespace Metrics

/-- Changes what is stored under a key; what is not stored yet starts from `fresh`. -/
def update {α : Type} (fresh : α) (change : α → α) (key : List UInt16) :
    List (List UInt16 × α) → List (List UInt16 × α)
  | [] => [(key, change fresh)]
  | (known, held) :: rest =>
    if known = key then (known, change held) :: rest
    else (known, held) :: update fresh change key rest

/-- Adds a number to the counter of a series. -/
def increment (metrics : Metrics) (name : String) (amount : Number) (tags : Tags) : Metrics :=
  { metrics with
    counters := update .zero (·.addNumber amount) (seriesKey name tags) metrics.counters }

/-- Records a duration in a series. -/
def timing (metrics : Metrics) (name : String) (duration : Value) (tags : Tags) : Metrics :=
  { metrics with
    timings := update [] (· ++ [duration]) (seriesKey name tags) metrics.timings }

/-- The counter of a series; one that was never added to is zero. -/
def counter (metrics : Metrics) (name : String) (tags : Tags) : Tally :=
  (metrics.counters.lookup (seriesKey name tags)).getD .zero

/-- Adds a value to the counter of a series; undefined stands for one. -/
def add (metrics : Metrics) (name : String) (amount : Value) (tags : Tags) :
    Except Fault Metrics := do
  let amount := match amount with
    | .undefined => .number (.int 1)
    | given => given
  let tally ← (metrics.counter name tags).add amount
  return { metrics with
    counters := update .zero (fun _ => tally) (seriesKey name tags) metrics.counters }

/-- The durations recorded in a series, oldest first. -/
def durations (metrics : Metrics) (name : String) (tags : Tags) : List Value :=
  (metrics.timings.lookup (seriesKey name tags)).getD []

/-- An update shows at its own key and nowhere else. -/
theorem lookup_update {α : Type} (fresh : α) (change : α → α) (key other : List UInt16)
    (stored : List (List UInt16 × α)) :
    (update fresh change key stored).lookup other =
      if other = key then some (change ((stored.lookup key).getD fresh))
      else stored.lookup other := by
  induction stored with
  | nil =>
    by_cases same : other = key
    · simp [update, same]
    · have unequal : (other == key) = false := beq_false_of_ne same
      simp [update, List.lookup_cons, same, unequal]
  | cons entry rest ih =>
    obtain ⟨known, held⟩ := entry
    by_cases here : known = key
    · subst here
      by_cases same : other = known
      · simp [update, same]
      · have unequal : (other == known) = false := beq_false_of_ne same
        simp [update, List.lookup_cons, same, unequal]
    · have away : (key == known) = false := beq_false_of_ne (Ne.symm here)
      by_cases same : other = known
      · subst same
        simp [update, here]
      · have unequal : (other == known) = false := beq_false_of_ne same
        simp [update, List.lookup_cons, here, unequal, away, ih]

end Metrics

end QueryBind
