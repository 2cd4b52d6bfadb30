import QueryBind.Placeholder.Scan

/-! # Queries for binding on the server

The server knows parameters by markers: a dollar sign and a number counted from one. Every
key has one marker, the one of its first placeholder; a positional placeholder has a key of
its own, so it has a marker of its own. Two placeholders with one key must ask for one format.
-/

namespace QueryBind

/-- The bytes of the marker with this number. -/
def markerBytes (number : Nat) : Bytes :=
  0x24 :: (Nat.toDigits 10 number).map fun digit => UInt8.ofNat digit.toNat

/-- Markers for placeholders. -/
structure Assignment where
  /-- The number of every placeholder's marker. -/
  markers : List Nat
  /-- The key and the format of every marker, in the order of the numbers. -/
  entries : List (Key × Format)
  deriving DecidableEq, Repr

namespace Assignment

/-- The number and the format of a key's marker, the first entry having the given number. -/
def find? (key : Key) : Nat → List (Key × Format) → Option (Nat × Format)
  | _, [] => none
  | number, (known, format) :: rest =>
    if known = key then some (number, format) else find? key (number + 1) rest

/-- Markers for placeholders behind those whose keys are known. -/
def extend (known : List (Key × Format)) : List Slot → Except QueryError Assignment
  | [] => .ok ⟨[], known⟩
  | slot :: rest =>
    match find? slot.key 1 known with
    | none =>
      (extend (known ++ [(slot.key, slot.format)]) rest).map fun assigned =>
        { assigned with markers := (known.length + 1) :: assigned.markers }
    | some (number, format) =>
      if format = slot.format then
        (extend known rest).map fun assigned =>
          { assigned with markers := number :: assigned.markers }
      else .error (.conflictingFormat slot.key.text)

/-- Markers for all placeholders of a query. -/
def ofSlots (slots : List Slot) : Except QueryError Assignment :=
  extend [] slots

/-- Every placeholder has a marker. -/
theorem length_markers {known : List (Key × Format)} {slots : List Slot} {assigned : Assignment}
    (success : extend known slots = .ok assigned) : assigned.markers.length = slots.length := by
  induction slots generalizing known assigned with
  | nil =>
    cases success
    rfl
  | cons slot rest ih =>
    unfold extend at success
    split at success
    · cases tail : extend (known ++ [(slot.key, slot.format)]) rest with
      | error error => simp [tail, Except.map] at success
      | ok inner =>
        simp only [tail, Except.map, Except.ok.injEq] at success
        subst success
        simp [ih tail]
    · split at success
      · cases tail : extend known rest with
        | error error => simp [tail, Except.map] at success
        | ok inner =>
          simp only [tail, Except.map, Except.ok.injEq] at success
          subst success
          simp [ih tail]
      · simp at success

end Assignment

/-- A query for binding on the server. -/
structure ServerQuery where
  query : Bytes
  /-- One format for every marker. -/
  formats : List Format
  /-- The name of every marker, for a query with named placeholders. -/
  order : Option (List String)
  scan : Scan
  deriving DecidableEq, Repr

namespace ServerQuery

/-- The query whose placeholders have the given markers. -/
def ofAssignment (scan : Scan) (assigned : Assignment) : ServerQuery where
  query := scan.weave (assigned.markers.map markerBytes)
  formats := assigned.entries.map (·.2)
  order := if scan.isNamed then some (assigned.entries.map (·.1.text)) else none
  scan := scan

/-- The query for the server, two marks becoming one. -/
def ofBytes (encoding : String) (query : Bytes) : Except QueryError ServerQuery := do
  let scan ← Scan.ofBytes encoding true query
  let assigned ← Assignment.ofSlots scan.slots
  return ofAssignment scan assigned

end ServerQuery

end QueryBind
