import QueryBind.Proofs.Placeholder.Inert
import QueryBind.Proofs.Placeholder.Nameless

/-! # Two marks kept and two marks made one

A query is scanned in two ways: two marks are kept, or they are made one. Both scans read the same
tokens, so they fail alike or have the same placeholders, and a fragment of the second one is the
fragment of the first one unescaped (`Scan.ofBytes_modes`). A fragment can be unescaped without the
query that it came from, since a mark in it that is none of two has something behind it that no
second mark can be taken for: a newline, or the end of the query.
-/

namespace QueryBind

/-- Bytes with one mark for every two, from left to right. -/
def unescape : Bytes → Bytes
  | [] => []
  | [b] => [b]
  | a :: b :: rest =>
    if a = markByte ∧ b = markByte then markByte :: unescape rest else a :: unescape (b :: rest)

private theorem unescape_doubled (rest : Bytes) :
    unescape (markByte :: markByte :: rest) = markByte :: unescape rest := by
  rw [unescape, if_pos ⟨rfl, rfl⟩]

private theorem unescape_cons_of_ne {b : UInt8} (notMark : b ≠ markByte) (rest : Bytes) :
    unescape (b :: rest) = b :: unescape rest := by
  cases rest with
  | nil => rfl
  | cons next rest => rw [unescape, if_neg fun both => notMark both.1]

private theorem unescape_beforeNewline (rest : Bytes) :
    unescape (markByte :: newlineByte :: rest) = markByte :: newlineByte :: unescape rest := by
  have notMark : newlineByte ≠ markByte := by decide
  rw [unescape, if_neg fun both => notMark both.2, unescape_cons_of_ne notMark]

/-- Bytes that are unescaped to others wherever they stand, and that have no other marks than text
may have. -/
structure Unescapes (front back : Bytes) : Prop where
  unescaped : ∀ rest, unescape (front ++ rest) = back ++ unescape rest
  inert : ∀ rest, Marks.bytes.inert (front ++ rest) = Marks.bytes.inert rest

namespace Unescapes

private theorem plain {b : UInt8} (notMark : b ≠ markByte) : Unescapes [b] [b] where
  unescaped := unescape_cons_of_ne notMark
  inert := Marks.inert_cons_of_ne notMark

private theorem doubled : Unescapes [markByte, markByte] [markByte] where
  unescaped := unescape_doubled
  inert := Marks.inert_mark_mark

private theorem beforeNewline : Unescapes [markByte, newlineByte] [markByte, newlineByte] where
  unescaped := unescape_beforeNewline
  inert := Marks.inert_mark_newline

end Unescapes

/-- A placeholder is never taken for text. -/
theorem Token.piece_ne_text {token : Token} (placeholder : token.isPlaceholder = true)
    {encoding : String} {collapse : Bool} {count : Nat} {rest : List Token} (bytes : Bytes) :
    token.piece encoding collapse count rest ≠ .ok (.text bytes) := by
  intro came
  cases token with
  | plain | doubled | lone => cases placeholder
  | named name last =>
      obtain ⟨_, _, _, slot⟩ := piece_named_eq_ok came
      cases slot
  | short last =>
      obtain ⟨_, _, slot⟩ := piece_short_eq_ok_iff.mp came
      cases slot

namespace Scan

/-- A scan of a query that keeps two marks beside one that makes them one: the placeholders are the
same, the fragments are unescaped, and each mark in a fragment is one of two or stands in front of a
newline, but for a mark that the query ends in. -/
structure Lockstep (query : Bytes) (kept collapsed : Scan) : Prop where
  demands : collapsed.demands = kept.demands
  fragments : collapsed.fragments = kept.fragments.map unescape
  before : ∀ slot ∈ kept.slots, Marks.bytes.inert slot.before = true
  tail : Marks.bytes.inert kept.tail = true ∨ ∃ front, kept.tail = front ++ [markByte] ∧
    Marks.bytes.inert front = true ∧ query.getLast? = some markByte

namespace Lockstep

variable {query : Bytes} {kept collapsed : Scan}

private theorem nil : Lockstep [] ⟨[], []⟩ ⟨[], []⟩ where
  demands := rfl
  fragments := rfl
  before := nofun
  tail := .inl rfl

private theorem lastMark : Lockstep [markByte] ⟨[], [markByte]⟩ ⟨[], [markByte]⟩ where
  demands := rfl
  fragments := rfl
  before := nofun
  tail := .inr ⟨[], rfl, rfl, rfl⟩

/-- A query that ends in a mark ends in it whatever stands in front. -/
theorem getLast?_append_mark (last : query.getLast? = some markByte) (front : Bytes) :
    (front ++ query).getLast? = some markByte := by
  rw [List.getLast?_append, last, Option.some_or]

private theorem prepend (lockstep : Lockstep query kept collapsed) {front back : Bytes}
    (unescapes : Unescapes front back) :
    Lockstep (front ++ query) (kept.prepend front) (collapsed.prepend back) where
  demands := by rw [demands_prepend, demands_prepend, lockstep.demands]
  fragments := by
    rw [fragments_prepend, fragments_prepend, lockstep.fragments]
    cases kept.fragments with
    | nil => rfl
    | cons fragment others => exact congrArg (· :: _) (unescapes.unescaped fragment).symm
  before := by
    obtain ⟨slots, tail⟩ := kept
    cases slots with
    | nil => exact lockstep.before
    | cons slot others =>
        obtain ⟨first, later⟩ := List.forall_mem_cons.mp lockstep.before
        exact List.forall_mem_cons.mpr ⟨(unescapes.inert slot.before).trans first, later⟩
  tail := by
    obtain ⟨slots, tail⟩ := kept
    cases slots with
    | nil =>
        rcases lockstep.tail with inert | ⟨text, split, inert, last⟩
        · exact .inl ((unescapes.inert tail).trans inert)
        · refine .inr ⟨front ++ text, ?_, (unescapes.inert text).trans inert,
            getLast?_append_mark last front⟩
          rw [List.append_assoc, ← split]
          rfl
    | cons slot others =>
        rcases lockstep.tail with inert | ⟨text, split, inert, last⟩
        · exact .inl inert
        · exact .inr ⟨text, split, inert, getLast?_append_mark last front⟩

private theorem push (lockstep : Lockstep query kept collapsed) (key : Key) (format : Format)
    (placeholder : Bytes) :
    Lockstep (placeholder ++ query) (kept.push key format) (collapsed.push key format) where
  demands := by rw [demands_push, demands_push, lockstep.demands]
  fragments := by rw [fragments_push, fragments_push, lockstep.fragments]; rfl
  before := List.forall_mem_cons.mpr ⟨rfl, lockstep.before⟩
  tail := lockstep.tail.imp_right fun ⟨text, split, inert, last⟩ =>
    ⟨text, split, inert, getLast?_append_mark last placeholder⟩

end Lockstep

/-- What the two ways of scanning a query come to. -/
inductive Twins (query : Bytes) : Except QueryError Scan → Except QueryError Scan → Prop
  | refused (error : QueryError) : Twins query (.error error) (.error error)
  | scanned {kept collapsed : Scan} (lockstep : Lockstep query kept collapsed) :
      Twins query (.ok kept) (.ok collapsed)

private theorem Twins.map {query more : Bytes} {first second : Except QueryError Scan}
    (twins : Twins query first second) {change other : Scan → Scan}
    (step : ∀ {kept collapsed}, Lockstep query kept collapsed →
      Lockstep more (change kept) (other collapsed)) :
    Twins more (first.map change) (second.map other) := by
  cases twins with
  | refused error => exact .refused error
  | scanned lockstep => exact .scanned (step lockstep)

variable {encoding : String} {style : Option Style} {count : Nat}

/-- A placeholder does not look at what becomes of two marks. -/
theorem twins_of_placeholder {token : Token} (placeholder : token.isPlaceholder = true)
    {query : Bytes} {rest : List Token}
    (later : ∀ own, Twins query (ofTokensFrom encoding false (some own) (count + 1) rest)
      (ofTokensFrom encoding true (some own) (count + 1) rest)) :
    Twins (token.bytes ++ query) (ofTokensFrom encoding false style count (token :: rest))
      (ofTokensFrom encoding true style count (token :: rest)) := by
  have same : token.piece encoding true count rest = token.piece encoding false count rest := by
    cases token with
    | plain | doubled | lone => cases placeholder
    | named | short => rfl
  simp only [ofTokensFrom, same]
  cases came : token.piece encoding false count rest with
  | error error => exact .refused error
  | ok piece =>
      cases piece with
      | text bytes => exact absurd came (Token.piece_ne_text placeholder bytes)
      | slot key format =>
          by_cases agrees : style.all (· = key.style) = true
          · simp only [agrees, if_true]
            exact (later key.style).map fun lockstep => lockstep.push key format token.bytes
          · simp only [agrees]
            exact .refused .mixedPlaceholders

private theorem map_prepend_append (front back : Bytes) (outcome : Except QueryError Scan) :
    (outcome.map (prepend back)).map (prepend front) = outcome.map (prepend (front ++ back)) := by
  cases outcome with
  | error error => rfl
  | ok scan => exact congrArg Except.ok (prepend_append front back scan).symm

/-- **Two ways in lockstep.** Whatever stands in front of the tokens of a query, both ways of
scanning them come to the same but for the marks that are made one. -/
theorem twins_ofTokensFrom (style : Option Style) (count : Nat) {query : Bytes}
    {tokens : List Token} (reads : Token.Reads query tokens) :
    Twins query (ofTokensFrom encoding false style count tokens)
      (ofTokensFrom encoding true style count tokens) := by
  -- The induction is on the length, since a newline is taken together with the mark in front of it.
  induction size : query.length using Nat.strong_induction_on
    generalizing query tokens style count with
  | _ _ ih =>
      subst size
      cases reads with
      | done => exact .scanned .nil
      | plain notMark more =>
          have later := ih _ (by simp) style count more rfl
          exact later.map fun lockstep => lockstep.prepend (.plain notMark)
      | doubled more =>
          have later := ih _ (by simp) style count more rfl
          exact later.map fun lockstep => lockstep.prepend .doubled
      | atEnd => exact .scanned .lastMark
      | beforeNewline more =>
          cases more with
          | @plain _ rest tokens _ more =>
              have later := ih _ (by simp) style count more rfl
              have both := later.map fun lockstep => lockstep.prepend .beforeNewline
              change Twins _ (((ofTokensFrom encoding false style count tokens).map _).map _)
                (((ofTokensFrom encoding true style count tokens).map _).map _)
              rw [map_prepend_append, map_prepend_append]
              exact both
      | @named bytes name rest last tokens complete more =>
          have spelled : markByte :: openByte :: bytes = (Token.named name last).bytes ++ rest := by
            rw [complete.spelled]
            simp [Token.bytes]
          rw [spelled] at ih ⊢
          refine twins_of_placeholder rfl fun own => ih _ ?_ (some own) (count + 1) more rfl
          simp only [List.length_append, Token.bytes, List.length_cons]
          omega
      | @short last rest tokens _ _ _ more =>
          exact twins_of_placeholder (show (Token.short last).isPlaceholder = true from rfl)
            fun own => ih _ (by simp) (some own) (count + 1) more rfl

/-- **The ways of scanning differ by unescaping only.** A query is refused with one error, whether
two marks are kept or made one, or it has a scan either way. The scans then have the same keys and
formats, and each fragment is the one with two marks kept, with one mark for every two of it. Of the
marks in that fragment each is one of two, stands in front of a newline, or is the last byte of the
query. -/
theorem ofBytes_modes (encoding : String) (query : Bytes) :
    (∃ error, ofBytes encoding true query = .error error ∧
        ofBytes encoding false query = .error error) ∨
      ∃ collapsed kept, ofBytes encoding true query = .ok collapsed ∧
        ofBytes encoding false query = .ok kept ∧
        collapsed.demands = kept.demands ∧
        collapsed.fragments = kept.fragments.map unescape ∧
        (∀ slot ∈ kept.slots, Marks.bytes.inert slot.before = true) ∧
        (Marks.bytes.inert kept.tail = true ∨ ∃ front, kept.tail = front ++ [markByte] ∧
          Marks.bytes.inert front = true ∧ query.getLast? = some markByte) := by
  have twins : Twins query (ofBytes encoding false query) (ofBytes encoding true query) :=
    twins_ofTokensFrom none 0 (Token.reads_tokenize query)
  generalize ofBytes encoding false query = first at twins ⊢
  generalize ofBytes encoding true query = second at twins ⊢
  cases twins with
  | refused error => exact .inl ⟨error, rfl, rfl⟩
  | scanned lockstep =>
      exact .inr ⟨_, _, rfl, rfl, lockstep.demands, lockstep.fragments, lockstep.before,
        lockstep.tail⟩

end Scan

end QueryBind
