import QueryBind.Proofs.Placeholder.Keys

/-! # Queries put together

What becomes of the placeholders of two queries when one is put behind the other. If the first one
ends in no lone mark, nothing of the second one can be read as part of it, so the tokens of the
whole are the tokens of both (`Token.tokenize_append`). If the styles go together as well, the
whole has the placeholders of the first query and behind them those of the second one
(`Scan.demands_append`), which count on where they are positional.
-/

namespace QueryBind

open Text (Codec)

/-- A key behind `count` more placeholders. -/
def Key.behind (count : Nat) : Key → Key
  | .position index => .position (count + index)
  | .name spelled => .name spelled

namespace Token

/-- What follows these tokens cannot be read as part of the last one: it is no lone mark, and no
parenthesis waits to be closed. -/
structure Closed (tokens : List Token) : Prop where
  notLone : tokens.getLast? ≠ some .lone
  noParenthesis : .short openByte ∉ tokens

private theorem Closed.tail {token : Token} {tokens : List Token}
    (closed : Closed (token :: tokens)) : Closed tokens where
  notLone := by
    intro last
    apply closed.notLone
    rw [List.getLast?_cons, last, Option.getD_some]
  noParenthesis := List.not_mem_of_not_mem_cons closed.noParenthesis

private theorem Completes.append {bytes name rest : Bytes} {last : UInt8}
    (complete : Completes bytes name last rest) (more : Bytes) :
    Completes (bytes ++ more) name last (rest ++ more) where
  spelled := by rw [complete.spelled, List.append_assoc]; rfl
  notEmpty := complete.notEmpty
  first := complete.first
  lastByte := complete.lastByte

private theorem Reads.append {first second : Bytes} {tokens others : List Token}
    (reads : Reads first tokens) (closed : Closed tokens) (more : Reads second others) :
    Reads (first ++ second) (tokens ++ others) := by
  induction reads with
  | done => exact more
  | plain notMark _ ih => exact .plain notMark (ih closed.tail)
  | doubled _ ih => exact .doubled (ih closed.tail)
  | atEnd => exact absurd rfl closed.notLone
  | beforeNewline _ ih => exact .beforeNewline (ih closed.tail)
  | named complete _ ih => exact .named (complete.append second) (ih closed.tail)
  | @short last rest tokens notMark notNewline _ _ ih =>
      have other : last ≠ openByte := by
        rintro rfl
        exact closed.noParenthesis List.mem_cons_self
      exact .short notMark notNewline (fun opens => absurd opens other) (ih closed.tail)

/-- The tokens of two queries put together. -/
theorem tokenize_append {first : Bytes} (closed : Closed (tokenize first)) (second : Bytes) :
    tokenize (first ++ second) = tokenize first ++ tokenize second :=
  ((reads_tokenize first).append closed (reads_tokenize second)).eq_tokenize.symm

/-- An accepted query is closed unless its last token is a lone mark. -/
theorem Accepted.closed {style : Option Style} {tokens : List Token}
    (accepted : Accepted style tokens) (notLone : tokens.getLast? ≠ some .lone) :
    Closed tokens where
  notLone := notLone
  noParenthesis := by
    intro member
    have flawed : ¬ WellEnded (.short openByte) := by decide
    exact flawed (accepted.wellEnded _ member)

private theorem placeholders_append (first second : List Token) :
    placeholders (first ++ second) = placeholders first ++ placeholders second :=
  List.filter_append ..

private theorem key_behind (codec : Codec) (count position : Nat) (token : Token) :
    token.key codec (count + position) = (token.key codec position).behind count := by
  cases token <;> rfl

end Token

namespace Scan

/-- Two scans do not use placeholders of different styles. -/
def Compatible (first second : Scan) : Prop :=
  ∀ own other, first.style? = some own → second.style? = some other → own = other

private theorem style?_cut (codec : Codec) (collapse : Bool) (count : Nat) (tokens : List Token) :
    (cut codec collapse count tokens).style? =
      (Token.placeholders tokens).head?.bind Token.style? := by
  rw [style?_eq_head?, demands_cut]
  cases front : Token.placeholders tokens with
  | nil => rfl
  | cons token rest =>
      have placeholder : token.isPlaceholder = true :=
        (List.mem_filter.mp (front ▸ List.mem_cons_self)).2
      obtain ⟨own, styled⟩ := Option.isSome_iff_exists.mp placeholder
      rw [List.zipIdx_cons, List.map_cons, List.head?_cons, List.head?_cons, Option.map_some,
        Option.bind_some, styled, Token.style_key codec count styled]

/-- The style of an accepted query is the style of each of its placeholder tokens. -/
theorem style?_of_accepted (codec : Codec) (collapse : Bool) {tokens : List Token}
    (accepted : Token.Accepted none tokens) {token : Token} (member : token ∈ tokens)
    {own : Style} (placeholder : token.style? = some own) :
    (cut codec collapse 0 tokens).style? = some own := by
  obtain ⟨common, _, uniform⟩ := accepted.uniform
  have among : token ∈ Token.placeholders tokens :=
    List.mem_filter.mpr ⟨member, Token.isPlaceholder_of_style? placeholder⟩
  rw [style?_cut]
  cases front : Token.placeholders tokens with
  | nil =>
      rw [front] at among
      cases among
  | cons head rest =>
      have first : head ∈ Token.placeholders tokens := front ▸ List.mem_cons_self
      obtain ⟨inside, isPlaceholder⟩ := List.mem_filter.mp first
      obtain ⟨style, styled⟩ := Option.isSome_iff_exists.mp isPlaceholder
      rw [List.head?_cons, Option.bind_some, styled, uniform head inside style styled,
        uniform token member own placeholder]

/-- Accepted tokens of one style are accepted one behind the other. -/
theorem accepted_append (codec : Codec) (collapse : Bool) {first second : List Token}
    (front : Token.Accepted none first) (back : Token.Accepted none second)
    (compatible : (cut codec collapse 0 first).Compatible (cut codec collapse 0 second)) :
    Token.Accepted none (first ++ second) where
  wellEnded := List.forall_mem_append.mpr ⟨front.wellEnded, back.wellEnded⟩
  uniform := by
    obtain ⟨common, _, uniform⟩ := front.uniform
    obtain ⟨commonToo, _, uniformToo⟩ := back.uniform
    by_cases styled : ∃ own, (cut codec collapse 0 first).style? = some own
    · obtain ⟨own, styled⟩ := styled
      refine ⟨own, nofun, List.forall_mem_append.mpr ⟨?_, ?_⟩⟩
      · intro token member other placeholder
        have same := style?_of_accepted codec collapse front member placeholder
        exact Option.some.inj (same.symm.trans styled)
      · intro token member other placeholder
        have same := style?_of_accepted codec collapse back member placeholder
        exact (compatible own other styled same).symm
    · refine ⟨commonToo, nofun, List.forall_mem_append.mpr ⟨?_, uniformToo⟩⟩
      intro token member other placeholder
      exact absurd ⟨other, style?_of_accepted codec collapse front member placeholder⟩ styled

/-- The placeholders of tokens put together: those of the second list count on. -/
theorem demands_cut_append (codec : Codec) (collapse : Bool) (first second : List Token) :
    (cut codec collapse 0 (first ++ second)).demands =
      (cut codec collapse 0 first).demands ++
        (cut codec collapse 0 second).demands.map
          (Prod.map (Key.behind (cut codec collapse 0 first).count) id) := by
  have counted : (Token.placeholders second).zipIdx (Token.placeholders first).length =
      (Token.placeholders second).zipIdx.map fun placed =>
        (placed.1, (Token.placeholders first).length + placed.2) :=
    List.zipIdx_eq_map_add
  rw [count, length_slots_cut, demands_cut, demands_cut, demands_cut, Token.placeholders_append,
    List.zipIdx_append, List.map_append, Nat.zero_add, counted, List.map_map, List.map_map]
  refine congrArg _ (List.map_congr_left fun placed _ => ?_)
  exact congrArg (·, placed.1.format) (Token.key_behind codec _ placed.2 placed.1)

/-- **Queries put together.** If the first query ends in no lone mark and the styles go together,
the whole has the placeholders of the first query and behind them those of the second one. -/
theorem demands_append {encoding : String} {codec : Codec}
    (selected : Encoding.codec encoding = .ok codec) {collapse : Bool} {first second : Bytes}
    {front back : Scan} (scanned : ofBytes encoding collapse first = .ok front)
    (notLone : (Token.tokenize first).getLast? ≠ some .lone)
    (scannedToo : ofBytes encoding collapse second = .ok back)
    (compatible : front.Compatible back) :
    ∃ whole, ofBytes encoding collapse (first ++ second) = .ok whole ∧
      whole.demands = front.demands ++ back.demands.map (Prod.map (Key.behind front.count) id) := by
  obtain ⟨accepted, rfl⟩ := (ofBytes_eq_ok_iff selected collapse first front).mp scanned
  obtain ⟨acceptedToo, rfl⟩ := (ofBytes_eq_ok_iff selected collapse second back).mp scannedToo
  have tokens := Token.tokenize_append (accepted.closed notLone) second
  refine ⟨cut codec collapse 0 (Token.tokenize (first ++ second)),
    (ofBytes_eq_ok_iff selected collapse _ _).mpr ⟨?_, rfl⟩, ?_⟩
  · rw [tokens]
    exact accepted_append codec collapse accepted acceptedToo compatible
  · rw [tokens]
    exact demands_cut_append codec collapse _ _

end Scan

end QueryBind
