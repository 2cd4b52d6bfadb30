import QueryBind.Proofs.Sql.Carried

/-! # Items between SQL texts

A composed query is rendered before it is scanned, so the data in it is scanned as well. An item
adds nothing to the placeholders of the SQL texts around it exactly if each text that it carries is
inert: every percent sign in it is one of two or stands in front of a newline
(`Sql.addsNothing_iff`). Numbers, instants, arrays of bytes and the null values carry no text, so
they never add anything.
-/

namespace QueryBind

open Text (Codec)

namespace Scan

private theorem behind_zero (key : Key) : key.behind 0 = key := by
  cases key with
  | position index => exact congrArg Key.position (Nat.zero_add index)
  | name spelled => rfl

/-- Bytes without placeholders have a scan without slots. -/
theorem exists_scan_of_no_placeholders {encoding : String} {codec : Codec}
    (selected : Encoding.codec encoding = .ok codec) (collapse : Bool) {bytes : Bytes}
    (unplaced : Token.placeholders (Token.tokenize bytes) = []) :
    ∃ scan, ofBytes encoding collapse bytes = .ok scan ∧ scan.demands = [] := by
  have text : ∀ token ∈ Token.tokenize bytes, token.isPlaceholder = false := by
    intro token member
    exact eq_false_of_ne_true (List.filter_eq_nil_iff.mp unplaced token member)
  have accepted : Token.Accepted none (Token.tokenize bytes) :=
    { wellEnded := fun token member => Token.wellEnded_of_text (text token member)
      uniform := by
        refine ⟨.named, nofun, fun token member own styled => ?_⟩
        have placeholder := Token.isPlaceholder_of_style? styled
        rw [text token member] at placeholder
        cases placeholder }
  refine ⟨_, (ofBytes_eq_ok_iff selected collapse bytes _).mpr ⟨accepted, rfl⟩, ?_⟩
  rw [demands_cut, unplaced]
  rfl

private theorem placeholders_of_demands {encoding : String} {codec : Codec}
    (selected : Encoding.codec encoding = .ok codec) {collapse : Bool} {bytes : Bytes}
    {scan : Scan} (scanned : ofBytes encoding collapse bytes = .ok scan)
    (empty : scan.demands = []) : Token.placeholders (Token.tokenize bytes) = [] := by
  obtain ⟨_, rfl⟩ := (ofBytes_eq_ok_iff selected collapse bytes scan).mp scanned
  rw [← List.length_eq_zero_iff, ← length_slots_cut codec collapse 0, ← length_demands, empty]
  rfl

/-- Inert bytes between two queries add nothing to their placeholders. -/
theorem demands_between {encoding : String} {codec : Codec}
    (selected : Encoding.codec encoding = .ok codec) {collapse : Bool}
    {first between second : Bytes} {front back : Scan}
    (scanned : ofBytes encoding collapse first = .ok front)
    (notLone : (Token.tokenize first).getLast? ≠ some .lone)
    (inert : Marks.bytes.inert between = true)
    (scannedToo : ofBytes encoding collapse second = .ok back)
    (compatible : front.Compatible back) :
    ∃ whole, ofBytes encoding collapse (first ++ (between ++ second)) = .ok whole ∧
      whole.demands = front.demands ++ back.demands.map (Prod.map (Key.behind front.count) id) := by
  obtain ⟨unplaced, notLoneToo⟩ := (Token.reads_tokenize between).inert_iff.mp inert
  obtain ⟨middle, scannedBetween, empty⟩ :=
    exists_scan_of_no_placeholders selected collapse unplaced
  have styleless : middle.style? = none := by rw [style?_eq_head?, empty]; rfl
  obtain ⟨rest, scannedRest, demands⟩ := demands_append selected scannedBetween notLoneToo
    scannedToo fun own _ styled _ => by rw [styleless] at styled; cases styled
  have uncounted : middle.count = 0 := by rw [count, ← length_demands, empty]; rfl
  have same : rest.demands = back.demands := by
    have unmoved : Prod.map (Key.behind 0) (id : Format → Format) = id := by
      funext demand
      exact Prod.ext (behind_zero demand.1) rfl
    rw [demands, empty, uncounted, unmoved, List.map_id, List.nil_append]
  have compatibleToo : front.Compatible rest := by
    rw [Compatible, style?_of_demands same]
    exact compatible
  obtain ⟨whole, scannedWhole, together⟩ :=
    demands_append selected scanned notLone scannedRest compatibleToo
  exact ⟨whole, scannedWhole, same ▸ together⟩

end Scan

namespace Sql

/-- Between any two SQL texts whose placeholders go together, the first of which ends in no lone
mark, the item adds nothing to their placeholders: a composed query has those of the first text
and behind them those of the second one. -/
def AddsNothing (encoding : String) (item : Value) : Prop :=
  ∀ (collapse : Bool) (a b : Text.Wide) (first second : Bytes) (front back : Scan),
    render (.text encoding) (.sql a) = .ok first →
    render (.text encoding) (.sql b) = .ok second →
    Scan.ofBytes encoding collapse first = .ok front →
    Scan.ofBytes encoding collapse second = .ok back →
    (Token.tokenize first).getLast? ≠ some .lone → front.Compatible back →
    ∃ composed whole,
      render (.text encoding) (.composed [.sql a, item, .sql b]) = .ok composed ∧
      Scan.ofBytes encoding collapse composed = .ok whole ∧
      whole.count = front.count + back.count ∧
      whole.demands = front.demands ++ back.demands.map (Prod.map (Key.behind front.count) id)

section Between

variable {encoding : String} {item : Value} {bytes : Bytes}

/-- An item is rendered between two texts as it is on its own. -/
theorem render_between (rendered : render (.text encoding) item = .ok bytes)
    {a b : Text.Wide} {first second : Bytes} (before : render (.text encoding) (.sql a) = .ok first)
    (behind : render (.text encoding) (.sql b) = .ok second) :
    render (.text encoding) (.composed [.sql a, item, .sql b]) =
      .ok (first ++ (bytes ++ second)) := by
  rw [render_composed (.cons before (.cons rendered (.cons behind .nil)))]
  simp

variable (selected : Encoding.codec encoding = .ok .utf8)
  (rendered : render (.text encoding) item = .ok bytes)

include selected rendered

private theorem addsNothing_of_inert (inert : Marks.bytes.inert bytes = true) :
    AddsNothing encoding item := by
  intro collapse a b first second front back before behind scanned scannedToo notLone compatible
  obtain ⟨whole, scannedWhole, demands⟩ :=
    Scan.demands_between selected scanned notLone inert scannedToo compatible
  refine ⟨_, whole, render_between rendered before behind, scannedWhole, ?_, demands⟩
  have counted := congrArg List.length demands
  rw [List.length_append, List.length_map, Scan.length_demands, Scan.length_demands,
    Scan.length_demands] at counted
  exact counted

/-- A letter behind an item that adds nothing stays a letter, so no mark is open at its end. -/
theorem inert_of_addsNothing (nothing : AddsNothing encoding item) :
    Marks.bytes.inert bytes = true := by
  -- The letter is one that would close a placeholder, had the item left one open.
  have written (text : String) :
      render (.text encoding) (.sql text) = .ok (Text.Utf8.encode text) := by
    rw [render_sql, Encoding.encodeWide_ofText]
    exact congrArg (Except.mapError Fault.query) (Encoding.encode_eq_ok selected text)
  have before : render (.text encoding) (.sql "") = .ok [] := written ""
  have behind : render (.text encoding) (.sql "s") = .ok [0x73] := written "s"
  have alone : Scan.ofBytes encoding false [] = .ok ⟨[], []⟩ := by
    simp [Scan.ofBytes, Token.tokenize, Scan.ofTokensFrom]
  have letter : Scan.ofBytes encoding false [0x73] = .ok ⟨[], [0x73]⟩ := by
    simp [Scan.ofBytes, Token.tokenize, Scan.ofTokensFrom, Token.piece, markByte, Except.map,
      Scan.prepend]
  have notLone : (Token.tokenize []).getLast? ≠ some .lone := by simp [Token.tokenize]
  have compatible : Scan.Compatible ⟨[], []⟩ ⟨[], [0x73]⟩ := by
    intro own other styled
    cases styled
  obtain ⟨composed, whole, composes, scanned, _, demands⟩ := nothing false "" "s" _ _ _ _ before
    behind alone letter notLone compatible
  rw [render_between rendered before behind] at composes
  rw [← Except.ok.inj composes, List.nil_append] at scanned
  have unplaced := Scan.placeholders_of_demands selected scanned demands
  have closed : (Token.tokenize (bytes ++ [0x73])).getLast? ≠ some .lone := by
    intro lone
    have last := Token.getLast?_of_lone lone
    rw [List.getLast?_concat] at last
    exact absurd last (by decide)
  have inert := (Token.reads_tokenize _).inert_iff.mpr ⟨unplaced, closed⟩
  have split := (Marks.spells_singleton Marks.bytes).inert_flatMap [0x73] (by decide) (by decide)
    bytes
  rw [List.flatMap_singleton', inert] at split
  exact (Bool.and_eq_true_iff.mp split.symm).1

/-- **Items between SQL texts.** A literal or an identifier adds nothing to the placeholders of the
texts around it exactly if the texts that it carries are inert. -/
theorem addsNothing_iff (data : isData item = true) :
    AddsNothing encoding item ↔
      ∀ text ∈ carried item, Marks.chars.inert text.toList = true := by
  rw [← List.all_eq_true, ← inert_rendered selected data rendered]
  exact ⟨inert_of_addsNothing selected rendered, addsNothing_of_inert selected rendered⟩

end Between

/-- A percentage in front of a letter takes the parameter of the placeholder behind it, as the
query of both asks for two. Signs in pairs and in front of newlines take none. -/
theorem addsNothing_iff_of_share :
    let share : Value := .literal (.text "50%s")
    let quoted : Bytes := [0x27, 0x35, 0x30, 0x25, 0x73, 0x27]
    let columns : Value := .identifier ["100%%", "%\n"]
    let named : Bytes := [0x22, 0x31, 0x30, 0x30, 0x25, 0x25, 0x22, 0x2E, 0x22, 0x25, 0x0A, 0x22]
    Encoding.codec "utf8" = .ok .utf8 ∧
      render (.text "utf8") share = .ok quoted ∧ isData share = true ∧
      ¬AddsNothing "utf8" share ∧
      (Scan.ofBytes "utf8" false [0x25, 0x73]).map (·.count) = .ok 1 ∧
      render (.text "utf8") (.composed [.sql "", share, .sql "%s"]) =
        .ok (quoted ++ [0x25, 0x73]) ∧
      (Scan.ofBytes "utf8" false (quoted ++ [0x25, 0x73])).map (·.demands) =
        .ok [(.position 0, .auto), (.position 1, .auto)] ∧
      render (.text "utf8") columns = .ok named ∧ isData columns = true ∧
      AddsNothing "utf8" columns := by
  intro share quoted columns named
  have selected : Encoding.codec "utf8" = .ok .utf8 := Encoding.codec_name .utf8
  have one : render (.text "utf8") share = .ok quoted := by cbv
  have two : render (.text "utf8") columns = .ok named := by cbv
  refine ⟨selected, one, rfl, ?_, by cbv, by cbv, by cbv, two, rfl, ?_⟩
  · rw [addsNothing_iff selected one rfl]
    decide
  · rw [addsNothing_iff selected two rfl]
    decide

end Sql

end QueryBind
