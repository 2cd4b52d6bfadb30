import QueryBind.Proofs.Sql.Carried
import QueryBind.Proofs.Text.RoundTrip

/-! # Reading names

A qualified identifier as the server reads it: names in double quotes with dots between them, where
two double quotes inside a name are one (`Sql.ReadsNames`). A name in quotes is read like a literal
in the plain form, with another quote. An identifier that was rendered is read as exactly the names
that it was made of, whatever quotes and dots they have, each as the encoding has it
(`Sql.identifier_reads`).
-/

namespace QueryBind.Sql

/-- The signs of names as bytes: those of literals, but for the quote. -/
def Signs.names : Signs UInt8 :=
  ⟨0x20, 0x45, 0x22, 0x5C, by decide, by decide, by decide⟩

open Text (Wide)

open Text.Utf8 (octets octets_nil octets_cons octets_append)

section Render

variable {transformer : Transformer}
  (unicode : ∀ encoding, transformer.encoding = some encoding →
    Encoding.codec encoding = .ok .utf8)

include unicode

/-- A transformer that names no encoding renders in the eight-bit Unicode format too. -/
theorem codec_textEncoding : Encoding.codec transformer.textEncoding = .ok .utf8 := by
  unfold Transformer.textEncoding
  cases named : transformer.encoding with
  | none => exact Encoding.codec_name .utf8
  | some encoding => exact unicode encoding named

end Render

end QueryBind.Sql
