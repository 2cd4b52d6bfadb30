import QueryBind.Transform.Labels
import QueryBind.Transform.Text

/-! # Dumpers

A transformer in use, with the description of the sequence that it dumped last. A dump that
fails leaves the description as it was.
-/

namespace QueryBind

/-- A transformer with its last description. -/
structure Dumper where
  transformer : Transformer
  described : Option Description := none

namespace Dumper

/-- Dumps values and remembers the description. -/
def dump (dumper : Dumper) (values : List Value) (formats : List Format) :
    Except Fault Dump × Dumper :=
  match dumper.transformer.dump values formats with
  | .ok dumped => (.ok dumped, { dumper with described := dumped.description })
  | .error fault => (.error fault, dumper)

end Dumper

end QueryBind
