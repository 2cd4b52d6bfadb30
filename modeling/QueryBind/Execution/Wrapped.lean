import QueryBind.Value.Display

/-! # Wrapped faults

Whatever goes wrong in an execution is reported as an error of this library. An error of
the library stays what it is. Any other error becomes an execution error that keeps it as its
origin, and a text among its data that is called its code becomes the state code. A thrown
value becomes an execution error with the value's display text, if it has one.
-/

namespace QueryBind.Fault

/-- The code of a fault as a state code: only a text is one. -/
def stateOf : Value → Value
  | .text code => .text code
  | .brokenText units => .brokenText units
  | _ => .undefined

/-- The report of an execution that failed for another error. -/
def caused (className message : String) (code : Value) : Report :=
  (QueryError.execution message (stateOf code) (some ⟨className, message⟩)).report

/-- What a fault is reported as. -/
def wrapped : Fault → Except Fault Report
  | .query error => .ok error.report
  | .reported report => .ok report
  | .plain message code => .ok (caused "Error" message code)
  | .range message => .ok (caused "RangeError" message .undefined)
  | .wrongKind message code => .ok (caused "TypeError" message code)
  | .thrown value =>
    value.display.map fun text => (QueryError.execution text.mended .undefined none).report

/-- Whether a fault is an error of this library already. -/
def isQueryError (fault : Fault) : Bool :=
  fault.report?.isSome

end QueryBind.Fault
