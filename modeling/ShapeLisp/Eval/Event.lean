import ShapeLisp.Scope.Store

/-!
# What an evaluation does besides returning a value

An evaluation leaves a trail of events: messages that the program logs, lines that it prints, time
that it lets pass, and notes on how calls were resolved. They are kept in order.
-/

namespace ShapeLisp

/-- Something that happened during an evaluation. -/
inductive Event where
  /-- The program logged a message. -/
  | logged (message : String)
  /-- A line was printed. -/
  | printed (line : String)
  /-- So many milliseconds passed. -/
  | passed (millis : Nat)
  /-- The program asked to wait. -/
  | waiting (millis : Float)
  /-- A builtin was called. -/
  | builtinCalled (id : String) (count : Nat)
  /-- A call chose among the bindings of a name. -/
  | dispatched (name : String) (how : Dispatch)
  /-- The parameters of a closure did not match and were bound one by one. -/
  | boundByPosition (params args : Nat)
  /-- A call passed its argument expressions as written. -/
  | calledUnevaluated (name : String)
  /-- The binding of a called name is another name. -/
  | aliasFollowed (name target : String)
  /-- A JSON document of another kind was not merged. -/
  | mergeSkipped (other : Json)

namespace Event

/-- The line that a trace shows for an event, none for what is not traced. -/
def trace? : Event → Option String
  | .logged _ | .printed _ | .passed _ => none
  | .waiting millis => some s!"DEBUG: waiting millis={Cause.numberText millis}"
  | .builtinCalled id count => some s!"TRACE: calling builtin argc={count} builtin={id}"
  | .dispatched name (.matched index candidates) =>
    some s!"TRACE: dispatch matched candidates={candidates} index={index} name={name}"
  | .dispatched name (.fellBack candidates) =>
    some s!"TRACE: dispatch fell back to latest candidates={candidates} name={name}"
  | .dispatched _ .latest => none
  | .boundByPosition params args =>
    some s!"TRACE: binding arguments by position args={args} params={params}"
  | .calledUnevaluated name => some s!"TRACE: calling with unevaluated arguments name={name}"
  | .aliasFollowed name target => some s!"TRACE: following alias alias={target} name={name}"
  | .mergeSkipped other =>
    some s!"DEBUG: skipped merge of mismatched JSON other={String.ofList other.text}"

/-- The message of a log entry. -/
def message? : Event → Option String
  | .logged message => some message
  | _ => none

/-- The time that an event stands for. -/
def millis : Event → Nat
  | .passed millis => millis
  | _ => 0

/-- The line that was printed. -/
def line? : Event → Option String
  | .printed line => some line
  | _ => none

end Event

end ShapeLisp
