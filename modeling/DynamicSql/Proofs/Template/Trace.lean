import DynamicSql.Proofs.Template.Render

/-!
# What happens while a template is rendered

The trace of a rendering lists the texts it writes, each with the scopes of the loops around it, and
what the argument decides: which tests hold, and what the loops go through. The decisions among these
events, without values, are what `Node.decisions` keeps.
-/

namespace DynamicSql

/-- An event of a rendering: a text of the template is written, a test is made, or a loop is entered
with its items, each behind its index. -/
inductive Event where
  | text (s : String) (scopes : List (Table String Value))
  | test (holds : Bool)
  | items (entries : List (Value × Value))

/-- What an event decides: whether a test holds, or how many items there are. -/
inductive Decision where
  | test (holds : Bool)
  | count (n : Nat)
  deriving DecidableEq

/-- The decision in an event, if there is one. -/
def Event.decision : Event → Option Decision
  | .text .. => none
  | .test holds => some (.test holds)
  | .items entries => some (.count entries.length)

/-- The trace of the iterations of a loop, given the trace of its body. -/
def Loop.trace (spec : Loop) (body : Rendering Bool) (inner : Frame → List Event) :
    List (Value × Value) → Frame → List Event
  | [], _ => []
  | (index, item) :: rest, f =>
    inner (spec.enter index item f) ++
      match body (spec.enter index item f) with
      | .ok _ g => spec.trace body inner rest (leave f g)
      | .error .. => []

namespace Node

mutual
/-- The events of rendering a template in a frame, as far as it succeeds. -/
def trace : Node → Frame → List Event
  | text s, f => [.text s f.scopes]
  | conditional cond body, f =>
    match cond.evalTruth f.lookup with
    | .ok true => .test true :: trace body f
    | .ok false => [.test false]
    | .error _ => []
  | choose whens none, f => traceFirst whens f
  | choose whens (some otherwise), f =>
    traceFirst whens f ++
      match renderFirst whens f with
      | .ok false g => trace otherwise g
      | _ => []
  | loop spec body, f =>
    match spec.collection.evalItems f.lookup with
    | .ok items => .items items :: spec.trace (render body) (trace body) items f
    | .error _ => []
  | clause _ body, f => trace body { f with text := "" }
  | bind .., _ => []
  | composite children, f => traceAll children f

/-- The events up to the end of the first part whose test holds. -/
def traceFirst : List (Formula × Node) → Frame → List Event
  | [], _ => []
  | (cond, body) :: rest, f =>
    match cond.evalTruth f.lookup with
    | .ok true => .test true :: trace body f
    | .ok false => .test false :: traceFirst rest f
    | .error _ => []

/-- The events of templates that are rendered one after the other. -/
def traceAll : List Node → Frame → List Event
  | [], _ => []
  | n :: rest, f =>
    trace n f ++
      match render n f with
      | .ok _ g => traceAll rest g
      | .error .. => []
end

/-- The decisions that rendering a template makes in a frame. -/
def decisions (n : Node) (f : Frame) : List Decision := (n.trace f).filterMap Event.decision

variable {f g : Frame} {cond : Formula} {body : Node}

theorem trace_conditional_false (h : cond.evalTruth f.lookup = .ok false) :
    (conditional cond body).trace f = [.test false] := by
  rw [trace, h]

theorem trace_conditional_true (h : cond.evalTruth f.lookup = .ok true) :
    (conditional cond body).trace f = .test true :: body.trace f := by
  rw [trace, h]

theorem traceFirst_cons_false {rest : List (Formula × Node)}
    (h : cond.evalTruth f.lookup = .ok false) :
    traceFirst ((cond, body) :: rest) f = .test false :: traceFirst rest f := by
  rw [traceFirst, h]

theorem traceFirst_cons_true {rest : List (Formula × Node)}
    (h : cond.evalTruth f.lookup = .ok true) :
    traceFirst ((cond, body) :: rest) f = .test true :: body.trace f := by
  rw [traceFirst, h]

theorem trace_choose_none {whens : List (Formula × Node)} :
    (choose whens none).trace f = traceFirst whens f := by
  rw [trace]

theorem trace_choose_true {whens : List (Formula × Node)} {otherwise : Option Node}
    (h : renderFirst whens f = .ok true g) :
    (choose whens otherwise).trace f = traceFirst whens f := by
  cases otherwise with
  | none => rw [trace]
  | some n => rw [trace, h, List.append_nil]

theorem trace_choose_false {whens : List (Formula × Node)} {n : Node}
    (h : renderFirst whens f = .ok false f) :
    (choose whens (some n)).trace f = traceFirst whens f ++ n.trace f := by
  rw [trace, h]

theorem trace_loop {spec : Loop} {items : List (Value × Value)}
    (h : spec.collection.evalItems f.lookup = .ok items) :
    (loop spec body).trace f = .items items :: spec.trace body.render body.trace items f := by
  rw [trace, h]

theorem traceAll_cons {n : Node} {rest : List Node} {b : Bool} (h : n.render f = .ok b g) :
    traceAll (n :: rest) f = n.trace f ++ traceAll rest g := by
  rw [traceAll, h]

end Node

theorem Loop.trace_cons {spec : Loop} {body : Rendering Bool} {inner : Frame → List Event}
    {index item : Value} {rest : List (Value × Value)} {f g : Frame} {b : Bool}
    (h : body (spec.enter index item f) = .ok b g) :
    spec.trace body inner ((index, item) :: rest) f =
      inner (spec.enter index item f) ++ spec.trace body inner rest (leave f g) := by
  rw [trace, h]

end DynamicSql
