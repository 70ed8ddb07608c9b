import LogSearch.Kql.Parser

/-!
# Reading without places

The machine that reads queries puts down where groups were opened, and its faults say where they are,
but it never looks at a place, nor at the letters that a keyword is written in.  So it does the same on
tokens that have neither: each step on the `outline` of a state and a token leads to the outline of what
the step leads to (`State.step_outline`), and so does a whole run (`run_outline`).

## What is here

* `Token.outline`, `State.outline`, `ParseFault.outline` — tokens, states and faults without places;
* `State.step_outline`, `run_outline` — a step and a run without places.
-/

set_option autoImplicit false
namespace LogSearch.Kql

/-- A token without its place, and without the letters of a keyword. -/
def Token.outline (t : Token) : Token :=
  match t.kind with
  | .and | .or | .not => ⟨t.kind, "", 0⟩
  | _ => ⟨t.kind, t.value, 0⟩

/-- A group without the place where it was opened. -/
def Frame.outline : Frame → Frame
  | .group _ outer => .group 0 outer
  | .nested name _ outer => .nested name 0 outer

/-- A scope without the places where its groups were opened. -/
def Scope.outline (s : Scope) : Scope := { s with frames := s.frames.map Frame.outline }

/-- A scope of values without the places where its groups were opened. -/
def ValueScope.outline (v : ValueScope) : ValueScope :=
  { v with opened := 0, outer := v.outer.map fun group ↦ (0, group.2), scope := v.scope.outline }

/-- A state without the places where its groups were opened. -/
def State.outline : State → State
  | .operand s => .operand s.outline
  | .field name s => .field name s.outline
  | .colon name s => .colon name s.outline
  | .comparison name op s => .comparison name op s.outline
  | .operator s => .operator s.outline
  | .value v => .value v.outline
  | .valueOperator v => .valueOperator v.outline

/-- A fault without its place. -/
def ParseFault.outline : ParseFault → ParseFault
  | .unexpected t expected => .unexpected t.outline expected
  | .missingParenthesis _ => .missingParenthesis 0
  | .missingBrace _ => .missingBrace 0
  | fault => fault

/-- What a step leads to, without places. -/
def outlineStep (result : Except ParseFault State) : Except ParseFault State :=
  (result.map State.outline).mapError ParseFault.outline

section outline

variable {limit : Nat}

theorem outlineStep_enter (limit depth : Nat) (inside : State) :
    outlineStep (enter limit depth inside) = enter limit depth inside.outline := by
  rw [enter, enter]
  split <;> rfl

theorem Scope.operatorStep_outline (s : Scope) (t : Token) :
    s.outline.operatorStep t.outline = outlineStep (s.operatorStep t) := by
  obtain ⟨kind, value, offset⟩ := t
  obtain ⟨chain, frames⟩ := s
  cases kind <;> rcases frames with _ | ⟨_ | _, frames⟩ <;> rfl

theorem Scope.operandStep_outline (limit : Nat) (s : Scope) (t : Token) :
    s.outline.operandStep limit t.outline = outlineStep (s.operandStep limit t) := by
  obtain ⟨kind, value, offset⟩ := t
  obtain ⟨⟨alternatives, conjuncts, negated⟩, frames⟩ := s
  cases kind
  case not => cases negated <;> rfl
  case leftParen =>
    refine Eq.trans ?_ (outlineStep_enter ..).symm
    simp [operandStep, Token.outline, outline, State.outline, Frame.outline]
  all_goals rfl

theorem Scope.valuesStep_outline (limit : Nat) (name : String) (s : Scope) (t : Token) :
    s.outline.valuesStep limit name t.outline = outlineStep (s.valuesStep limit name t) := by
  obtain ⟨kind, value, offset⟩ := t
  cases kind
  case leftParen =>
    refine Eq.trans ?_ (outlineStep_enter ..).symm
    simp [valuesStep, Token.outline, outline, State.outline, ValueScope.outline]
  case leftBrace =>
    refine Eq.trans ?_ (outlineStep_enter ..).symm
    simp [valuesStep, Token.outline, outline, State.outline, Frame.outline]
  all_goals rfl

theorem ValueScope.valueStep_outline (limit : Nat) (v : ValueScope) (t : Token) :
    v.outline.valueStep limit t.outline = outlineStep (v.valueStep limit t) := by
  obtain ⟨kind, value, offset⟩ := t
  obtain ⟨name, ⟨alternatives, conjuncts, negated⟩, opened, outer, scope⟩ := v
  cases kind
  case not => cases negated <;> rfl
  case leftParen =>
    refine Eq.trans ?_ (outlineStep_enter ..).symm
    simp [valueStep, Token.outline, outline, State.outline, Scope.outline, depth]
  all_goals rfl

theorem ValueScope.operatorStep_outline (v : ValueScope) (t : Token) :
    v.outline.operatorStep t.outline = outlineStep (v.operatorStep t) := by
  obtain ⟨kind, value, offset⟩ := t
  obtain ⟨name, chain, opened, outer, scope⟩ := v
  cases kind
  case rightParen => cases outer <;> rfl
  all_goals rfl

/-- **A step does not look at places**, nor at the letters of a keyword. -/
theorem State.step_outline (limit : Nat) (s : State) (t : Token) :
    s.outline.step limit t.outline = outlineStep (s.step limit t) := by
  cases s with
  | operand s => exact s.operandStep_outline limit t
  | field name s =>
    have hoperator := Scope.operatorStep_outline (s.push (.present name)) t
    obtain ⟨kind, value, offset⟩ := t
    cases kind
    case colon | comparison => rfl
    all_goals exact hoperator
  | colon name s => exact s.valuesStep_outline limit name t
  | comparison name op s =>
    obtain ⟨kind, value, offset⟩ := t
    cases kind <;> rfl
  | operator s => exact s.operatorStep_outline t
  | value v => exact v.valueStep_outline limit t
  | valueOperator v => exact v.operatorStep_outline t

theorem Scope.close_outline (s : Scope) :
    s.outline.close = s.close.mapError ParseFault.outline := by
  obtain ⟨chain, frames⟩ := s
  rcases frames with _ | ⟨_ | _, frames⟩ <;> rfl

theorem State.finish_outline (s : State) :
    s.outline.finish = s.finish.mapError ParseFault.outline := by
  cases s with
  | field name s => exact (s.push (.present name)).close_outline
  | operator s => exact s.close_outline
  | operand | colon | comparison | value | valueOperator => rfl

/-- **A run does not look at places**, nor at the letters of keywords. -/
theorem run_outline (limit : Nat) (s : State) (ts : List Token) :
    run limit s.outline (ts.map Token.outline) = (run limit s ts).mapError ParseFault.outline := by
  induction ts generalizing s with
  | nil => exact s.finish_outline
  | cons t ts ih =>
    rw [List.map_cons, run, run, State.step_outline]
    cases s.step limit t with
    | error fault => rfl
    | ok s' => exact ih s'

end outline
end LogSearch.Kql
