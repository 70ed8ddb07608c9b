import LogSearch.Kql.Lexer
import LogSearch.Kql.Node

/-!
# Reading a query

`or` binds weaker than `and`, `and` weaker than `not`; parentheses group, and `field:{ … }` opens a
nested scope.  The tokens are read one by one by a machine whose state holds the operands of the
innermost group and a stack of the groups that are still open around it.  Each token either moves
the machine on or ends the reading with an error, so what went wrong is always said of the first
token that no query could have at that place.

## What is here

* `Chain` — the operands of one group, on their way to a tree;
* `Frame`, `Scope`, `ValueScope` — open groups of conditions and of values;
* `State` — what may come next, with `State.depth`, the number of open groups;
* `State.step`, `State.finish` — one token, and the end of the query;
* `run` — all tokens from a state;
* `parseTokens`, `parse` — a query tree from tokens and from a text, under a limit on the depth of
  open groups.
-/

set_option autoImplicit false
namespace LogSearch.Kql

/-! ## Operands -/

/-- The operands of a group so far, newest first: the finished alternatives of its `or`, the
operands of the `and` being read, and whether a `not` waits for its operand. -/
structure Chain (α : Type) where
  alternatives : List α
  conjuncts : List α
  negated : Bool
  deriving Repr

/-- A group without operands. -/
def Chain.empty {α : Type} : Chain α := ⟨[], [], false⟩

/-- The chain after an operand, to which a waiting `not` applies. -/
def Chain.push {α : Type} (not : α → α) (operand : α) (c : Chain α) : Chain α :=
  { c with conjuncts := (if c.negated then not operand else operand) :: c.conjuncts
           negated := false }

/-- The chain after an `or`: the `and` before it is an alternative. -/
def Chain.alternate {α : Type} (conjunction : List α → α) (c : Chain α) : Chain α :=
  { c with alternatives := conjunction c.conjuncts.reverse :: c.alternatives, conjuncts := [] }

/-- The tree of a whole group. -/
def Chain.finish {α : Type} (conjunction disjunction : List α → α) (c : Chain α) : α :=
  disjunction (conjunction c.conjuncts.reverse :: c.alternatives).reverse

/-! ## Open groups -/

/-- A group of conditions that waits for its closing delimiter, with the byte offset of the opening
one and the operands read around it. -/
inductive Frame
  /-- A parenthesis. -/
  | group (opened : Nat) (outer : Chain Node)
  /-- The nested scope of a field. -/
  | nested (name : String) (opened : Nat) (outer : Chain Node)
  deriving Repr

/-- The conditions read in the innermost group, and the open groups, innermost first. -/
structure Scope where
  chain : Chain Node
  frames : List Frame
  deriving Repr

/-- The values read in the innermost group of the values of a field.  `outer` holds the groups of
values around it, each with the offset of its parenthesis, and `scope` the conditions around the
field. -/
structure ValueScope where
  name : String
  chain : Chain Values
  opened : Nat
  outer : List (Nat × Chain Values)
  scope : Scope
  deriving Repr

/-- The scope of a whole query. -/
def Scope.start : Scope := ⟨.empty, []⟩

/-- The scope after an operand. -/
def Scope.push (s : Scope) (operand : Node) : Scope :=
  { s with chain := s.chain.push .not operand }

/-- The scope after an `or`. -/
def Scope.alternate (s : Scope) : Scope :=
  { s with chain := s.chain.alternate Node.conjunction }

/-- The tree of the innermost group. -/
def Scope.tree (s : Scope) : Node := s.chain.finish Node.conjunction Node.disjunction

/-- The scope of the values after an operand. -/
def ValueScope.push (v : ValueScope) (operand : Values) : ValueScope :=
  { v with chain := v.chain.push .not operand }

/-- The scope of the values after an `or`. -/
def ValueScope.alternate (v : ValueScope) : ValueScope :=
  { v with chain := v.chain.alternate Values.conjunction }

/-- The values of the innermost group. -/
def ValueScope.tree (v : ValueScope) : Values :=
  v.chain.finish Values.conjunction Values.disjunction

/-- What may come next. -/
inductive State
  /-- A condition. -/
  | operand (s : Scope)
  /-- What makes the field a condition, or what may follow it as it is. -/
  | field (name : String) (s : Scope)
  /-- The values of a field. -/
  | colon (name : String) (s : Scope)
  /-- The value of a comparison. -/
  | comparison (name : String) (op : Comparison) (s : Scope)
  /-- An operator, the end of the group, or the end of the query. -/
  | operator (s : Scope)
  /-- A value in a list. -/
  | value (v : ValueScope)
  /-- An operator in a list of values, or its end. -/
  | valueOperator (v : ValueScope)
  deriving Repr

/-- The number of groups of values that are open. -/
def ValueScope.depth (v : ValueScope) : Nat := v.outer.length + 1 + v.scope.frames.length

/-- The number of open groups. -/
def State.depth : State → Nat
  | .operand s | .field _ s | .colon _ s | .comparison _ _ s | .operator s => s.frames.length
  | .value v | .valueOperator v => v.depth

/-! ## Faults -/

/-- Why tokens are no query. -/
inductive ParseFault
  | unexpected (token : Token) (expected : Expectation)
  | unexpectedEnd (expected : Expectation)
  | empty
  | missingParenthesis (opened : Nat)
  | missingBrace (opened : Nat)
  | tooDeep (limit : Nat)
  deriving DecidableEq, Repr

/-! ## One token -/

/-- Opens a group in which `depth` groups are open already. -/
def enter (limit depth : Nat) (inside : State) : Except ParseFault State :=
  if depth + 1 ≤ limit then .ok inside else .error (.tooDeep limit)

/-- What may follow once an innermost group of conditions cannot go on with the token. -/
def unclosed (token : Token) : ParseFault :=
  match token.kind with
  | .rightParen | .rightBrace => .unexpected token .matchingCloser
  | _ => .unexpected token .operatorOrCloser

/-- A token where an operator may stand: it goes on, or it closes the innermost group. -/
def Scope.operatorStep (s : Scope) (token : Token) : Except ParseFault State :=
  match token.kind with
  | .and => .ok (.operand s)
  | .or => .ok (.operand s.alternate)
  | kind =>
    match s.frames with
    | [] => .error (.unexpected token .operatorOrEnd)
    | .group _ outer :: frames =>
      if kind = .rightParen then .ok (.operator (Scope.push ⟨outer, frames⟩ s.tree))
      else .error (unclosed token)
    | .nested name _ outer :: frames =>
      if kind = .rightBrace then
        .ok (.operator (Scope.push ⟨outer, frames⟩ (.nested name s.tree)))
      else .error (unclosed token)

/-- A token where a condition is due. -/
def Scope.operandStep (limit : Nat) (s : Scope) (token : Token) : Except ParseFault State :=
  match token.kind with
  | .not =>
    if s.chain.negated then .error (.unexpected token .operand)
    else .ok (.operand { s with chain := { s.chain with negated := true } })
  | .leftParen =>
    enter limit s.frames.length (.operand ⟨.empty, .group token.offset s.chain :: s.frames⟩)
  | .term | .quoted => .ok (.field token.value s)
  | .wildcard => .error (.unexpected token .fieldName)
  | _ => .error (.unexpected token .operand)

/-- A token where the values of a field are due. -/
def Scope.valuesStep (limit : Nat) (name : String) (s : Scope) (token : Token) :
    Except ParseFault State :=
  match token.kind with
  | .leftBrace =>
    enter limit s.frames.length
      (.operand ⟨.empty, .nested name token.offset s.chain :: s.frames⟩)
  | .leftParen => enter limit s.frames.length (.value ⟨name, .empty, token.offset, [], s⟩)
  | .term | .quoted => .ok (.operator (s.push (.field name (.literal token.value))))
  | .wildcard => .ok (.operator (s.push (.field name .wildcard)))
  | _ => .error (.unexpected token .value)

/-- A token where a value in a list is due. -/
def ValueScope.valueStep (limit : Nat) (v : ValueScope) (token : Token) :
    Except ParseFault State :=
  match token.kind with
  | .not =>
    if v.chain.negated then .error (.unexpected token .value)
    else .ok (.value { v with chain := { v.chain with negated := true } })
  | .leftParen =>
    enter limit v.depth
      (.value { v with chain := .empty, opened := token.offset
                       outer := (v.opened, v.chain) :: v.outer })
  | .term | .quoted => .ok (.valueOperator (v.push (.literal token.value)))
  | .wildcard => .ok (.valueOperator (v.push .wildcard))
  | _ => .error (.unexpected token .value)

/-- A token where an operator in a list of values may stand. -/
def ValueScope.operatorStep (v : ValueScope) (token : Token) : Except ParseFault State :=
  match token.kind with
  | .and => .ok (.value v)
  | .or => .ok (.value v.alternate)
  | .rightParen =>
    match v.outer with
    | [] => .ok (.operator (v.scope.push (.field v.name v.tree)))
    | (opened, chain) :: outer =>
      .ok (.valueOperator (ValueScope.push { v with chain, opened, outer } v.tree))
  | _ => .error (unclosed token)

/-- The state after one more token. -/
def State.step (limit : Nat) (state : State) (token : Token) : Except ParseFault State :=
  match state with
  | .operand s => s.operandStep limit token
  | .field name s =>
    match token.kind with
    | .colon => .ok (.colon name s)
    | .comparison op => .ok (.comparison name op s)
    | _ => (s.push (.present name)).operatorStep token
  | .colon name s => s.valuesStep limit name token
  | .comparison name op s =>
    match token.kind with
    | .term | .quoted => .ok (.operator (s.push (.compare name op token.value)))
    | _ => .error (.unexpected token .comparand)
  | .operator s => s.operatorStep token
  | .value v => v.valueStep limit token
  | .valueOperator v => v.operatorStep token

/-! ## The end, and whole queries -/

/-- The tree of a scope in which the query may end, if no group is open. -/
def Scope.close (s : Scope) : Except ParseFault Node :=
  match s.frames with
  | [] => .ok s.tree
  | .group opened _ :: _ => .error (.missingParenthesis opened)
  | .nested _ opened _ :: _ => .error (.missingBrace opened)

/-- The tree, if the query may end here. -/
def State.finish : State → Except ParseFault Node
  | .operand _ => .error (.unexpectedEnd .operand)
  | .field name s => (s.push (.present name)).close
  | .colon _ _ => .error (.unexpectedEnd .value)
  | .comparison .. => .error (.unexpectedEnd .comparand)
  | .operator s => s.close
  | .value _ => .error (.unexpectedEnd .value)
  | .valueOperator v => .error (.missingParenthesis v.opened)

/-- Reads tokens from a state to the end. -/
def run (limit : Nat) : State → List Token → Except ParseFault Node
  | state, [] => state.finish
  | state, token :: tokens => do run limit (← state.step limit token) tokens

/-- The tree that tokens spell, with at most `limit` groups open at any point. -/
def readTokens (limit : Nat) (tokens : List Token) : Except ParseFault Node :=
  if tokens.isEmpty then .error .empty else run limit (.operand .start) tokens

/-! ## Errors that quote the query -/

/-- The number of characters an error quotes. -/
def nearLength : Nat := 24

/-- The text behind the first `bytes` bytes, if a character ends there. -/
def dropBytes? : Nat → List Char → Option (List Char)
  | 0, cs => some cs
  | _ + 1, [] => none
  | n + 1, c :: cs => if c.utf8Size ≤ n + 1 then dropBytes? (n + 1 - c.utf8Size) cs else none
  termination_by structural _ cs => cs

/-- The fault as an error in a text. -/
def ParseFault.toError (text : String) : ParseFault → QueryError
  | .unexpected token expected =>
    match dropBytes? token.offset text.toList with
    | some rest =>
      .unexpectedToken token.value token.offset (String.ofList (rest.take nearLength)) expected
    | none => .strayOffset token.offset
  | .unexpectedEnd expected => .unexpectedEnd expected
  | .empty => .emptyQuery
  | .missingParenthesis opened => .missingParenthesis opened
  | .missingBrace opened => .missingBrace opened
  | .tooDeep limit => .tooDeep limit

/-- The limit on the depth of open groups unless another is asked for. -/
def defaultLimit : Nat := 64

/-- The tree that tokens spell; errors quote `text`, which the tokens are supposed to come from. -/
def parseTokens (limit : Nat) (text : String) (tokens : List Token) : Except QueryError Node :=
  (readTokens limit tokens).mapError (·.toError text)

/-- The tree of a query. -/
def parse (limit : Nat) (text : String) : Except QueryError Node := do
  parseTokens limit text (← tokenize text)

end LogSearch.Kql
