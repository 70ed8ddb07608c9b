import LogSearch.Json.Writer
import LogSearch.Kql.Node
import LogSearch.Text.Blank

/-!
# Query trees as text

The text of a tree is a query again.  Chains stand in parentheses, so no rule of precedence is
needed to read them, and a literal is quoted unless it reads back as itself without quotes.

## What is here

* `isPlain` — whether a literal needs no quotes;
* `writeLiteral` — a literal with the quotes it needs;
* `Values.write`, `Node.write` — the characters of a tree;
* `Node.print` — its text.
-/

set_option autoImplicit false
namespace LogSearch.Kql

/-- The characters that mean something in a query. -/
def isSpecial (c : Char) : Bool := c ∈ ['\\', '(', ')', ':', '<', '>', '"', '*', '{', '}']

/-- Whether a word is a keyword, in any letter case. -/
def isKeyword (cs : List Char) : Bool :=
  cs.map Char.toLower ∈ [['a', 'n', 'd'], ['o', 'r'], ['n', 'o', 't']]

/-- Whether a literal needs no quotes. -/
def isPlain (cs : List Char) : Bool :=
  !cs.isEmpty && !isKeyword cs &&
    cs.all fun c => !Text.isBlank c && !Text.isControl c && !isSpecial c

/-- A literal, with quotes if it needs them. -/
def writeLiteral (text : String) : List Char :=
  if isPlain text.toList then text.toList else Json.literalChars text.toList

/-- Texts with an operator between them. -/
def joined (operator : List Char) : List (List Char) → List Char
  | [] => []
  | [text] => text
  | text :: texts => text ++ ' ' :: operator ++ ' ' :: joined operator texts

/-- Texts in parentheses with an operator between them. -/
def group (operator : List Char) (texts : List (List Char)) : List Char :=
  '(' :: joined operator texts ++ [')']

mutual

/-- The characters of a value tree. -/
def Values.write : Values → List Char
  | .literal text => writeLiteral text
  | .wildcard => ['*']
  | .or values => group ['o', 'r'] (Values.writeList values)
  | .and values => group ['a', 'n', 'd'] (Values.writeList values)
  | .not values => ['(', 'n', 'o', 't', ' '] ++ values.write ++ [')']

/-- The characters of each of several value trees. -/
def Values.writeList : List Values → List (List Char)
  | [] => []
  | v :: vs => v.write :: Values.writeList vs

end

mutual

/-- The characters of a tree. -/
def Node.write : Node → List Char
  | .and children => group ['a', 'n', 'd'] (Node.writeList children)
  | .or children => group ['o', 'r'] (Node.writeList children)
  | .not operand => ['n', 'o', 't', ' '] ++ operand.write
  | .field name values => writeLiteral name ++ ':' :: values.write
  | .compare name op value => writeLiteral name ++ op.sign ++ writeLiteral value
  | .present name => writeLiteral name
  | .nested name query => writeLiteral name ++ [':', '{', ' '] ++ query.write ++ [' ', '}']

/-- The characters of each of several trees. -/
def Node.writeList : List Node → List (List Char)
  | [] => []
  | n :: ns => n.write :: Node.writeList ns

end

/-- A tree as a query. -/
def Node.print (node : Node) : String := String.ofList node.write

end LogSearch.Kql
