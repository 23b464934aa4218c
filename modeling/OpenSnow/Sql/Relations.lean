import OpenSnow.Sql.Lexer

/-!
# The relations a query reads

One pass over the tokens finds every relation named in a `FROM` clause: the
items of a comma list, the operands of joins, and those of subqueries, however
deep.  Every open parenthesis has a scope of its own.  A name that a `WITH`
list in force binds is no relation, and neither is a name that is called like
a function.
-/

namespace OpenSnow.Sql

/-- Where in a scope the next token stands. -/
inductive Position where
  /-- Nothing was read yet. -/
  | start
  /-- A `WITH` list binds the next name. -/
  | withName
  /-- Behind a name that a `WITH` list binds. -/
  | withBody
  /-- Outside any `FROM` clause. -/
  | elsewhere
  /-- An item of a `FROM` clause or an operand of a join is due. -/
  | factor
  /-- Behind these parts of a name. -/
  | named (parts : List Token)
  /-- Behind the dot that follows these parts. -/
  | dotted (parts : List Token)
  /-- Behind an item, still in the `FROM` clause. -/
  | factorEnd
deriving DecidableEq, Repr

/-- What is known inside one pair of parentheses. -/
structure Scope where
  position : Position
  /-- A query stands here, so that `FROM` starts a clause. -/
  query : Bool
  /-- Behind `IS`, `IS NOT` or `IS DISTINCT`, where `FROM` is an operator. -/
  comparison : Bool
  /-- The token before, if there is one in this scope. -/
  last : Option Token
  /-- The names bound by the `WITH` lists in force. -/
  bound : List (List Char)
deriving DecidableEq, Repr

/-- A part of a name as written. -/
def partText : Token → List Char
  | .word text => text
  | .quoted text => ['"'] ++ text ++ ['"']
  | _ => []

/-- A name as written, without the blanks and comments between its parts. -/
def nameText (parts : List Token) : List Char :=
  ['.'].intercalate (parts.map partText)

/-- What names are compared by: a word in lower case, a quoted name as it is. -/
def folded : Token → List Char
  | .word text => text.map Char.toLower
  | .quoted text => text
  | _ => []

/-- A name of one part can be bound by a `WITH` list. -/
def isBound (bound : List (List Char)) : List Token → Bool
  | [part] => bound.contains (folded part)
  | _ => false

/-- The end of a name, if one is being read. -/
def Scope.close (scope : Scope) : Scope × List (List Char) :=
  match scope.position with
  | .named parts =>
      ({ scope with position := .factorEnd },
        if isBound scope.bound parts then [] else [nameText parts])
  | .dotted _ => ({ scope with position := .factorEnd }, [])
  | _ => (scope, [])

/-- Read a name, or a word that is no keyword where it stands. -/
def Scope.name (scope : Scope) (token : Token) : Scope :=
  match scope.position with
  | .start => { scope with position := .elsewhere }
  | .withName =>
      { scope with position := .withBody, bound := folded token :: scope.bound }
  | .factor => { scope with position := .named [token] }
  | _ => scope

/-- Behind a dot or an `AS` a word is a label, whatever it is. -/
def isLabel (last : Option Token) (text : List Char) : Bool :=
  match last with
  | some (.symbol '.') => true
  | some (.word before) =>
      keyword before == "AS" && keyword text ∉ ["SELECT", "WITH"]
  | _ => false

/-- `IS`, `IS NOT` and `IS DISTINCT` start a comparison. -/
def Scope.compares (scope : Scope) (text : List Char) : Bool :=
  match keyword text with
  | "IS" => true
  | "NOT" | "DISTINCT" => scope.comparison
  | _ => false

/-- Read a word that can be a keyword. -/
def Scope.keyword (scope : Scope) (text : List Char) : Scope :=
  match scope.position, Sql.keyword text with
  | .withName, "RECURSIVE" => scope
  | .withName, _ => scope.name (.word text)
  | .start, "WITH" | .factor, "WITH" => { scope with position := .withName }
  | .factor, "LATERAL" | .factor, "ONLY" | .factor, "TABLE" => scope
  | .factorEnd, "JOIN" => { scope with position := .factor }
  | position, "FROM" =>
      if scope.comparison then scope
      else if scope.query ∨ position = .factor ∨ position = .withBody then
        { scope with position := .factor, query := true }
      else scope.name (.word text)
  | _, "SELECT" => { scope with position := .elsewhere, query := true }
  | _, "WHERE" | _, "GROUP" | _, "HAVING" | _, "ORDER" | _, "LIMIT"
  | _, "OFFSET" | _, "FETCH" | _, "FOR" | _, "WINDOW" | _, "QUALIFY"
  | _, "UNION" | _, "EXCEPT" | _, "INTERSECT" | _, "INTO" | _, "VALUES" =>
      { scope with position := .elsewhere }
  | _, _ => scope.name (.word text)

/-- Read a word. -/
def Scope.word (scope : Scope) (text : List Char) : Scope :=
  let next :=
    if isLabel scope.last text then scope.name (.word text)
    else scope.keyword text
  { next with
    comparison := scope.compares text
    last := some (.word text) }

/-- Read a quoted name. -/
def Scope.quoted (scope : Scope) (text : List Char) : Scope :=
  { scope.name (.quoted text) with
    comparison := false
    last := some (.quoted text) }

/-- Where a literal, an operator or a comma leads. -/
def Position.other : Position → Token → Position
  | .factorEnd, .symbol ',' => .factor
  | .withBody, .symbol ',' => .withName
  | .factor, .symbol ',' => .factor
  | .start, _ => .elsewhere
  | .factor, _ => .elsewhere
  | position, _ => position

/-- Read a literal, an operator or a comma. -/
def Scope.other (scope : Scope) (token : Token) : Scope :=
  { scope with
    position := scope.position.other token
    comparison := false
    last := some token }

/-- Where a parenthesis leads around it. -/
def Position.around : Position → Position
  | .start => .elsewhere
  | .factor | .named _ | .dotted _ => .factorEnd
  | position => position

/-- The scope around a parenthesis that opens here. -/
def Scope.around (scope : Scope) : Scope :=
  { scope with
    position := scope.position.around
    comparison := false
    last := some (.symbol '(') }

/-- The scope inside a parenthesis that opens here. -/
def Scope.inside (scope : Scope) : Scope where
  position := if scope.position = .factor then .factor else .start
  query := false
  comparison := false
  last := none
  bound := scope.bound

/-- The scope of a new statement. -/
def Scope.fresh : Scope := ⟨.start, false, false, none, []⟩

/-- Read a token: the scopes then open, and the relations it completes. -/
def readToken (scope : Scope) (outer : List Scope) (token : Token) :
    List Scope × List (List Char) :=
  match token, scope.position with
  | .symbol '.', .named parts =>
      ({ scope with position := .dotted parts } :: outer, [])
  | .word _, .dotted parts | .quoted _, .dotted parts =>
      ({ scope with position := .named (parts ++ [token]) } :: outer, [])
  | .word text, _ => (scope.close.1.word text :: outer, scope.close.2)
  | .quoted text, _ => (scope.close.1.quoted text :: outer, scope.close.2)
  | .symbol '(', _ => (scope.inside :: scope.around :: outer, [])
  | .symbol ')', _ =>
      (if outer.isEmpty then [scope.close.1] else outer, scope.close.2)
  | .symbol ';', _ => ([.fresh], scope.close.2)
  | _, _ => (scope.close.1.other token :: outer, scope.close.2)

/-- The relations read by tokens that follow with these scopes open. -/
def readTokens : List Scope → List Token → List (List Char)
  | [], _ => []
  | scope :: _, [] => scope.close.2
  | scope :: outer, token :: rest =>
      let next := readToken scope outer token
      next.2 ++ readTokens next.1 rest

/-- The relations a text reads, each as it is written. -/
def relationsRead (text : String) : List String :=
  (readTokens [.fresh] (lex text)).map String.ofList

end OpenSnow.Sql
