import EntityGen.Sql.Value

/-! The recursive phrases of the language. `Grammar` is what one level of the grammar may call:
each phrase is written once over a `Grammar`, and `Statement` ties the levels together. A phrase
gives its written form, in which a message may show it; only types and columns are kept as data. -/

namespace EntityGen.Sql

/-- A column as defined: its name, its type, and the written form of what follows them. -/
structure Column where
  name : Name
  type : DataType
  clauses : String

/-- A table of a query: its written form before its other name, that name, and what follows. -/
structure Relation where
  lead : String
  aliasName : Option String
  trail : String
  /-- Whether it is tables joined in parentheses. -/
  isJoin : Bool

/-- The other name of a table after what it names, empty if there is none. -/
def aliasText (name : Option String) : String := (name.map (" AS " ++ ·)).getD ""

/-- The written form of a table of a query. -/
def Relation.text (r : Relation) : String := r.lead ++ aliasText r.aliasName ++ r.trail

/-- A table with the written form of what is joined to it. -/
structure Joined where
  relation : Relation
  joins : String

def Joined.text (j : Joined) : String := j.relation.text ++ j.joins

/-- The phrases that contain one another. -/
structure Grammar where
  /-- An expression whose operators bind tighter than a level. -/
  expr : Nat → Parser String
  /-- What an operator applies to. -/
  operand : Parser String
  /-- A type, and whether a `>>` has closed one bracket more than it opened. -/
  dataType : Parser (DataType × Bool)
  column : Parser Column
  query : Parser String
  /-- The body of a query whose set operators bind tighter than a level. -/
  body : Nat → Parser String
  /-- A table with what is joined to it. -/
  joined : Parser Joined

namespace Grammar

open EntityGen.Sql.Parser

/-- A whole expression. -/
def whole (g : Grammar) : Parser String := g.expr 0

/-- Expressions between commas. -/
def wholes (g : Grammar) : Parser String := listed g.whole

/-- Expressions between commas, in parentheses. -/
def wholesInParens (g : Grammar) : Parser String := listedInParens g.whole

/-- A type with its brackets in balance. -/
def balancedType (g : Grammar) : Parser DataType := do
  let (type, stray) ← g.dataType
  if stray then fail (.strayBracket type (← peek)) else return type

end Grammar

end EntityGen.Sql
