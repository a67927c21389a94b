import EntityGen.Sql.Grammar

/-! Other names for the tables and columns of a query. A bare word is taken for one unless it is
reserved where it stands. -/

namespace EntityGen.Sql

/-- The words that name no column of a result unless `AS` stands before them. -/
def notColumnAliases : List String :=
  ["WITH", "EXPLAIN", "ANALYZE", "SELECT", "WHERE", "GROUP", "SORT", "HAVING", "ORDER", "TOP",
   "LATERAL", "VIEW", "LIMIT", "OFFSET", "FETCH", "UNION", "EXCEPT", "INTERSECT", "CLUSTER",
   "DISTRIBUTE", "RETURNING", "FROM", "INTO", "END"]

/-- The words that name no table of a query unless `AS` stands before them. -/
def notTableAliases : List String :=
  ["WITH", "EXPLAIN", "ANALYZE", "SELECT", "WHERE", "GROUP", "SORT", "HAVING", "ORDER", "PIVOT",
   "UNPIVOT", "TOP", "LATERAL", "VIEW", "LIMIT", "OFFSET", "FETCH", "UNION", "EXCEPT",
   "INTERSECT", "ON", "JOIN", "INNER", "CROSS", "FULL", "LEFT", "RIGHT", "NATURAL", "USING",
   "CLUSTER", "DISTRIBUTE", "GLOBAL", "OUTER", "SET", "QUALIFY", "WINDOW", "END", "FOR",
   "PARTITION", "PREWHERE", "SETTINGS", "FORMAT", "START", "CONNECT", "MATCH_RECOGNIZE"]

/-- The words that name no column of an unfolded row unless `AS` stands before them. -/
def notUnfoldedAliases : List String := ["WHERE", "GROUP", "CLUSTER", "HAVING", "LATERAL"]

namespace Parser

/-- Another name for what stands before it, if one comes next. -/
def optionalAlias (reserved : List String) : Parser (Option String) := do
  let marked ← accept "AS"
  let here ← peek
  match Located.token? here with
  | some (.word w) => if marked || !reserved.contains w.keyword then some <$> named else return none
  | some (.literal .single _) | some (.literal .double _) => some <$> named
  | _ => if marked then expectedAt .identifierAfterAs here else return none

/-- Another name for a column after what it names, empty if none comes next. -/
def columnAlias : Parser String := do return aliasText (← optionalAlias notColumnAliases)

/-- Another name for a table, with names for its columns. -/
def tableAlias : Parser (Option String) := do
  match ← optionalAlias notTableAliases with
  | some name => return some (name ++ (← optionalColumnList))
  | none => return none

/-- A name after `AS`, empty if the keyword does not come next. -/
def markedAlias : Parser String := clause "AS" named

end Parser

end EntityGen.Sql
