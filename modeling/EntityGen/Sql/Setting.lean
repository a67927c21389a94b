import EntityGen.Sql.Grammar

/-! Settings: names with what they are set to, between parentheses, and the file formats in which
rows are stored. -/

namespace EntityGen.Sql

/-- The formats of files that hold rows. -/
def fileFormats : List String :=
  ["AVRO", "JSONFILE", "ORC", "PARQUET", "RCFILE", "SEQUENCEFILE", "TEXTFILE"]

namespace Parser

def fileFormat : Parser String := do
  match ← acceptOneOf fileFormats with
  | some format => return format
  | none => expected .fileFormat

end Parser

namespace Grammar

open EntityGen.Sql.Parser

/-- How the rows of a table are divided by the ranges of a column. -/
private def partitionSetting (g : Grammar) : Parser String := do
  expect "PARTITION"
  let inner ← inParens do
    let column ← named
    expect "RANGE"
    let side ← flagPhrase [["LEFT"], ["RIGHT"]]
    expectAll ["FOR", "VALUES"]
    return column ++ " RANGE" ++ side ++ " FOR VALUES " ++ (← g.wholesInParens)
  return "PARTITION " ++ inner

/-- How the rows of a table are kept together. -/
private def clusterSetting : Parser String := do
  if ← acceptAll ["CLUSTERED", "COLUMNSTORE", "INDEX", "ORDER"] then
    return "CLUSTERED COLUMNSTORE INDEX ORDER " ++ (← columnList)
  else if ← acceptAll ["CLUSTERED", "COLUMNSTORE", "INDEX"] then
    return "CLUSTERED COLUMNSTORE INDEX"
  else if ← acceptAll ["CLUSTERED", "INDEX"] then
    let columns ← listedInParens do
      let name ← named
      return name ++ (← flagPhrase [["ASC"], ["DESC"]])
    return "CLUSTERED INDEX " ++ columns
  else fail .badClustering

/-- A setting: a name and what it is set to. -/
def setting (g : Grammar) : Parser String := do
  let word ← if (← rules).columnarTables then peekKeyword else pure ""
  match word with
  | "HEAP" => named
  | "PARTITION" => g.partitionSetting
  | "CLUSTERED" => clusterSetting
  | _ =>
    let name ← named
    expectSymbol .eq
    return name ++ " = " ++ (← g.whole)

/-- Settings in parentheses. -/
def settings (g : Grammar) : Parser String := listedInParens g.setting

/-- Settings after a keyword, if it comes next. -/
def settingsAfter (g : Grammar) (k : String) : Parser Unit := optionally k g.settings

end Grammar

end EntityGen.Sql
