import EntityGen.Sql.Token

/-! What the grammar looks for where it stops. A `Wanted` is a cause, and `Wanted.text` words it. -/

namespace EntityGen.Sql

/-- What the grammar looked for. -/
inductive Wanted where
  | symbol (s : Symbol)
  | keyword (k : String)
  | oneOf (ks : List String)
  | statement
  | endOfStatement
  | createdObject
  | replacedObject
  | droppedObject
  | alteration
  | commentedObject
  | identifier
  | identifierAfterAs
  | identifierAfterPeriod
  | starAfterPeriod
  | expression
  | value
  | concreteValue
  | quotedValue
  | placeholderName
  | literalNumber
  | literalInt
  | literalString
  | columnString
  | listedString
  | listEnd
  | tableComment
  | dateTimeField
  | dataTypeName
  | typeModifiers
  | columnOrConstraint
  | listContinuation
  | columnList
  | constraintDetails
  | constraintKind
  | unnamedSearchIndex
  | indexNameOrColumns
  | indexMethod
  | referentialAction
  | deferral
  | stored
  | predicateAfterIs
  | rangeAfterNot
  | overflowFiller
  | overflowCount
  | frameUnits
  | frameBound
  | queryBody
  | joinAfterCross
  | joinSide
  | joinAfterNatural
  | joinedTable
  | tableName
  | schemaName
  | isolation
  | attributeContinuation
  | fileFormat
  | assignmentSign
  | variableValue
  | likePattern
  | replacedColumns
  | functionName
  | skipTarget
  | upperBound
  | quantifier
  | killedKind
  | flushedObject
  | cachedQuery
  | cachedTable
  | discardedObject
  | copyDirection
  | copyOption
  | directiveValue
  | tableLock
  | assignedVariable
  | timeZone
  | transactionMode
  | privilege
  | disabledPart
  | enabledPart
  | columnChange (typed : Bool)
  | indexChange
  | newName
  | configValue
  | configAssignment
  | roleOption
  | openingOfLabels
  | closingOfLabels
  | stringLiteral
  | parallelSafety
  | roleOrGroup
  | parameterContinuation
  | droppedRoutine
  deriving DecidableEq, Repr

def Wanted.text : Wanted → String
  | .symbol s => s.text
  | .keyword k => k
  | .oneOf ks => "one of " ++ " or ".intercalate ks
  | .statement => "an SQL statement"
  | .endOfStatement => "end of statement"
  | .createdObject => "an object type after CREATE"
  | .replacedObject =>
    "[EXTERNAL] TABLE or [MATERIALIZED] VIEW or FUNCTION after CREATE OR REPLACE"
  | .droppedObject =>
    "TABLE, VIEW, INDEX, ROLE, SCHEMA, DATABASE, FUNCTION, PROCEDURE, STAGE, TRIGGER, SECRET, "
      ++ "SEQUENCE, or TYPE after DROP"
  | .alteration =>
    "ADD, RENAME, PARTITION, SWAP, DROP, or SET TBLPROPERTIES after ALTER TABLE"
  | .commentedObject => "comment object_type"
  | .identifier => "identifier"
  | .identifierAfterAs => "an identifier after AS"
  | .identifierAfterPeriod => "an identifier after '.'"
  | .starAfterPeriod => "an identifier or a '*' after '.'"
  | .expression => "an expression"
  | .value => "a value"
  | .concreteValue => "a concrete value"
  | .quotedValue => "A value?"
  | .placeholderName => "placeholder"
  | .literalNumber => "literal number"
  | .literalInt => "literal int"
  | .literalString => "literal string"
  | .columnString => "string"
  | .listedString => "a string"
  | .listEnd => ", or \x7d"
  | .tableComment => "comment"
  | .dateTimeField => "date/time field"
  | .dataTypeName => "a data type name"
  | .typeModifiers => "type modifiers"
  | .columnOrConstraint => "column name or constraint definition"
  | .listContinuation => "',' or ')' after column definition"
  | .columnList => "a list of columns in parentheses"
  | .constraintDetails => "constraint details after CONSTRAINT <name>"
  | .constraintKind => "PRIMARY, UNIQUE, FOREIGN, or CHECK"
  | .unnamedSearchIndex => "FULLTEXT or SPATIAL option without constraint name"
  | .indexNameOrColumns => "`index_name` or `(column_name [, ...])`"
  | .indexMethod => "index type \x7bBTREE | HASH\x7d"
  | .referentialAction =>
    "one of RESTRICT, CASCADE, SET NULL, NO ACTION or SET DEFAULT"
  | .deferral => "one of DEFERRED or IMMEDIATE"
  | .stored => "STORED"
  | .predicateAfterIs => "[NOT] NULL or TRUE|FALSE or [NOT] DISTINCT FROM after IS"
  | .rangeAfterNot => "IN or BETWEEN after NOT"
  | .overflowFiller => "either filler, WITH, or WITHOUT in LISTAGG"
  | .overflowCount => "either WITH or WITHOUT in LISTAGG"
  | .frameUnits => "ROWS, RANGE, GROUPS"
  | .frameBound => "PRECEDING or FOLLOWING"
  | .queryBody => "SELECT, VALUES, or a subquery in the query body"
  | .joinAfterCross => "JOIN or APPLY after CROSS"
  | .joinSide => "LEFT, RIGHT, or FULL"
  | .joinAfterNatural => "a join type after NATURAL"
  | .joinedTable => "joined table"
  | .tableName => "Table name"
  | .schemaName => "Schema name"
  | .isolation => "isolation level"
  | .attributeContinuation => "',' or ')' after attribute definition"
  | .fileFormat => "fileformat"
  | .assignmentSign => "equals sign or TO"
  | .variableValue => "variable value"
  | .likePattern => "ilike pattern"
  | .replacedColumns => "( after REPLACE but"
  | .functionName => "a function identifier"
  | .skipTarget => "after match skip option"
  | .upperBound => "\x7d or upper bound"
  | .quantifier => "quantifier range"
  | .killedKind => "Unsupported type for KILL, allowed: CONNECTION | QUERY"
  | .flushedObject =>
    "BINARY LOGS, ENGINE LOGS, ERROR LOGS, GENERAL LOGS, HOSTS, LOGS, PRIVILEGES, "
      ++ "OPTIMIZER_COSTS,RELAY LOGS [FOR CHANNEL channel], SLOW LOGS, STATUS, USER_RESOURCES"
  | .cachedQuery => "a QUERY statement"
  | .cachedTable => "a \x60TABLE\x60 keyword"
  | .discardedObject => "ALL, PLANS, SEQUENCES, TEMP or TEMPORARY after DISCARD"
  | .copyDirection => "FROM or TO"
  | .copyOption => "option"
  | .directiveValue => "number or string or ? placeholder"
  | .tableLock => "an lock type in LOCK TABLES"
  | .assignedVariable => "set variable"
  | .timeZone => "timezone value"
  | .transactionMode => "transaction mode"
  | .privilege => "a privilege keyword"
  | .disabledPart => "ROW LEVEL SECURITY, RULE, or TRIGGER after DISABLE"
  | .enabledPart => "ALWAYS, REPLICA, ROW LEVEL SECURITY, RULE, or TRIGGER after ENABLE"
  | .columnChange typed =>
    (if typed then "SET/DROP NOT NULL, SET DEFAULT, SET DATA TYPE, or ADD GENERATED"
      else "SET/DROP NOT NULL, SET DEFAULT, or SET DATA TYPE") ++ " after ALTER COLUMN"
  | .indexChange => "RENAME after ALTER INDEX"
  | .newName => "TO after RENAME"
  | .configValue => "config value"
  | .configAssignment => "'TO' or '=' or 'FROM CURRENT'"
  | .roleOption => "option"
  | .openingOfLabels => "'(' after CREATE TYPE AS ENUM"
  | .closingOfLabels => "')' after CREATE TYPE AS ENUM"
  | .stringLiteral => "string literal"
  | .parallelSafety => "one of UNSAFE | RESTRICTED | SAFE"
  | .roleOrGroup => "ROLE or GROUP after IN"
  | .parameterContinuation => "',' or ')' after parameter definition"
  | .droppedRoutine => "an object type after DROP"

end EntityGen.Sql
