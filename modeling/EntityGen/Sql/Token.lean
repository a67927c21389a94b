import EntityGen.Text.UpperCase

/-! The tokens of an SQL text and how each is written in a message. A word carries the upper-case
form by which keywords are told apart; `Word.quoted_keyword` says that a quoted word has none, so
no quoted name is ever taken for a keyword. -/

namespace EntityGen.Sql

/-- A place in a text: line and column, both counted from one, in characters. -/
structure Pos where
  line : Nat
  column : Nat
  deriving DecidableEq, Repr

/-- The place after a character. -/
def Pos.after (p : Pos) (c : Char) : Pos :=
  if c = '\n' then ⟨p.line + 1, 1⟩ else ⟨p.line, p.column + 1⟩

/-- How a message ends that speaks of a place. -/
def Pos.text (p : Pos) : String :=
  " at Line: " ++ toString p.line ++ ", Column: " ++ toString p.column

/-- The quote that closes a quoted word. -/
def closingQuote (q : Char) : Char := if q = '[' then ']' else q

/-- A name or keyword. `keyword` is empty for a quoted word. -/
structure Word where
  value : String
  quote : Option Char
  keyword : String
  deriving DecidableEq, Repr

/-- A word written without quotes. -/
def Word.plain (value : String) : Word := ⟨value, none, Text.upperCaseText value⟩

/-- A word written between quotes, with its inner quotes undoubled. -/
def Word.quoted (q : Char) (value : String) : Word := ⟨value, some q, ""⟩

@[simp] theorem Word.quoted_value (q : Char) (v : String) : (Word.quoted q v).value = v := rfl

@[simp] theorem Word.quoted_keyword (q : Char) (v : String) : (Word.quoted q v).keyword = "" := rfl

@[simp] theorem Word.plain_value (v : String) : (Word.plain v).value = v := rfl

/-- A word as a message shows it: between its quotes, inner quotes not doubled again. -/
def Word.text (w : Word) : String :=
  match w.quote with
  | none => w.value
  | some q => q.toString ++ w.value ++ (closingQuote q).toString

/-- The kinds of string literal. -/
inductive Literal where
  | single
  | double
  | national
  | escaped
  | unicode
  | hex
  | bytes (quote : Char)
  | raw (quote : Char) (width : Nat)
  | dollar (tag : String)
  deriving DecidableEq, Repr

/-- What a message writes before the text of a literal. -/
def Literal.opening : Literal → String
  | .single => "'"
  | .double => "\""
  | .national => "N'"
  | .escaped => "E'"
  | .unicode => "U&'"
  | .hex => "X'"
  | .bytes q => "B" ++ q.toString
  | .raw q width => "R" ++ String.ofList (List.replicate width q)
  | .dollar tag => "$" ++ tag ++ "$"

/-- What a message writes after the text of a literal. -/
def Literal.closing : Literal → String
  | .double => "\""
  | .bytes q => q.toString
  | .raw q width => String.ofList (List.replicate width q)
  | .dollar tag => "$" ++ tag ++ "$"
  | _ => "'"

/-- Punctuation and built-in operators. -/
inductive Symbol where
  | comma | semicolon | lparen | rparen | lbracket | rbracket | lbrace | rbrace
  | period | colon | doubleColon | assign | backslash
  | eq | doubleEq | neq | lt | gt | ltEq | gtEq | spaceship | rightArrow
  | plus | minus | star | slash | doubleSlash | percent | caret | caretAt
  | pipe | concat | squareRoot | cubeRoot | ampersand | overlap
  | bang | doubleBang | notTilde | notTildeStar | notDoubleTilde | notDoubleTildeStar
  | tilde | tildeStar | doubleTilde | doubleTildeStar
  | shiftLeft | shiftRight | sharp | hashArrow | hashLongArrow | hashMinus
  | arrow | longArrow | at | atAt | atArrow | arrowAt | atQuestion
  | question | questionAnd | questionPipe
  deriving DecidableEq, Repr

/-- The written form of a symbol. -/
def Symbol.text : Symbol → String
  | .comma => "," | .semicolon => ";" | .lparen => "(" | .rparen => ")"
  | .lbracket => "[" | .rbracket => "]" | .lbrace => "\x7b" | .rbrace => "\x7d"
  | .period => "." | .colon => ":" | .doubleColon => "::" | .assign => ":="
  | .backslash => "\\"
  | .eq => "=" | .doubleEq => "==" | .neq => "<>" | .lt => "<" | .gt => ">"
  | .ltEq => "<=" | .gtEq => ">=" | .spaceship => "<=>" | .rightArrow => "=>"
  | .plus => "+" | .minus => "-" | .star => "*" | .slash => "/" | .doubleSlash => "//"
  | .percent => "%" | .caret => "^" | .caretAt => "^@"
  | .pipe => "|" | .concat => "||" | .squareRoot => "|/" | .cubeRoot => "||/"
  | .ampersand => "&" | .overlap => "&&"
  | .bang => "!" | .doubleBang => "!!" | .notTilde => "!~" | .notTildeStar => "!~*"
  | .notDoubleTilde => "!~~" | .notDoubleTildeStar => "!~~*"
  | .tilde => "~" | .tildeStar => "~*" | .doubleTilde => "~~" | .doubleTildeStar => "~~*"
  | .shiftLeft => "<<" | .shiftRight => ">>"
  | .sharp => "#" | .hashArrow => "#>" | .hashLongArrow => "#>>" | .hashMinus => "#-"
  | .arrow => "->" | .longArrow => "->>"
  | .at => "@" | .atAt => "@@" | .atArrow => "@>" | .arrowAt => "<@" | .atQuestion => "@?"
  | .question => "?" | .questionAnd => "?&" | .questionPipe => "?|"

/-- A token of an SQL text. White space and comments are none. -/
inductive Token where
  | word (w : Word)
  | number (digits : String) (long : Bool)
  | literal (kind : Literal) (text : String)
  | symbol (s : Symbol)
  /-- An operator spelled by the user. -/
  | operator (spelling : String)
  /-- A parameter of the statement, as `?1` or `$name`. -/
  | placeholder (spelling : String)
  /-- A character that belongs to no other token. -/
  | stray (c : Char)
  deriving DecidableEq, Repr

/-- A token as a message shows it. -/
def Token.text : Token → String
  | .word w => w.text
  | .number digits long => digits ++ (if long then "L" else "")
  | .literal kind text => kind.opening ++ text ++ kind.closing
  | .symbol s => s.text
  | .operator spelling => spelling
  | .placeholder spelling => spelling
  | .stray c => c.toString

/-- A token and the place of its first character. -/
structure Located where
  token : Token
  pos : Pos
  deriving DecidableEq, Repr

end EntityGen.Sql
