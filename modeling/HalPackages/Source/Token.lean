import HalPackages.Source.Position

/-!
# Tokens

The words and signs of a HAL source.  A token keeps the text it stands for and
the bytes of the source it covers.
-/

namespace HalPackages

/-- The reserved words. -/
inductive Keyword where
  | package
  | imports
  | interface
  | extending
  | struct
  | union
  | enum
  | typedef
deriving DecidableEq

namespace Keyword

/-- How a reserved word is written. -/
def spelling : Keyword → String
  | package => "package"
  | imports => "import"
  | interface => "interface"
  | extending => "extends"
  | struct => "struct"
  | union => "union"
  | enum => "enum"
  | typedef => "typedef"

/-- Every reserved word. -/
def all : List Keyword := [package, imports, interface, extending, struct, union, enum, typedef]

/-- The reserved word with a given spelling. -/
def ofSpelling? (text : List Char) : Option Keyword :=
  all.find? fun keyword => keyword.spelling.toList = text

end Keyword

/-- The three kinds of brackets that have to be balanced. -/
inductive Bracket where
  | brace
  | paren
  | square
deriving DecidableEq

/-- The opening sign of a bracket. -/
def Bracket.opener : Bracket → Char
  | brace => '{'
  | paren => '('
  | square => '['

/-- The closing sign of a bracket. -/
def Bracket.closer : Bracket → Char
  | brace => '}'
  | paren => ')'
  | square => ']'

/-- What sort of word or sign a token is. -/
inductive TokenKind where
  | keyword (keyword : Keyword)
  | name
  | atWord
  | number
  | string
  | opening (bracket : Bracket)
  | closing (bracket : Bracket)
  | leftAngle
  | rightAngle
  | semicolon
  | colon
  | comma
  | equals
  | operator
deriving DecidableEq

/-- A kind of token in the words of an error message. -/
def TokenKind.describe : TokenKind → String
  | keyword word => "'" ++ word.spelling ++ "'"
  | name => "name"
  | atWord => "annotation"
  | number => "number"
  | string => "string literal"
  | opening bracket => "'" ++ bracket.opener.toString ++ "'"
  | closing bracket => "'" ++ bracket.closer.toString ++ "'"
  | leftAngle => "'<'"
  | rightAngle => "'>'"
  | semicolon => "';'"
  | colon => "':'"
  | comma => "','"
  | equals => "'='"
  | operator => "operator"

/-- A word or sign of a source text. -/
structure Token where
  kind : TokenKind
  text : String
  span : Span
deriving DecidableEq

end HalPackages
