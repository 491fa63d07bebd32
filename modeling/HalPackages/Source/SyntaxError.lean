import HalPackages.QualifiedName.Written
import HalPackages.Source.Piece

/-!
# Why a text is no source

Every way in which a text can fail to be a HAL source, and what the user is told
about it.
-/

namespace HalPackages

/-- What is wrong with a source. -/
inductive SyntaxProblem where
  | unexpectedText (text : String)
  | unterminatedComment
  | unexpectedToken (expected found : TokenKind)
  | unexpectedEnd (expected : TokenKind)
  | badName (cause : NameError)
  | notAPackage
  | notADeclaration (found : TokenKind)
  | notSimple (text : String)
  | secondInterface
  | nestedInterface
  | redefinition (name : String)
  | enumWithoutBody
  | unterminatedTypedef
  | unnamedTypedef
  | openBody
  | openMember
  | openGroup
  | unbalanced (bracket : Bracket)
deriving DecidableEq

/-- A problem in the words of an error message. -/
def SyntaxProblem.message : SyntaxProblem → String
  | unexpectedText text => "unexpected character '" ++ text ++ "'"
  | unterminatedComment => "unterminated comment"
  | unexpectedToken expected found =>
    "expected " ++ expected.describe ++ ", found " ++ found.describe
  | unexpectedEnd expected => "expected " ++ expected.describe ++ ", found end of file"
  | badName cause => cause.message
  | notAPackage => "expected a package name of the form pkg@M.m"
  | notADeclaration found => "expected a declaration, found " ++ found.describe
  | notSimple text => "expected a simple identifier, found '" ++ text ++ "'"
  | secondInterface => "a file may declare only one interface"
  | nestedInterface => "interfaces cannot be nested"
  | redefinition name => "redefinition of '" ++ name ++ "'"
  | enumWithoutBody => "expected '\x7b' after enum header"
  | unterminatedTypedef => "unterminated typedef"
  | unnamedTypedef => "typedef must end with the new type name"
  | openBody => "unexpected end of file, expected '\x7d'"
  | openMember => "unexpected end of file inside a declaration body"
  | openGroup => "unexpected end of file, unbalanced brackets"
  | unbalanced bracket => "unbalanced " ++ (TokenKind.closing bracket).describe

/-- A problem at a place among the tokens: at the bytes of one of them or at the end of the text. -/
structure Rejection where
  place : Option Span
  problem : SyntaxProblem
deriving DecidableEq

/-- A problem at a token. -/
def Token.reject (token : Token) (problem : SyntaxProblem) : Rejection :=
  ⟨some token.span, problem⟩

/-- A problem that is noticed when the tokens run out. -/
def Rejection.atEnd (problem : SyntaxProblem) : Rejection :=
  ⟨none, problem⟩

/-- A problem at a position of a text. -/
structure SyntaxError where
  position : Position
  problem : SyntaxProblem
deriving DecidableEq

/-- The offset in a text that a rejection points to.  In a text of less than 4 GiB it has room in
32 bits. -/
def Rejection.offset (rejection : Rejection) (text : String) : Nat :=
  match rejection.place with
  | some span => span.start
  | none => byteLength text.toList

/-- Where in a text a rejection has its place. -/
def Rejection.locate (rejection : Rejection) (text : String) : SyntaxError :=
  ⟨(LineIndex.ofText text).position (rejection.offset text), rejection.problem⟩

/-- Text that belongs to no token is a comment without an end or an unexpected character. -/
def BadText.rejection (bad : BadText) : Rejection :=
  ⟨some bad.span,
    if ['/', '*'].isPrefixOf bad.text.toList then .unterminatedComment
    else .unexpectedText bad.text⟩

end HalPackages
