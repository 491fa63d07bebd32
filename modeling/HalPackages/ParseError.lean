import HalPackages.Path
import HalPackages.Source.Position

/-!
# Why a file gives no document
-/

namespace HalPackages

/-- A file that is not there, cannot be read or is not written correctly. -/
inductive ParseError where
  | missing (path : Path)
  | unreadable (path : Path) (reason : String)
  | malformed (path : Path) (position : Position) (message : String)
deriving DecidableEq

namespace ParseError

/-- What a parse error tells the user. -/
def message : ParseError → String
  | missing path => path.text ++ ": file does not exist or is not readable"
  | unreadable path reason => path.text ++ ": " ++ reason
  | malformed path position message =>
    path.text ++ ":" ++ position.render ++ ": " ++ message

/-- The file that is at fault. -/
def path : ParseError → Path
  | missing path | unreadable path _ | malformed path _ _ => path

/-- The place in the file, where the file's text is at fault. -/
def position? : ParseError → Option Position
  | malformed _ position _ => some position
  | _ => none

end ParseError

end HalPackages
