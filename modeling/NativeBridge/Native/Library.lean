import NativeBridge.Native.Exports
import NativeBridge.Native.State
import NativeBridge.Error
import NativeBridge.Text.Quote

/-!
Opening shared libraries by path.

The empty path opens the process itself; any other path is handed to the dynamic
loader, which opens a shared object or reports why it could not, and the failure
names the path that was asked for.
-/

namespace NativeBridge.Native

/-- An opened library, known by the path it was opened with. -/
structure Library where
  name : String
  deriving DecidableEq, Inhabited, Repr

namespace Library

def load (path : String) : Except Error Library :=
  let fail (detail : String) : Except Error Library :=
    .error (.generic ("failed to load library '" ++ path ++ "': " ++ detail))
  match cName? path with
  | .error f => fail f.message
  | .ok name =>
    if name.isEmpty then .ok ⟨path⟩
    else match loaderFailure? name with
      | none => .ok ⟨path⟩
      | some (tried, reason) => fail (tried ++ ": " ++ reason)

def describe (l : Library) : String := "library '" ++ l.name ++ "'"

def debug (l : Library) : String := "DynamicLibrary \x7b name: " ++ Text.debugQuote l.name ++ " \x7d"

def cLibrary : Library := ⟨Symbols.cLibraryName⟩

def has (_ : Library) (symbol : String) : Bool := cLibraryExports symbol

end Library

end NativeBridge.Native
