/-!
What can go wrong while generating a binding or calling through one.

`configuration` is the only error of generation time: it aborts building a
binding type. A missing symbol is raised at activation for eager bindings and
at the first call for lazy ones; the rest are raised by calls.
-/

namespace NativeBridge

/-- Errors of generation and of calls. -/
inductive Error where
  | configuration (member message : String)
  | symbolNotFound (symbol member reason : String)
  | disposedAccess (interface member : String)
  | marshalling (member message : String)
  | argumentMismatch (member message : String)
  | unknownMember (interface member : String)
  | generic (message : String)
  deriving DecidableEq, Inhabited, Repr

namespace Error

def message : Error → String
  | .configuration member msg => "configuration error in `" ++ member ++ "`: " ++ msg
  | .symbolNotFound symbol member reason =>
    "native symbol `" ++ symbol ++ "` for member `" ++ member ++ "` not found: " ++ reason
  | .disposedAccess interface member =>
    "`" ++ interface ++ "::" ++ member ++ "` called after the binding was disposed"
  | .marshalling member msg => "marshalling failure in `" ++ member ++ "`: " ++ msg
  | .argumentMismatch member msg => "argument mismatch calling `" ++ member ++ "`: " ++ msg
  | .unknownMember interface member => "interface `" ++ interface ++ "` has no member `" ++ member ++ "`"
  | .generic msg => msg

def kind : Error → String
  | .configuration .. => "Configuration"
  | .symbolNotFound .. => "SymbolNotFound"
  | .disposedAccess .. => "DisposedAccess"
  | .marshalling .. => "Marshalling"
  | .argumentMismatch .. => "ArgumentMismatch"
  | .unknownMember .. => "UnknownMember"
  | .generic _ => "Generic"

def isGenerationTime : Error → Bool
  | .configuration .. => true
  | _ => false

def attributeTo (stage : String) : Error → Error
  | .configuration member msg =>
    if msg.startsWith "[" then .configuration member msg
    else .configuration member ("[" ++ stage ++ "] " ++ msg)
  | e => e

end Error

end NativeBridge
