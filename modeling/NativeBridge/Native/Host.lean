import NativeBridge.Host
import NativeBridge.Native.Catalog

/-!
The process as the host of a binding.

Symbols resolve to catalog functions: through the table, or, for the C library,
to the few of its functions a binding may call. Every lookup is counted, found
or not. A call runs the function on the process.
-/

namespace NativeBridge.Native

def State.resolve (symbol : String) (s : State) : Except String NativeFunction × State :=
  let s := { s with lookups := s.lookups + 1 }
  match s.symbols with
  | .table entries =>
    match (entries.lookup symbol).bind NativeFunction.find? with
    | some f => (.ok f, s)
    | none => (.error "not present in symbol table", s)
  | .cLibrary =>
    match NativeFunction.findInCLibrary? symbol with
    | some f => (.ok f, s)
    | none => (.error "<dlerror>", s)

/-- The process as a binding sees it. -/
def host : Host State NativeFunction where
  allocate := State.allocate
  release := State.release
  load p n s := s.memory.load p n
  readable p n s := s.memory.readable p n
  store := State.store
  cString p s := s.memory.cString p
  resolve := State.resolve
  invoke f _ args s := f.call args s
  note := State.note

end NativeBridge.Native
