import NativeBridge.Decl
import NativeBridge.Value

/-!
Typed interfaces: members declared with the types of the calling side.

Each parameter and result has a host type; the declaration follows from them,
with the default ownership. A call passes each argument as its value and converts
the result back to the member's result type. `calculator` is such an interface.
-/

namespace NativeBridge

structure TypedMember where
  name : String
  symbol : Option String := none
  params : List (String × HostType) := []
  ret : HostType := .prim .void
  deriving DecidableEq, Inhabited, Repr

def TypedMember.decl (m : TypedMember) : MemberDecl :=
  { name := m.name, params := m.params.map fun (n, t) => { name := n, ty := t.typeRef },
    ret := { ty := m.ret.typeRef }, symbol := m.symbol }

def HostType.Args : List HostType → Type
  | [] => Unit
  | h :: hs => h.Carrier × HostType.Args hs

def HostType.argValues : (hs : List HostType) → HostType.Args hs → List Value
  | [], () => []
  | h :: hs, (x, xs) => h.intoValue x :: argValues hs xs

def TypedMember.arguments (m : TypedMember) (xs : HostType.Args (m.params.map (·.2))) : List Value :=
  HostType.argValues _ xs

/-- An interface of typed members. -/
structure TypedInterface where
  name : String
  members : List TypedMember
  deriving DecidableEq, Inhabited, Repr

namespace TypedInterface

def declaration (t : TypedInterface) : InterfaceDecl := ⟨t.name, t.members.map TypedMember.decl⟩

def member? (t : TypedInterface) (name : String) : Option TypedMember := t.members.find? (·.name == name)

end TypedInterface

def calculator : TypedInterface := ⟨"Calculator", [
  { name := "multiply", symbol := some "calc_multiply", params := [("a", .prim .i32), ("b", .prim .i32)],
    ret := .prim .i32 },
  { name := "halve", params := [("value", .optional .f64)], ret := .optional .f64 },
  { name := "describe", params := [("code", .prim .u8)], ret := .string },
  { name := "reset" },
  { name := "is_null", params := [("p", .prim .pointer)], ret := .prim .bool },
  { name := "widen", params := [("v", .optional .u8)], ret := .optional .u64 }]⟩

end NativeBridge
