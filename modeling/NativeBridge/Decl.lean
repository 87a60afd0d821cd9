import NativeBridge.Types
import NativeBridge.Error

/-!
Declarations of the interfaces a binding implements.

A member declares its parameters and return value with their types and
ownership, and may override the exported symbol it binds to (its own name by
default) and the calling convention (C by default). `MemberDecl.validate`
rejects declarations that no adapter can honour; `InterfaceDecl.validate` also
rejects a member declared twice.
-/

namespace NativeBridge

structure ParamDecl where
  name : String
  ty : TypeRef
  ownership : Ownership := .nativeFrees
  deriving DecidableEq, Inhabited, Repr

structure ReturnDecl where
  ty : TypeRef := .native .void
  ownership : Ownership := .nativeFrees
  deriving DecidableEq, Inhabited, Repr

/-- One interface method with its native-call metadata. -/
structure MemberDecl where
  name : String
  params : List ParamDecl := []
  ret : ReturnDecl := {}
  symbol : Option String := none
  convention : Option Convention := none
  deriving DecidableEq, Inhabited, Repr

namespace MemberDecl

def symbolName (m : MemberDecl) : String := m.symbol.getD m.name

def callingConvention (m : MemberDecl) : Convention := m.convention.getD .c

def types (m : MemberDecl) : List TypeRef := m.params.map (·.ty) ++ [m.ret.ty]

def isDirectlyPassable (m : MemberDecl) : Bool := m.types.all TypeRef.isDirectlyPassable

def signature (m : MemberDecl) : String :=
  m.name ++ "(" ++ ", ".intercalate (m.params.map fun p => p.name ++ ": " ++ p.ty.display) ++ ") -> "
    ++ m.ret.ty.display

def paramFault? : List String → List ParamDecl → Option String
  | _, [] => none
  | seen, p :: ps =>
    if seen.contains p.name then some ("parameter `" ++ p.name ++ "` is declared twice")
    else if p.ty.isVoid then some ("parameter `" ++ p.name ++ "` has type void")
    else if p.ownership.byCaller && !p.ty.isBufferShaped then
      some ("parameter `" ++ p.name ++ "` of type " ++ p.ty.display ++ " cannot be annotated caller-frees")
    else paramFault? (p.name :: seen) ps

/-- The first reason the member cannot be bound, if any. -/
def fault? (m : MemberDecl) : Option (String × String) :=
  if m.name.isEmpty then some ("<unnamed>", "member name is empty")
  else if m.symbolName.isEmpty then some (m.name, "native symbol name is empty")
  else if !m.callingConvention.isSupported then
    some (m.name, "calling convention " ++ m.callingConvention.display ++ " is not supported on this target")
  else match paramFault? [] m.params with
    | some msg => some (m.name, msg)
    | none =>
      if m.ret.ownership.byCaller && !m.ret.ty.isBufferShaped then
        some (m.name, "return type " ++ m.ret.ty.display ++ " cannot be annotated caller-frees")
      else if m.types.any (fun t => t == .nullable .void) then
        some (m.name, "nullable void is not a value type")
      else none

def validate (m : MemberDecl) : Except Error Unit :=
  match m.fault? with
  | some (member, msg) => .error (.configuration member msg)
  | none => .ok ()

end MemberDecl

structure InterfaceDecl where
  name : String
  members : List MemberDecl := []
  deriving DecidableEq, Inhabited, Repr

namespace InterfaceDecl

def find? (d : InterfaceDecl) (name : String) : Option (Nat × MemberDecl) :=
  (d.members.zipIdx.find? (·.1.name == name)).map fun (m, i) => (i, m)

def validateFrom (interface : String) : List String → List MemberDecl → Except Error Unit
  | _, [] => .ok ()
  | seen, m :: ms =>
    if seen.contains m.name then
      .error (.configuration m.name ("member is declared twice in interface `" ++ interface ++ "`"))
    else do
      m.validate
      validateFrom interface (m.name :: seen) ms

def validate (d : InterfaceDecl) : Except Error Unit := validateFrom d.name [] d.members

end InterfaceDecl

end NativeBridge
