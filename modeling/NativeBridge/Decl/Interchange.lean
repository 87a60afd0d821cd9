import NativeBridge.Decl
import NativeBridge.Json.Codec

/-!
Declarations as JSON text, through a JSON codec.

The document of a declaration follows its attributes: fields in declaration order, an absent
symbol or convention left out, variants under their renamed keys, a type key as a bare string.
A declaration's reader is built from the codec's readers of records, variants, arrays and options,
with defaults for what is left out: no parameters, a `void` return, native-frees ownership, no
symbol or convention.
-/

namespace NativeBridge

open Json

namespace TypeRef

def toJson : TypeRef → Json
  | .native t => .obj [("native", .str t.key)]
  | .nullable t => .obj [("nullable", .str t.key)]
  | .named k => .obj [("named", .str k)]

end TypeRef

def ParamDecl.toJson (p : ParamDecl) : Json :=
  .obj [("name", .str p.name), ("ty", p.ty.toJson), ("ownership", .str p.ownership.key)]

def ReturnDecl.toJson (r : ReturnDecl) : Json :=
  .obj [("ty", r.ty.toJson), ("ownership", .str r.ownership.key)]

/-- The JSON form of a member; an absent symbol or convention is left out. -/
def MemberDecl.toJson (m : MemberDecl) : Json :=
  .obj ([("name", .str m.name), ("params", .arr (m.params.map ParamDecl.toJson)),
      ("ret", m.ret.toJson)]
    ++ (m.symbol.map fun s => [("symbol", Json.str s)]).getD []
    ++ (m.convention.map fun conv => [("convention", Json.str conv.key)]).getD [])

def InterfaceDecl.toJson (d : InterfaceDecl) : Json :=
  .obj [("name", .str d.name), ("members", .arr (d.members.map MemberDecl.toJson))]

def InterfaceDecl.render (c : Codec) (d : InterfaceDecl) : String := c.writePretty d.toJson

namespace Interchange

variable (c : Codec)

def unitEnum (all : List α) (key : α → String) [Inhabited α] : c.Reader α := do
  let k ← c.unitVariant (all.map key)
  pure all[k]!

def nativeType : c.Reader NativeType := unitEnum c NativeType.all NativeType.key

def ownership : c.Reader Ownership := unitEnum c [.nativeFrees, .callerFrees] Ownership.key

def convention : c.Reader Convention := unitEnum c Convention.all Convention.key

def typeRef : c.Reader TypeRef :=
  c.dataVariant ["native", "nullable", "named"] fun k => match k with
    | 0 => return .native (← nativeType c)
    | 1 => return .nullable (← nativeType c)
    | _ => return .named (← c.string)

structure ParamFields where
  name : Option String := none
  ty : Option TypeRef := none
  ownership : Option Ownership := none

def param : c.Reader ParamDecl := c.record {
  name := "struct ParamDecl"
  fields := ["name", "ty", "ownership"]
  start := ({} : ParamFields)
  given := fun k s => match k with
    | 0 => s.name.isSome
    | 1 => s.ty.isSome
    | _ => s.ownership.isSome
  field := fun k s => match k with
    | 0 => return { s with name := some (← c.string) }
    | 1 => return { s with ty := some (← typeRef c) }
    | _ => return { s with ownership := some (← ownership c) }
  required := fun k => k < 2
  finish := fun s => match s.name, s.ty with
    | none, _ => .error (.missingField "name")
    | _, none => .error (.missingField "ty")
    | some n, some t => .ok { name := n, ty := t, ownership := s.ownership.getD .nativeFrees } }

structure ReturnFields where
  ty : Option TypeRef := none
  ownership : Option Ownership := none

def ret : c.Reader ReturnDecl := c.record {
  name := "struct ReturnDecl"
  fields := ["ty", "ownership"]
  start := ({} : ReturnFields)
  given := fun k s => match k with
    | 0 => s.ty.isSome
    | _ => s.ownership.isSome
  field := fun k s => match k with
    | 0 => return { s with ty := some (← typeRef c) }
    | _ => return { s with ownership := some (← ownership c) }
  required := fun k => k < 1
  finish := fun s => match s.ty with
    | none => .error (.missingField "ty")
    | some t => .ok { ty := t, ownership := s.ownership.getD .nativeFrees } }

structure MemberFields where
  name : Option String := none
  params : Option (List ParamDecl) := none
  ret : Option ReturnDecl := none
  symbol : Option (Option String) := none
  convention : Option (Option Convention) := none

def member : c.Reader MemberDecl := c.record {
  name := "struct MemberDecl"
  fields := ["name", "params", "ret", "symbol", "convention"]
  start := ({} : MemberFields)
  given := fun k s => match k with
    | 0 => s.name.isSome
    | 1 => s.params.isSome
    | 2 => s.ret.isSome
    | 3 => s.symbol.isSome
    | _ => s.convention.isSome
  field := fun k s => match k with
    | 0 => return { s with name := some (← c.string) }
    | 1 => return { s with params := some (← c.list (param c)) }
    | 2 => return { s with ret := some (← ret c) }
    | 3 => return { s with symbol := some (← c.option c.string) }
    | _ => return { s with convention := some (← c.option (convention c)) }
  required := fun k => k < 1
  finish := fun s => match s.name with
    | none => .error (.missingField "name")
    | some n =>
      .ok ⟨n, s.params.getD [], s.ret.getD ({} : ReturnDecl), s.symbol.getD none, s.convention.getD none⟩ }

structure InterfaceFields where
  name : Option String := none
  members : Option (List MemberDecl) := none

def interface : c.Reader InterfaceDecl := c.record {
  name := "struct InterfaceDecl"
  fields := ["name", "members"]
  start := ({} : InterfaceFields)
  given := fun k s => match k with
    | 0 => s.name.isSome
    | _ => s.members.isSome
  field := fun k s => match k with
    | 0 => return { s with name := some (← c.string) }
    | _ => return { s with members := some (← c.list (member c)) }
  required := fun k => k < 1
  finish := fun s => match s.name with
    | none => .error (.missingField "name")
    | some n => .ok { name := n, members := s.members.getD [] } }

end Interchange

/-- Read an interface from JSON text; a failure is a generic error carrying the
reader's message. -/
def InterfaceDecl.ofJson (c : Codec) (text : String) : Except Error InterfaceDecl :=
  (c.run (Interchange.interface c) text).mapError .generic

end NativeBridge
