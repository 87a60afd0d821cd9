import NativeBridge.Value

/-!
The exact native shape of an entry point, and the check that a list of values
fits it before any native code runs.
-/

namespace NativeBridge

structure NativeSignature where
  params : List NativeType
  ret : NativeType
  convention : Convention := .c
  deriving DecidableEq, Inhabited, Repr

namespace NativeSignature

def display (s : NativeSignature) : String :=
  "extern \"" ++ s.convention.display ++ "\" fn(" ++ ", ".intercalate (s.params.map NativeType.name)
    ++ ") -> " ++ s.ret.name

def firstMismatch : Nat → List NativeType → List Value → Option (Nat × NativeType × Value)
  | _, [], _ | _, _, [] => none
  | i, t :: ts, v :: vs =>
    if v.nativeType? == some t ∧ t != .void then firstMismatch (i + 1) ts vs
    else some (i, t, v)

/-- Check arguments against the signature: the count first, then each value's
type in order. A `void` parameter accepts no value. -/
def check (s : NativeSignature) (member : String) (args : List Value) : Except Error Unit :=
  if s.params.length != args.length then
    .error (.argumentMismatch member ("native call expects " ++ toString s.params.length
      ++ " arguments, got " ++ toString args.length))
  else match firstMismatch 0 s.params args with
    | some (i, t, v) =>
      .error (.argumentMismatch member ("native argument " ++ toString i ++ " expects " ++ t.name
        ++ ", got " ++ v.kind))
    | none => .ok ()

end NativeSignature

end NativeBridge
