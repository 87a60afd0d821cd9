import NativeBridge.Native.Signature
import NativeBridge.Native.Codec
import NativeBridge.Native.Scratch

/-!
The process a binding runs in, seen only through what a binding asks of it.

`Host σ ε` lets a binding allocate and release buffers, read and write their
bytes, tell whether bytes lie inside an object, look up a symbol as an entry
`ε`, call an entry with arguments that fit its signature, and leave a note in a
trace. `σ` is the state of the process.
A call runs in `Call`, which keeps that state, the scratch buffers of the
current activation and the entries of the instance being called, also when it
fails.
-/

namespace NativeBridge

/-- What a binding needs from the process it runs in. -/
structure Host (σ ε : Type) where
  allocate : Nat → σ → UInt64 × σ
  release : UInt64 → σ → σ
  load : UInt64 → Nat → σ → List UInt8
  readable : UInt64 → Nat → σ → Bool
  store : UInt64 → List UInt8 → σ → σ
  cString : UInt64 → σ → List UInt8
  resolve : String → σ → Except String ε × σ
  invoke : ε → NativeSignature → List Value → σ → Value × σ
  note : String → σ → σ

structure CallState (σ ε : Type) where
  world : σ
  scratch : Scratch := {}
  slots : List (Option ε) := []

/-- A computation of a call: it may fail, and keeps its state either way. -/
abbrev Call (σ ε : Type) := ExceptT Error (StateM (CallState σ ε))

namespace Call

def world (f : σ → σ) : Call σ ε Unit := modify fun s => { s with world := f s.world }

def ask (f : σ → α × σ) : Call σ ε α := do
  let s ← get
  let (a, w) := f s.world
  set { s with world := w }
  pure a

def look (f : σ → α) : Call σ ε α := do pure (f (← get).world)

def scratch (f : Scratch → Scratch) : Call σ ε Unit :=
  modify fun s => { s with scratch := f s.scratch }

def releaseAll (host : Host σ ε) : List UInt64 → Call σ ε Unit
  | [] => pure ()
  | p :: ps => do world (host.release p); releaseAll host ps

def activation (host : Host σ ε) (body : Call σ ε α) : Call σ ε α := do
  let outer := (← get).scratch
  modify fun s => { s with scratch := {} }
  let r ← tryCatch (Except.ok <$> body) (fun e => pure (.error e))
  let inner := (← get).scratch
  releaseAll host inner.pending
  modify fun s => { s with scratch := outer }
  match r with
  | .ok a => pure a
  | .error e => throw e

def run (x : Call σ ε α) (w : σ) (slots : List (Option ε) := []) : Except Error α × σ × List (Option ε) :=
  let (r, s) := (ExceptT.run x).run { world := w, slots }
  (r, s.world, s.slots)

end Call

end NativeBridge
