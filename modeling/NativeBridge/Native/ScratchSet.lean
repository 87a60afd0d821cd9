import NativeBridge.Native.State
import NativeBridge.Native.Scratch

/-!
A set of scratch buffers driven by hand over the binding's allocator: buffers
are allocated, then tracked, transferred or committed by their allocation
number, and whatever the set still holds is released when it is dropped.
-/

namespace NativeBridge.Native

inductive ScratchStep where
  | alloc (size : Nat)
  | track (k : Nat)
  | transfer (k : Nat)
  | commit
  | tracked
  deriving DecidableEq, Inhabited, Repr

inductive ScratchAnswer where
  | allocated (ok : Bool)
  | done
  | count (n : Nat)
  deriving DecidableEq, Inhabited, Repr

/-- A scratch set with the buffers allocated so far, null ones included. -/
structure ScratchSet where
  process : State
  scratch : Scratch := {}
  buffers : List UInt64 := []
  deriving DecidableEq, Inhabited, Repr

namespace ScratchSet

def step (r : ScratchSet) : ScratchStep → Option (ScratchAnswer × ScratchSet)
  | .alloc size =>
    let (p, process) := r.process.allocate size
    some (.allocated (p != 0), { r with process, buffers := r.buffers ++ [p] })
  | .track k => r.buffers[k]?.map fun p => (.done, { r with scratch := r.scratch.track p })
  | .transfer k => r.buffers[k]?.map fun p => (.done, { r with scratch := r.scratch.transfer p })
  | .commit => some (.done, { r with scratch := r.scratch.commit })
  | .tracked => some (.count r.scratch.tracked, r)

def drop (r : ScratchSet) : State := r.scratch.pending.foldl (fun s p => s.release p) r.process

end ScratchSet

end NativeBridge.Native
