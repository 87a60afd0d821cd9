/-!
Buffers owned by one call activation.

A buffer is either owned, and released when the activation ends, or in
transfer: handed to native code, and released at the end only if the native
call never completed. Committing after the call gives the transferred buffers
away. Null is never recorded.
-/

namespace NativeBridge

/-- The buffers of one activation, in the order they were recorded. -/
structure Scratch where
  owned : List UInt64 := []
  transferring : List UInt64 := []
  deriving DecidableEq, Inhabited, Repr

namespace Scratch

def track (s : Scratch) (p : UInt64) : Scratch :=
  if p == 0 then s else { s with owned := s.owned ++ [p] }

def transfer (s : Scratch) (p : UInt64) : Scratch :=
  if p == 0 then s else { s with transferring := s.transferring ++ [p] }

def commit (s : Scratch) : Scratch := { s with transferring := [] }

def tracked (s : Scratch) : Nat := s.owned.length + s.transferring.length

def pending (s : Scratch) : List UInt64 := s.owned ++ s.transferring

@[simp]
theorem track_zero (s : Scratch) : s.track 0 = s := by simp [track]

@[simp]
theorem transfer_zero (s : Scratch) : s.transfer 0 = s := by simp [transfer]

theorem pending_track (s : Scratch) {p : UInt64} (hp : p ≠ 0) :
    (s.track p).pending = s.owned ++ p :: s.transferring := by
  simp [track, pending, hp]

theorem pending_transfer (s : Scratch) {p : UInt64} (hp : p ≠ 0) :
    (s.transfer p).pending = s.pending ++ [p] := by
  simp [transfer, pending, hp]

@[simp]
theorem pending_commit (s : Scratch) : s.commit.pending = s.owned := by simp [commit, pending]

theorem tracked_eq_length_pending (s : Scratch) : s.tracked = s.pending.length := by
  simp [tracked, pending]

theorem zero_not_mem_pending_track {s : Scratch} (h : 0 ∉ s.pending) (p : UInt64) :
    0 ∉ (s.track p).pending := by
  by_cases hp : p = 0
  · simpa [hp] using h
  · rw [pending_track s hp]
    simp only [pending, List.mem_append, not_or] at h
    simp [h.1, h.2, Ne.symm hp]

end Scratch

end NativeBridge
