import NativeBridge.Native.Memory

/-!
The state of the process a binding calls into: its memory, what its allocators
have done, the symbols it offers, a call counter and a trace.

Two allocators share the heap. The binding's allocator can be told to fail: with
a limit `n`, its `k`-th request (counting from one, failed ones included) fails
when `k > n`. Native code allocates on its own and never fails. A release of a
live block's start frees it; any other release frees nothing and is counted as
a bad release.
-/

namespace NativeBridge.Native

structure Counters where
  allocs : Nat := 0
  failedAllocs : Nat := 0
  frees : Nat := 0
  badFrees : Nat := 0
  nativeAllocs : Nat := 0
  nativeFrees : Nat := 0
  nativeBadFrees : Nat := 0
  deriving DecidableEq, Inhabited, Repr

/-- Where symbols are looked up: a table from symbol to catalog function, or the
C library. -/
inductive Symbols where
  | table (entries : List (String × String))
  | cLibrary
  deriving DecidableEq, Inhabited, Repr

namespace Symbols

def cLibraryName : String := "libc.so.6"

def describe : Symbols → String
  | .table entries => "symbol table (" ++ toString entries.length ++ " entries)"
  | .cLibrary => "library '" ++ cLibraryName ++ "'"

def publish (s : Symbols) (symbol fn : String) : Symbols :=
  match s with
  | .table entries =>
    if entries.any (·.1 == symbol) then
      .table (entries.map fun e => if e.1 == symbol then (symbol, fn) else e)
    else .table (entries ++ [(symbol, fn)])
  | .cLibrary => .cLibrary

def unpublish (s : Symbols) (symbol : String) : Symbols :=
  match s with
  | .table entries => .table (entries.filter (·.1 != symbol))
  | .cLibrary => .cLibrary

def lookup? : Symbols → String → Option String
  | .table entries, symbol => entries.lookup symbol
  | .cLibrary, _ => none

theorem lookup_replace (entries : List (String × String)) (k f : String)
    (h : entries.any (·.1 == k) = true) :
    (entries.map fun e => if e.1 == k then (k, f) else e).lookup k = some f := by
  induction entries with
  | nil => simp at h
  | cons e es ih =>
    obtain ⟨a, b⟩ := e
    by_cases hk : a = k
    · subst hk; simp
    · have h' : es.any (·.1 == k) = true := by simpa [hk] using h
      have hne : (k == a) = false := by simpa using Ne.symm hk
      simpa [List.lookup_cons, hk, hne] using ih h'

theorem lookup_append_fresh (entries : List (String × String)) (k f : String)
    (h : entries.any (·.1 == k) = false) :
    (entries ++ [(k, f)]).lookup k = some f := by
  induction entries with
  | nil => simp
  | cons e es ih =>
    obtain ⟨a, b⟩ := e
    have hk : a ≠ k := by intro hk; subst hk; simp at h
    have h' : es.any (·.1 == k) = false := by simpa [hk] using h
    have hne : (k == a) = false := by simpa using Ne.symm hk
    simpa [List.lookup_cons, hne] using ih h'

@[simp]
theorem lookup?_publish_self (entries : List (String × String)) (k f : String) :
    ((Symbols.table entries).publish k f).lookup? k = some f := by
  cases h : entries.any (·.1 == k)
  · simpa [publish, lookup?, h] using lookup_append_fresh entries k f h
  · simpa [publish, lookup?, h] using lookup_replace entries k f h

theorem lookup_filter_self (entries : List (String × String)) (k : String) :
    (entries.filter (·.1 != k)).lookup k = none := by
  induction entries with
  | nil => rfl
  | cons e es ih =>
    obtain ⟨a, b⟩ := e
    by_cases hk : a = k
    · subst hk; simpa [List.filter] using ih
    · have hne : (k == a) = false := by simpa using Ne.symm hk
      have hf : (a != k) = true := by simpa using hk
      simp only [List.filter, hf, List.lookup_cons, hne]
      exact ih

@[simp]
theorem lookup?_unpublish_self (s : Symbols) (k : String) : (s.unpublish k).lookup? k = none := by
  cases s with
  | table entries => simpa [unpublish, lookup?] using lookup_filter_self entries k
  | cLibrary => rfl

def ofPairs (pairs : List (String × String)) : Symbols :=
  pairs.foldl (fun s (k, v) => s.publish k v) (.table [])

end Symbols

/-- The state of the process. -/
structure State where
  memory : Memory := {}
  counters : Counters := {}
  failAfter : Option Nat := none
  attempts : Nat := 0
  ticks : UInt32 := 0
  lookups : Nat := 0
  trace : List String := []
  symbols : Symbols := .table []
  deriving DecidableEq, Inhabited, Repr

namespace State

def init (failAfter : Option Nat) (symbols : Symbols) : State := { failAfter, symbols }

def count (s : State) (f : Counters → Counters) : State := { s with counters := f s.counters }

def allocate (size : Nat) (s : State) : UInt64 × State :=
  let k := s.attempts + 1
  let s := { s with attempts := k }
  if s.failAfter.any (k > ·) then (0, s.count fun c => { c with failedAllocs := c.failedAllocs + 1 })
  else
    let (p, m) := s.memory.reserve size
    (p, { s with memory := m }.count fun c => { c with allocs := c.allocs + 1 })

def release (p : UInt64) (s : State) : State :=
  if s.memory.isLiveStart p then
    { s with memory := s.memory.retire p }.count fun c => { c with frees := c.frees + 1 }
  else s.count fun c => { c with badFrees := c.badFrees + 1 }

def nativeAllocate (bytes : List UInt8) (s : State) : UInt64 × State :=
  let (p, m) := s.memory.reserve bytes.length
  (p, { s with memory := m.store p bytes }.count fun c => { c with nativeAllocs := c.nativeAllocs + 1 })

def nativeRelease (p : UInt64) (s : State) : State :=
  if s.memory.isLiveStart p then
    { s with memory := s.memory.retire p }.count fun c => { c with nativeFrees := c.nativeFrees + 1 }
  else s.count fun c => { c with nativeBadFrees := c.nativeBadFrees + 1 }

def store (p : UInt64) (bytes : List UInt8) (s : State) : State :=
  { s with memory := s.memory.store p bytes }

def note (line : String) (s : State) : State := { s with trace := s.trace ++ [line] }

def live (s : State) : Nat := s.memory.liveCount

end State

end NativeBridge.Native
