/-!
The memory of the process a binding calls into.

Three kinds of memory can be addressed:

* the arena, a zeroed block of 8192 bytes that nothing ever writes;
* the statics, a few fixed objects of the process;
* the heap, blocks handed out by allocation. A block of `size` bytes reserves
  `size + 16` zeroed bytes, so that a wide read or a string scan just past its
  end reads zeros, but only its first `max size 1` bytes count as its region.
  A released block keeps its bytes and is no longer live; addresses are never
  handed out twice.

Reading a region means reading inside the arena, a live block's region or a
static. A raw read sees every byte of every block, live or not, and zeros
elsewhere.
-/

namespace NativeBridge.Native

def arenaBase : UInt64 := 0x10000

def arenaSize : Nat := 8192

def heapBase : UInt64 := 0x100000

def slack : Nat := 16

structure Static where
  base : UInt64
  bytes : List UInt8
  deriving DecidableEq, Inhabited, Repr

def cBytes (s : String) : List UInt8 := s.toUTF8.toList ++ [0]

def statics : List Static :=
  [⟨0x20000, [0xED, 0x5E, 0, 0]⟩, ⟨0x20100, [0, 0, 0, 0, 0, 0, 0xE0, 0x3F]⟩, ⟨0x20200, [7, 0, 0, 0]⟩,
   ⟨0x20300, cBytes "ferrobind"⟩, ⟨0x20400, [0xFF, 0xFE, 0]⟩, ⟨0x20500, cBytes "ok"⟩,
   ⟨0x20600, cBytes "failed"⟩]

def optionalValue : UInt64 := 0x20000
def half : UInt64 := 0x20100
def seven : UInt64 := 0x20200
def libraryName : UInt64 := 0x20300
def badText : UInt64 := 0x20400
def okText : UInt64 := 0x20500
def failedText : UInt64 := 0x20600

/-- A heap block. -/
structure Block where
  base : UInt64
  size : Nat
  bytes : List UInt8
  live : Bool := true
  deriving DecidableEq, Inhabited, Repr

namespace Block

def extent (b : Block) : Nat := max b.size 1

def holds (b : Block) (p : UInt64) : Bool := b.base ≤ p && (p - b.base).toNat < b.extent

def byte? (b : Block) (p : UInt64) : Option UInt8 :=
  if b.base ≤ p then b.bytes[(p - b.base).toNat]? else none

end Block

/-- The heap: its blocks in the order they were handed out, and the next free address. -/
structure Memory where
  blocks : List Block := []
  next : UInt64 := heapBase
  deriving DecidableEq, Inhabited, Repr

namespace Memory

def reserve (m : Memory) (size : Nat) : UInt64 × Memory :=
  let p := m.next
  let span := (size + slack + 15) / 16 * 16 + 16
  (p, { blocks := m.blocks ++ [⟨p, size, List.replicate (size + slack) 0, true⟩],
        next := p + span.toUInt64 })

def isLiveStart (m : Memory) (p : UInt64) : Bool := m.blocks.any fun b => b.live && b.base == p

def retire (m : Memory) (p : UInt64) : Memory :=
  { m with blocks := m.blocks.map fun b => if b.live && b.base == p then { b with live := false } else b }

def liveCount (m : Memory) : Nat := (m.blocks.filter (·.live)).length

def byte (m : Memory) (p : UInt64) : UInt8 :=
  match m.blocks.findSome? (·.byte? p) with
  | some v => v
  | none =>
    match statics.findSome? fun s => if s.base ≤ p then s.bytes[(p - s.base).toNat]? else none with
    | some v => v
    | none => 0

def load (m : Memory) (p : UInt64) (n : Nat) : List UInt8 :=
  (List.range n).map fun i => m.byte (p + i.toUInt64)

def store (m : Memory) (p : UInt64) (bytes : List UInt8) : Memory :=
  let write (b : Block) : Block :=
    if b.base ≤ p && (p - b.base).toNat < b.bytes.length then
      let off := (p - b.base).toNat
      let kept := b.bytes.take off
      let rest := b.bytes.drop off
      { b with bytes := (kept ++ bytes ++ rest.drop bytes.length).take b.bytes.length }
    else b
  { m with blocks := m.blocks.map write }

def region? (m : Memory) (p : UInt64) : Option (UInt64 × Nat) :=
  if arenaBase ≤ p && (p - arenaBase).toNat < arenaSize then some (arenaBase, arenaSize)
  else match m.blocks.find? fun b => b.live && b.holds p with
    | some b => some (b.base, b.extent)
    | none => (statics.find? fun s => s.base ≤ p && (p - s.base).toNat < s.bytes.length).map
        fun s => (s.base, s.bytes.length)

def readable (m : Memory) (p : UInt64) (n : Nat) : Bool :=
  match m.region? p with
  | some (base, len) => (p - base).toNat + n ≤ len
  | none => false

def scan (m : Memory) (p : UInt64) : Nat → List UInt8
  | 0 => []
  | limit + 1 => let b := m.byte p; if b == 0 then [] else b :: scan m (p + 1) limit

def scanLimit (m : Memory) : Nat := m.next.toNat + 0x30000

/-- The string at an address read raw: the bytes before the first NUL. -/
def cString (m : Memory) (p : UInt64) : List UInt8 := m.scan p (m.scanLimit)

def cString? (m : Memory) (p : UInt64) : Option (List UInt8) :=
  match m.region? p with
  | none => none
  | some (base, len) =>
    let avail := len - (p - base).toNat
    let bytes := m.load p avail
    let s := bytes.takeWhile (· != 0)
    if s.length < avail then some s else none

inductive Target where
  | null
  | arena (offset : Nat)
  | heap
  | static
  | foreign
  deriving DecidableEq, Inhabited, Repr

def target (m : Memory) (p : UInt64) : Target :=
  if p == 0 then .null
  else if arenaBase ≤ p && (p - arenaBase).toNat < arenaSize then .arena (p - arenaBase).toNat
  else if m.blocks.any fun b => b.live && b.holds p then .heap
  else if statics.any fun s => s.base ≤ p && (p - s.base).toNat < s.bytes.length then .static
  else .foreign

end Memory

def literalAddress (n : Nat) : UInt64 := if n = 0 then 0 else arenaBase + n.toUInt64

end NativeBridge.Native
