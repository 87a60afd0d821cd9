import NativeBridge.Factory
import NativeBridge.Native.Host
import NativeBridge.Native.Exports

/-!
A session: one factory and one process, with the instances activated in it.

Before a type is used, every slot whose symbol currently maps to a function must
have that function's C signature, so that no call can reach a function of
another shape; a symbol of the C library that is not one of its callable
functions cannot be bound at all. Publishing a symbol checks every type that
passed this check so far, and is undone if one of them no longer does.

Types are numbered in the order they are first answered; an activation that
fails takes no instance number.
-/

namespace NativeBridge

open Native

inductive SessionFault where
  | error (e : Error)
  | noInstance (index : Nat)
  | notATable
  | unknownFunction (name : String)
  | uncallable (symbol : String)
  | mismatch (symbol : String) (slot : NativeSignature) (function : String) (actual : NativeSignature)
  deriving Inhabited

def SessionFault.message : SessionFault → String
  | .error e => e.message
  | .noInstance i => "no instance " ++ toString i
  | .notATable => "publish needs a symbol table"
  | .unknownFunction name => "no native function `" ++ name ++ "`"
  | .uncallable symbol => "libc symbol `" ++ symbol ++ "` is not in the driver's catalog"
  | .mismatch symbol slot fn actual =>
    "slot `" ++ symbol ++ "` is " ++ slot.display ++ " but `" ++ fn ++ "` is " ++ actual.display

def Native.Symbols.target? (s : Symbols) (symbol : String) : Except SessionFault (Option NativeFunction) :=
  match s with
  | .table entries => .ok ((entries.lookup symbol).bind NativeFunction.find?)
  | .cLibrary =>
    match NativeFunction.findInCLibrary? symbol with
    | some f => .ok (some f)
    | none => if cLibraryExports symbol then .error (.uncallable symbol) else .ok none

def Native.Symbols.check (s : Symbols) (t : BindingType) : Except SessionFault Unit :=
  t.slots.forM fun slot => do
    match ← s.target? slot.symbol with
    | some f =>
      if slot.signature.params == f.params && slot.signature.ret == f.ret then pure ()
      else throw (.mismatch slot.symbol slot.signature f.name f.signature)
    | none => pure ()

structure MemoryReport where
  counters : Counters
  live : Nat
  lookups : Nat
  deriving DecidableEq, Inhabited, Repr

def Native.State.report (s : State) : MemoryReport := ⟨s.counters, s.live, s.lookups⟩

abbrev Instance := Binding NativeFunction

/-- A session. -/
structure Session where
  factory : Factory State NativeFunction
  process : State
  interface : InterfaceDecl
  config : BindingConfig
  instances : List Instance := []
  types : List (Nat × BindingType) := []

inductive Step where
  | activate (interface : Option InterfaceDecl) (config : Option BindingConfig)
  | generate (interface : Option InterfaceDecl) (config : Option BindingConfig)
  | clearCache
  | invoke (member : String) (args : List Value) (inst : Nat)
  | invokeIndex (index : Nat) (args : List Value) (inst : Nat)
  | call (member : String) (args : List Value) (as : HostType) (inst : Nat)
  | dispose (inst : Nat)
  | state (inst : Nat)
  | publish (symbol function : String)
  | unpublish (symbol : String)

inductive Outcome where
  | activated (inst type : Nat) (resolved : Bool)
  | generated (type cached methods : Nat)
  | cleared (cached : Nat)
  | value (v : Value)
  | disposed (first : Bool)
  | state (disposed resolved : Bool) (debug : String)
  | published

namespace Session

def typeIndex (s : Session) (identity : Nat) (t : BindingType) : Nat × Session :=
  match s.types.findIdx? (·.1 == identity) with
  | some k => (k, s)
  | none => (s.types.length, { s with types := s.types ++ [(identity, t)] })

def prepare (s : Session) (d : Option InterfaceDecl) (c : Option BindingConfig) :
    Except SessionFault (Nat × BindingType) × Session :=
  match s.factory.generate (d.getD s.interface) (c.getD s.config) with
  | .error e => (.error (.error e), s)
  | .ok ((identity, t), factory) =>
    let s := { s with factory }
    match s.process.symbols.check t with
    | .error fault => (.error fault, s)
    | .ok () => (.ok (identity, t), s)

def onInstance (s : Session) (i : Nat) (f : Instance → Call State NativeFunction Value) :
    Except SessionFault Value × Session :=
  match s.instances[i]? with
  | none => (.error (.noInstance i), s)
  | some b =>
    let (r, process, slots) := Call.run (f b) s.process b.slots
    let s := { s with process, instances := s.instances.set i { b with slots } }
    match r with
    | .ok v => (.ok v, s)
    | .error e => (.error (.error e), s)

/-- Run one step. The trace is cleared first. -/
def step (s : Session) (st : Step) : Except SessionFault Outcome × Session :=
  let s := { s with process := { s.process with trace := [] } }
  let reg := s.factory.registry
  match st with
  | .activate d c =>
    match s.prepare d c with
    | (.error f, s) => (.error f, s)
    | (.ok (identity, t), s) =>
      let (r, process, _) := Call.run (t.instantiate host) s.process
      let s := { s with process }
      match r with
      | .error e => (.error (.error e), s)
      | .ok b =>
        let (k, s) := s.typeIndex identity t
        (.ok (.activated s.instances.length k b.isFullyResolved), { s with instances := s.instances ++ [b] })
  | .generate d c =>
    match s.prepare d c with
    | (.error f, s) => (.error f, s)
    | (.ok (identity, t), s) =>
      let (k, s) := s.typeIndex identity t
      (.ok (.generated k s.factory.cachedTypes t.methods.length), s)
  | .clearCache =>
    let s := { s with factory := s.factory.clearCache }
    (.ok (.cleared s.factory.cachedTypes), s)
  | .invoke member args i =>
    match s.onInstance i fun b => b.invoke host reg member args with
    | (r, s) => (r.map .value, s)
  | .invokeIndex index args i =>
    match s.onInstance i fun b => b.invokeIndex host reg index args with
    | (r, s) => (r.map .value, s)
  | .call member args as i =>
    match s.onInstance i fun b => do
        let v ← b.invoke host reg member args
        match as.fromValue v with
        | .ok w => pure w
        | .error e => throw e with
    | (r, s) => (r.map .value, s)
  | .dispose i =>
    match s.instances[i]? with
    | none => (.error (.noInstance i), s)
    | some b =>
      let (first, b) := b.dispose
      (.ok (.disposed first), { s with instances := s.instances.set i b })
  | .state i =>
    match s.instances[i]? with
    | none => (.error (.noInstance i), s)
    | some b => (.ok (.state b.disposed b.isFullyResolved (b.debug s.process.symbols.describe)), s)
  | .publish symbol fn =>
    match s.process.symbols with
    | .cLibrary => (.error .notATable, s)
    | symbols@(.table _) =>
      if (NativeFunction.find? fn).isNone then (.error (.unknownFunction fn), s)
      else
        let symbols := symbols.publish symbol fn
        match s.types.forM fun (_, t) => symbols.check t with
        | .error f => (.error f, s)
        | .ok () => (.ok .published, { s with process := { s.process with symbols } })
  | .unpublish symbol =>
    match s.process.symbols with
    | .cLibrary => (.error .notATable, s)
    | symbols@(.table _) =>
      (.ok .published, { s with process := { s.process with symbols := symbols.unpublish symbol } })

def report (s : Session) : MemoryReport := s.process.report

def trace (s : Session) : List String := s.process.trace

end Session

end NativeBridge
