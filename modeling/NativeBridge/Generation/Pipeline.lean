import NativeBridge.Generation.Stage

/-!
Generating the adapter type of an interface.

Each member is declared an entry method, then handed to the stages in order: the
first stage that takes the unit emits its method, and a helper it forwards to
continues with the stages after it. A unit no remaining stage takes fails the
whole generation with the reason it cannot be bound; an error a stage raises is
marked with the stage's name. Every emitted body leaves a note.
-/

namespace NativeBridge

structure GenerationNote where
  member : String
  method : String
  stage : Stage
  deriving DecidableEq, Inhabited, Repr

def GenerationNote.display (n : GenerationNote) : String :=
  n.member ++ ": " ++ n.stage.name ++ " emitted `" ++ n.method ++ "` (" ++ n.stage.complexity.display ++ ")"

/-- The adapter generated for one interface under one configuration. -/
structure BindingType where
  interface : InterfaceDecl
  config : BindingConfig
  methods : List MethodDef
  entries : List Nat
  slots : List SlotDef
  notes : List GenerationNote
  deriving DecidableEq, Inhabited, Repr

structure Generation where
  builder : TypeBuilder := {}
  nextId : Nat := 0
  notes : List GenerationNote := []

def unbindable (input : GenerationInput) (u : WorkUnit) : Error :=
  let reason (t : TypeRef) : Option String := match t with
    | .named k =>
      if (input.lowering k).isNone then some ("type `" ++ k ++ "` has no registered transformer")
      else if !input.config.stages.contains .lowering then
        some ("type `" ++ k ++ "` needs lowering but the lowering stage is disabled")
      else none
    | .nullable _ =>
      if !input.config.stages.contains .nullable then
        some ("type `" ++ t.display ++ "` needs marshalling but the nullable stage is disabled")
      else none
    | _ => none
  .configuration u.baseName
    ((u.decl.types.findSome? reason).getD ("no generator stage can bind `" ++ u.decl.signature ++ "`"))

/-- Implement the unit with the first of `stages` that takes it, and the helper it
forwards to with the stages after that one. -/
def Generation.implement (input : GenerationInput) :
    List Stage → WorkUnit → Generation → Except Error Generation
  | [], u, _ => .error (unbindable input u)
  | s :: rest, u, g =>
    if s.applies input u then
      match s.emit input u g.builder with
      | .error e => .error (e.attributeTo s.name)
      | .ok (next, b) =>
        let g := { g with builder := b, notes := g.notes ++ [⟨u.baseName, u.decl.name, s⟩] }
        match next with
        | none => .ok g
        | some v => implement input rest v g
    else implement input rest u g

def Generation.members (stages : List Stage) (input : GenerationInput) :
    Nat → List MemberDecl → Generation → Except Error (List Nat × Generation)
  | _, [], g => .ok ([], g)
  | i, m :: ms, g => do
    let (method, b) ← TypeBuilder.propagate (g.builder.declare m.name i)
    let u : WorkUnit := ⟨m, i, m.symbolName, m.name, g.nextId, method⟩
    let g ← implement input stages u { g with builder := b, nextId := g.nextId + 1 }
    let (rest, g) ← members stages input (i + 1) ms g
    pure (method :: rest, g)

def BindingType.generate (stages : List Stage) (input : GenerationInput) (d : InterfaceDecl) :
    Except Error BindingType := do
  d.validate
  let (entries, g) ← Generation.members stages input 0 d.members {}
  let (methods, slots) ← g.builder.finish
  pure ⟨d, input.config, methods, entries, slots, g.notes⟩

namespace BindingType

def method? (t : BindingType) (name : String) : Option MethodDef := t.methods.find? (·.name == name)

def describe (t : BindingType) : String :=
  let detail (m : MethodDef) : String := match m.body with
    | .native slot signature =>
      let s := t.slots[slot]?
      "native `" ++ (s.map (·.symbol)).getD "" ++ "` ("
        ++ (if (s.map (·.lazy)).getD false then "lazy" else "eager") ++ ") " ++ signature.display
    | body => match body.target? with
      | some k => body.shape ++ " -> " ++ ((t.methods[k]?.map (·.name)).getD "")
      | none => body.shape
  "interface " ++ t.interface.name ++ " " ++ t.config.debug ++ "\n"
    ++ String.join (t.methods.map fun m => "  " ++ m.decl.signature ++ " => " ++ detail m ++ "\n")

def debug (t : BindingType) : String :=
  "BindingType \x7b interface: " ++ Text.debugQuote t.interface.name ++ ", config: " ++ t.config.debug
    ++ ", methods: " ++ toString t.methods.length ++ ", slots: " ++ toString t.slots.length ++ " \x7d"

end BindingType

end NativeBridge
