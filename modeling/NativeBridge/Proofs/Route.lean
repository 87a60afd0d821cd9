import NativeBridge.Generation.Pipeline

/-!
The route of a member through the generator stages.

`Stage.route` reads off a stage list which stage takes a unit and each helper in
turn, without the type builder: a forwarding stage hands on a helper declared right
after the unit's method, and the direct call ends the route. `implement_ok` says a
successful implementation fills exactly the methods of the route, in order, and adds
the slot of its native call; `implement_of_fresh` says that when the helpers' names
are fresh the implementation succeeds exactly when the route ends at a native call.
-/

namespace NativeBridge

def TypeRef.key? : TypeRef → Option String
  | .named k => some k
  | _ => none

def TypeRef.asPointer : TypeRef → TypeRef
  | .nullable _ => .native .pointer
  | t => t

def TypeRef.marshal? (o : Ownership) : TypeRef → Option NullableMarshal
  | .nullable t => some ⟨t, o⟩
  | _ => none

def GenerationInput.lowerRef (input : GenerationInput) : TypeRef → TypeRef
  | .named k => (input.lowering k).getD (.named k)
  | t => t

def MemberDecl.mapTypes (f : TypeRef → TypeRef) (d : MemberDecl) : MemberDecl :=
  { d with params := d.params.map fun p => { p with ty := f p.ty }, ret := { d.ret with ty := f d.ret.ty } }

def MemberDecl.nativeSignature (d : MemberDecl) : NativeSignature :=
  ⟨d.params.map fun p => p.ty.asNative?.getD .void, d.ret.ty.asNative?.getD .void, d.callingConvention⟩

namespace MemberDecl

theorem ty_mem_types {d : MemberDecl} {p : ParamDecl} (hp : p ∈ d.params) : p.ty ∈ d.types := by
  simp only [types, List.mem_append, List.mem_map]
  exact Or.inl ⟨p, hp, rfl⟩

theorem ret_mem_types (d : MemberDecl) : d.ret.ty ∈ d.types := by
  simp [types]

theorem param_of_any_eq_false {d : MemberDecl} {f : TypeRef → Bool} (h : d.types.any f = false) {p : ParamDecl}
    (hp : p ∈ d.params) : f p.ty = false := by
  simpa using List.any_eq_false.1 h p.ty (ty_mem_types hp)

theorem ret_of_any_eq_false {d : MemberDecl} {f : TypeRef → Bool} (h : d.types.any f = false) :
    f d.ret.ty = false := by
  simpa using List.any_eq_false.1 h d.ret.ty (ret_mem_types d)

theorem mapTypes_eq_self {f : TypeRef → TypeRef} {d : MemberDecl} (h : ∀ t ∈ d.types, f t = t) :
    d.mapTypes f = d := by
  have hps : d.params.map (fun p => { p with ty := f p.ty }) = d.params := by
    conv => rhs; rw [← List.map_id d.params]
    apply List.map_congr_left
    intro p hp
    rw [h p.ty (ty_mem_types hp)]
    rfl
  have hret : f d.ret.ty = d.ret.ty := h d.ret.ty (ret_mem_types d)
  simp [mapTypes, hps, hret]

theorem mapTypes_eq_self_of_any {f : TypeRef → TypeRef} {test : TypeRef → Bool} {d : MemberDecl}
    (hd : d.types.any test = false) (hf : ∀ t, test t = false → f t = t) : d.mapTypes f = d :=
  mapTypes_eq_self fun t ht => hf t (by simpa using List.any_eq_false.1 hd t ht)

end MemberDecl

theorem TypeRef.asPointer_of_not_nullable {t : TypeRef} (h : t.isNullable = false) : t.asPointer = t := by
  cases t <;> simp_all [TypeRef.asPointer, TypeRef.isNullable]

theorem TypeRef.lowerRef_of_not_named {input : GenerationInput} {t : TypeRef} (h : t.isNamed = false) :
    input.lowerRef t = t := by
  cases t <;> simp_all [TypeRef.isNamed, GenerationInput.lowerRef]

theorem MemberDecl.directlyPassable_types {d : MemberDecl} (h : d.isDirectlyPassable = true) :
    d.types.any TypeRef.isNamed = false ∧ d.types.any TypeRef.isNullable = false := by
  simp only [MemberDecl.isDirectlyPassable, List.all_eq_true] at h
  constructor <;> rw [List.any_eq_false] <;> intro t ht <;> have := h t ht <;>
    cases t <;> simp [TypeRef.isDirectlyPassable, TypeRef.isNamed, TypeRef.isNullable] at this ⊢

@[simp]
theorem MemberDecl.nativeSignature_rename (d : MemberDecl) (n : String) :
    ({ d with name := n } : MemberDecl).nativeSignature = d.nativeSignature := rfl

@[simp]
theorem MemberDecl.mapTypes_rename (f : TypeRef → TypeRef) (d : MemberDecl) (n : String) :
    ({ d with name := n } : MemberDecl).mapTypes f = { d.mapTypes f with name := n } := rfl

def WorkUnit.helper (u : WorkUnit) (d : MemberDecl) (suffix : String) : WorkUnit :=
  { u with decl := { d with name := u.generatedName suffix }, method := u.method + 1 }

namespace Stage

def suffix : Stage → String
  | .disposalGuard => "guarded"
  | .lowered => "lowered"
  | .nullable => "marshalled"
  | .directCall => ""

def helper (input : GenerationInput) (u : WorkUnit) : Stage → Option WorkUnit
  | .disposalGuard => some (u.helper u.decl "guarded")
  | .lowered => some (u.helper (u.decl.mapTypes input.lowerRef) "lowered")
  | .nullable => some (u.helper (u.decl.mapTypes TypeRef.asPointer) "marshalled")
  | .directCall => none

def body (u : WorkUnit) (slot : Nat) : Stage → AdapterBody
  | .disposalGuard => .guard (u.method + 1)
  | .lowered => .lowered (u.method + 1) (u.decl.params.map (·.ty.key?)) u.decl.ret.ty.key?
  | .nullable => .nullable (u.method + 1) (u.decl.params.map fun p => p.ty.marshal? p.ownership)
      (u.decl.ret.ty.marshal? u.decl.ret.ownership)
  | .directCall => .native slot u.decl.nativeSignature

end Stage

theorem mapM_lowerType {input : GenerationInput} (member : String) {ps : List ParamDecl}
    (h : ∀ p ∈ ps, ∀ k, p.ty = .named k → (input.lowering k).isSome) :
    ps.mapM (fun p => Stage.lowerType input member p.ty) = .ok (ps.map fun p => (p.ty.key?, input.lowerRef p.ty)) := by
  induction ps with
  | nil => rfl
  | cons p ps ih =>
    have hp := h p (by simp)
    have hps := ih (fun q hq => h q (by simp [hq]))
    rw [List.mapM_cons, hps]
    cases hty : p.ty with
    | named k =>
      obtain ⟨t, ht⟩ := Option.isSome_iff_exists.1 (hp k hty)
      simp only [Stage.lowerType, hty, ht, List.map_cons, TypeRef.key?, GenerationInput.lowerRef, Option.getD_some]
      rfl
    | native t | nullable t => simp only [Stage.lowerType, hty, List.map_cons, TypeRef.key?, GenerationInput.lowerRef]; rfl

namespace WorkUnit

@[simp]
theorem helper_name (u : WorkUnit) (d : MemberDecl) (sfx : String) :
    (u.helper d sfx).decl.name = u.generatedName sfx := rfl

@[simp]
theorem helper_method (u : WorkUnit) (d : MemberDecl) (sfx : String) : (u.helper d sfx).method = u.method + 1 := rfl

def pending (u : WorkUnit) : PendingMethod := ⟨u.decl.name, u.memberIndex, none⟩

def filled (u : WorkUnit) (body : AdapterBody) : PendingMethod := ⟨u.decl.name, u.memberIndex, some (u.decl, body)⟩

end WorkUnit

def collision (name : String) : Error :=
  .configuration name "generated method name collides with an existing method"

namespace TypeBuilder

@[simp]
theorem define_pending (done rest : List PendingMethod) (u : WorkUnit) (names : List String) (slots : List SlotDef)
    (body : AdapterBody) :
    (⟨done ++ u.pending :: rest, names, slots⟩ : TypeBuilder).define done.length u.decl body =
      (.ok (), ⟨done ++ u.filled body :: rest, names, slots⟩) := by
  simp [define, WorkUnit.pending, WorkUnit.filled]

end TypeBuilder

namespace Stage

variable {input : GenerationInput} {u : WorkUnit} {b : TypeBuilder} {done : List PendingMethod}

theorem derive_fresh (hb : b.methods = done ++ [u.pending]) (hu : u.method = done.length) (d : MemberDecl)
    (sfx : String) (h : u.generatedName sfx ∉ b.names) :
    derive b u d sfx = .ok (u.helper d sfx, { b with methods := done ++ [u.pending, (u.helper d sfx).pending],
                                                     names := b.names ++ [u.generatedName sfx] }) := by
  simp [derive, TypeBuilder.declare_of_not_mem h, hb, hu, WorkUnit.helper, WorkUnit.pending, Functor.map,
    Except.map]

theorem derive_taken (d : MemberDecl) (sfx : String) (h : u.generatedName sfx ∈ b.names) :
    derive b u d sfx = .error (collision (u.generatedName sfx)) := by
  simp [derive, TypeBuilder.declare_of_mem h, collision, Functor.map, Except.map]

theorem lowerable_of_applies (h : applies input u .lowered = true) :
    ∀ t ∈ u.decl.types, ∀ k, t = .named k → (input.lowering k).isSome := by
  intro t ht k hk
  simp only [applies, Bool.and_eq_true, List.all_eq_true] at h
  simpa [hk] using h.2 t ht

theorem reshape_map (d : MemberDecl) (f : TypeRef → TypeRef) :
    reshape d (d.params.map fun p => f p.ty) (f d.ret.ty) = d.mapTypes f := by
  simp only [reshape, MemberDecl.mapTypes, List.zip_map_right, List.map_map]
  congr 1
  induction d.params with
  | nil => rfl
  | cons p ps ih => simp [ih]

theorem lowerType_ret (h : applies input u .lowered = true) :
    lowerType input u.baseName u.decl.ret.ty = .ok (u.decl.ret.ty.key?, input.lowerRef u.decl.ret.ty) := by
  have hr := lowerable_of_applies h u.decl.ret.ty (MemberDecl.ret_mem_types _)
  cases hty : u.decl.ret.ty with
  | named k =>
    obtain ⟨t, ht⟩ := Option.isSome_iff_exists.1 (hr k hty)
    simp [lowerType, ht, TypeRef.key?, GenerationInput.lowerRef]
  | native t | nullable t => rfl

@[simp]
theorem asPointer_fst (o : Ownership) (t : TypeRef) : (asPointer o t).1 = t.marshal? o := by
  cases t <;> rfl

@[simp]
theorem asPointer_snd (o : Ownership) (t : TypeRef) : (asPointer o t).2 = t.asPointer := by
  cases t <;> rfl

theorem emit_of_helper {s : Stage} {v : WorkUnit} (hb : b.methods = done ++ [u.pending])
    (hu : u.method = done.length) (happ : s.applies input u = true) (hv : s.helper input u = some v)
    (h : v.decl.name ∉ b.names) :
    s.emit input u b = .ok (some v, { b with methods := done ++ [u.filled (s.body u b.slots.length), v.pending],
                                              names := b.names ++ [v.decl.name] }) := by
  cases s with
  | disposalGuard =>
    cases hv
    simp only [emit, derive_fresh hb hu _ _ h, bind, Except.bind, hu, TypeBuilder.define_pending]
    rfl
  | lowered =>
    cases hv
    have hps := mapM_lowerType u.baseName (fun p hp k hk =>
      lowerable_of_applies happ p.ty (MemberDecl.ty_mem_types hp) k hk)
    simp only [emit, hps, lowerType_ret happ, List.map_map, Function.comp_def, reshape_map, bind, Except.bind]
    simp only [derive_fresh hb hu _ _ h, hu, TypeBuilder.define_pending]
    rfl
  | nullable =>
    cases hv
    simp only [emit, List.map_map, Function.comp_def, asPointer_fst, asPointer_snd, reshape_map, bind,
      Except.bind]
    simp only [derive_fresh hb hu _ _ h, hu, TypeBuilder.define_pending]
    rfl
  | directCall => cases hv

theorem emit_of_taken {s : Stage} {v : WorkUnit} (happ : s.applies input u = true)
    (hv : s.helper input u = some v) (h : v.decl.name ∈ b.names) :
    s.emit input u b = .error (collision v.decl.name) := by
  cases s with
  | disposalGuard =>
    cases hv
    simp only [emit, derive_taken _ _ h, bind, Except.bind]
    rfl
  | lowered =>
    cases hv
    have hps := mapM_lowerType u.baseName (fun p hp k hk =>
      lowerable_of_applies happ p.ty (MemberDecl.ty_mem_types hp) k hk)
    simp only [emit, hps, lowerType_ret happ, List.map_map, Function.comp_def, reshape_map, bind, Except.bind]
    simp only [derive_taken _ _ h]
    rfl
  | nullable =>
    cases hv
    simp only [emit, List.map_map, Function.comp_def, asPointer_fst, asPointer_snd, reshape_map, bind,
      Except.bind]
    simp only [derive_taken _ _ h]
    rfl
  | directCall => cases hv

theorem mapM_asNative (ps : List ParamDecl) (h : ∀ p ∈ ps, p.ty.isDirectlyPassable = true) :
    ps.mapM (·.ty.asNative?) = some (ps.map fun p => p.ty.asNative?.getD .void) := by
  induction ps with
  | nil => rfl
  | cons p ps ih =>
    have hp := h p (by simp)
    rw [List.mapM_cons, ih (fun q hq => h q (by simp [hq]))]
    cases hty : p.ty with
    | native t => simp [TypeRef.asNative?, hty]
    | nullable t | named k => simp [TypeRef.isDirectlyPassable, hty] at hp

theorem emit_directCall (hb : b.methods = done ++ [u.pending]) (hu : u.method = done.length)
    (happ : directCall.applies input u = true) (hconv : u.decl.callingConvention.isSupported = true) :
    directCall.emit input u b = .ok (none,
      ⟨done ++ [u.filled (directCall.body u b.slots.length)], b.names,
        b.slots ++ [⟨u.symbolName, u.baseName, u.decl.nativeSignature, input.config.lazyBinding⟩]⟩) := by
  have hall : ∀ t ∈ u.decl.types, t.isDirectlyPassable = true := by
    simpa [applies, MemberDecl.isDirectlyPassable] using happ
  have hps := mapM_asNative u.decl.params (fun p hp =>
    hall p.ty (MemberDecl.ty_mem_types hp))
  obtain ⟨t, ht⟩ : ∃ t, u.decl.ret.ty = .native t := by
    have := hall u.decl.ret.ty (MemberDecl.ret_mem_types _)
    cases hty : u.decl.ret.ty <;> simp_all [TypeRef.isDirectlyPassable]
  simp only [emit, hconv, Bool.not_true, Bool.false_eq_true, ↓reduceIte, hps]
  simp only [ht, TypeRef.asNative?, TypeBuilder.addSlot, hb, hu, bind, Except.bind, TypeBuilder.define_pending]
  simp only [body, MemberDecl.nativeSignature, ht, TypeRef.asNative?, Option.getD_some]
  rfl

/-- How the stages from `L` implement a unit: the unit and each helper in turn with the
stage that takes it, and the unit that no stage left takes, if there is one. -/
def route (input : GenerationInput) : List Stage → WorkUnit → List (WorkUnit × Stage) × Option WorkUnit
  | [], u => ([], some u)
  | s :: rest, u =>
    if s.applies input u then
      match s.helper input u with
      | some v => let r := route input rest v; ((u, s) :: r.1, r.2)
      | none => ([(u, s)], none)
    else route input rest u

/-- The units a stage list declares a method for, starting with the unit itself. -/
def trail (input : GenerationInput) (L : List Stage) (u : WorkUnit) : List WorkUnit :=
  (route input L u).1.map (·.1) ++ (route input L u).2.toList

theorem trail_of_helper {s : Stage} {rest : List Stage} {v : WorkUnit} (happ : s.applies input u = true)
    (hv : s.helper input u = some v) : trail input (s :: rest) u = u :: trail input rest v := by
  simp [trail, route, happ, hv]

theorem trail_of_not_applies {s : Stage} {rest : List Stage} (happ : s.applies input u = false) :
    trail input (s :: rest) u = trail input rest u := by
  simp [trail, route, happ]

theorem trail_of_terminal {s : Stage} {rest : List Stage} (happ : s.applies input u = true)
    (hv : s.helper input u = none) : trail input (s :: rest) u = [u] := by
  simp [trail, route, happ, hv]

theorem trail_eq_cons (L : List Stage) (u : WorkUnit) : trail input L u = u :: (trail input L u).tail := by
  induction L generalizing u with
  | nil => rfl
  | cons s rest ih =>
    cases happ : s.applies input u
    · rw [trail_of_not_applies happ, ← ih]
    · cases hv : s.helper input u with
      | none => rw [trail_of_terminal happ hv]; rfl
      | some v => rw [trail_of_helper happ hv]; rfl

@[simp]
theorem trail_nil : trail input [] u = [u] := rfl

def chain (input : GenerationInput) (L : List Stage) (u : WorkUnit) (slot : Nat) : List PendingMethod :=
  (route input L u).1.map fun p => p.1.filled (p.2.body p.1 slot)

def slotOf (input : GenerationInput) (L : List Stage) (u : WorkUnit) : Option SlotDef :=
  match (route input L u).1.getLast? with
  | some (w, .directCall) => some ⟨w.symbolName, w.baseName, w.decl.nativeSignature, input.config.lazyBinding⟩
  | _ => none

theorem chain_of_helper {s : Stage} {rest : List Stage} {v : WorkUnit} (happ : s.applies input u = true)
    (hv : s.helper input u = some v) (slot : Nat) :
    chain input (s :: rest) u slot = u.filled (s.body u slot) :: chain input rest v slot := by
  simp [chain, route, happ, hv]

theorem chain_of_not_applies {s : Stage} {rest : List Stage} (happ : s.applies input u = false) (slot : Nat) :
    chain input (s :: rest) u slot = chain input rest u slot := by
  simp [chain, route, happ]

theorem chain_directCall {rest : List Stage} (happ : directCall.applies input u = true) (slot : Nat) :
    chain input (directCall :: rest) u slot = [u.filled (directCall.body u slot)] := by
  simp [chain, route, happ, helper]

theorem slotOf_of_helper {s : Stage} {rest : List Stage} {v : WorkUnit} (happ : s.applies input u = true)
    (hv : s.helper input u = some v) : slotOf input (s :: rest) u = slotOf input rest v := by
  have hs : s ≠ directCall := by rintro rfl; simp [helper] at hv
  unfold slotOf
  cases hr : (route input rest v).1 with
  | nil => cases s <;> simp_all [route]
  | cons p ps => simp [route, happ, hv, hr, List.getLast?_cons]

theorem slotOf_of_not_applies {s : Stage} {rest : List Stage} (happ : s.applies input u = false) :
    slotOf input (s :: rest) u = slotOf input rest u := by
  simp [slotOf, route, happ]

theorem slotOf_directCall {rest : List Stage} (happ : directCall.applies input u = true) :
    slotOf input (directCall :: rest) u =
      some ⟨u.symbolName, u.baseName, u.decl.nativeSignature, input.config.lazyBinding⟩ := by
  simp [slotOf, route, happ, helper]

theorem helper_fields {s : Stage} {v : WorkUnit} (h : s.helper input u = some v) :
    v.memberIndex = u.memberIndex ∧ v.symbolName = u.symbolName ∧ v.baseName = u.baseName ∧
      v.uniqueId = u.uniqueId ∧ v.method = u.method + 1 ∧
      v.decl.callingConvention = u.decl.callingConvention := by
  cases s <;> simp [helper] at h <;> subst h <;>
    simp [WorkUnit.helper, MemberDecl.callingConvention, MemberDecl.mapTypes]

end Stage

namespace Generation

open Stage

variable {input : GenerationInput}

/-- What a successful implementation of a unit adds: its method and its helpers' methods
filled in the order of the route, which ends at a native call, and the slot of that call. -/
theorem implement_ok {L : List Stage} {u : WorkUnit} {g g' : Generation} {done : List PendingMethod}
    (hb : g.builder.methods = done ++ [u.pending]) (hu : u.method = done.length)
    (h : implement input L u g = .ok g') :
    (route input L u).2 = none ∧ g'.builder.methods = done ++ chain input L u g.builder.slots.length ∧
      (∃ slot, slotOf input L u = some slot ∧ g'.builder.slots = g.builder.slots ++ [slot]) ∧
      g'.nextId = g.nextId ∧ g'.builder.names = g.builder.names ++ (trail input L u).tail.map (·.decl.name) ∧
      (g.builder.names.Nodup → g'.builder.names.Nodup) := by
  induction L generalizing u g done with
  | nil => simp [implement] at h
  | cons s rest ih =>
    by_cases happ : s.applies input u = true
    · cases hv : s.helper input u with
      | none =>
        cases s with
        | directCall =>
          by_cases hconv : u.decl.callingConvention.isSupported = true
          · simp only [implement, happ, ↓reduceIte, emit_directCall hb hu happ hconv, Except.ok.injEq] at h
            subst h
            simp [route, happ, helper, trail_of_terminal happ hv, chain_directCall happ, slotOf_directCall happ]
          · simp [implement, happ, emit, hconv, bind, Except.bind, throw, throwThe, MonadExceptOf.throw] at h
        | _ => simp [helper] at hv
      | some v =>
        obtain ⟨-, -, -, -, hvm, -⟩ := helper_fields hv
        by_cases hname : v.decl.name ∈ g.builder.names
        · simp [implement, happ, emit_of_taken happ hv hname] at h
        · simp only [implement, happ, ↓reduceIte, emit_of_helper hb hu happ hv hname] at h
          obtain ⟨hr, hm, ⟨w, hw, hs⟩, hn, hnames, hnd⟩ := @ih v _ (done ++ [u.filled (s.body u g.builder.slots.length)])
            (by simp) (by simp [hvm, hu]) h
          refine ⟨by simpa [route, happ, hv] using hr, by simp [chain_of_helper happ hv, hm],
            ⟨w, by rw [slotOf_of_helper happ hv]; exact hw, by simpa using hs⟩, by simpa using hn, ?_, ?_⟩
          · rw [hnames, trail_of_helper happ hv, List.tail_cons, trail_eq_cons rest v]
            simp
          · -- the helper's name was fresh, so the names stay distinct
            intro hN
            exact hnd (List.nodup_append.2 ⟨hN, by simp, by simpa using fun a ha (hav : a = v.decl.name) => hname (hav ▸ ha)⟩)
    · simp only [implement, happ, Bool.false_eq_true, ↓reduceIte] at h
      simp only [Bool.not_eq_true] at happ
      simp only [route, happ, Bool.false_eq_true, ↓reduceIte, trail_of_not_applies happ,
        chain_of_not_applies happ, slotOf_of_not_applies happ]
      exact ih hb hu h

theorem implement_of_fresh {L : List Stage} {u : WorkUnit} {g : Generation} {done : List PendingMethod}
    (hb : g.builder.methods = done ++ [u.pending]) (hu : u.method = done.length)
    (hconv : u.decl.callingConvention.isSupported = true)
    (hfresh : (g.builder.names ++ (trail input L u).tail.map (·.decl.name)).Nodup) :
    (∀ w, (route input L u).2 = some w → implement input L u g = .error (unbindable input w)) ∧
      ((route input L u).2 = none → ∃ g', implement input L u g = .ok g') := by
  induction L generalizing u g done with
  | nil => simp [route, implement]
  | cons s rest ih =>
    cases happ : s.applies input u
    · rw [trail_of_not_applies happ] at hfresh
      simpa [implement, route, happ] using ih hb hu hconv hfresh
    · cases hv : s.helper input u with
      | none =>
        cases s with
        | directCall =>
          simp [implement, route, happ, helper, emit_directCall hb hu happ hconv]
        | _ => simp [helper] at hv
      | some v =>
        obtain ⟨-, -, -, -, hvm, hvc⟩ := helper_fields hv
        rw [trail_of_helper happ hv, List.tail_cons, trail_eq_cons rest v] at hfresh
        have hname : v.decl.name ∉ g.builder.names := by
          intro hmem
          exact (List.nodup_append.1 hfresh).2.2 _ hmem _ (by simp) rfl
        have := @ih v ⟨⟨done ++ [u.filled (s.body u g.builder.slots.length), v.pending],
            g.builder.names ++ [v.decl.name], g.builder.slots⟩, g.nextId, g.notes ++ [⟨u.baseName, u.decl.name, s⟩]⟩
          (done ++ [u.filled (s.body u g.builder.slots.length)])
          (by simp) (by simp [hvm, hu]) (by rw [hvc]; exact hconv) (by simpa using hfresh)
        simpa [implement, route, happ, hv, emit_of_helper hb hu happ hv hname] using this

end Generation

end NativeBridge
