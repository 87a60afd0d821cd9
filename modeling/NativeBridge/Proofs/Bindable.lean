import NativeBridge.Proofs.Layout
import NativeBridge.Factory
import NativeBridge.Native.Host

/-!
Which interfaces generate.

A member's entry unit follows its route through the stages; the route either reaches a native
call or stops at a unit no remaining stage takes, and generation then fails with the reason
`unbindable` gives. Besides its route, generation declares a name for the member and for each
helper on it, and fails on the first name declared twice. `Generation.generate_ok_iff` says
exactly when generation succeeds, for any list of stages.

For the standard stages the route test is `MemberDecl.bindable`: a complex type needs the
lowering stage and a transformer for its key, and an optional type, once lowered, the nullable
stage. Helper names are not reserved, so a member may take the name of another's helper, and
then a bindable interface fails to generate (`guarded_name_collision`).
-/

namespace NativeBridge

open Stage

theorem TypeRef.isDirectlyPassable_eq (t : TypeRef) :
    t.isDirectlyPassable = (!t.isNamed && !t.isNullable) := by
  cases t <;> rfl

namespace MemberDecl

@[simp]
theorem types_mapTypes (f : TypeRef → TypeRef) (d : MemberDecl) : (d.mapTypes f).types = d.types.map f := by
  simp [mapTypes, types, Function.comp_def]

@[simp]
theorem types_rename (d : MemberDecl) (n : String) : ({ d with name := n } : MemberDecl).types = d.types := rfl

theorem isDirectlyPassable_eq (d : MemberDecl) :
    d.isDirectlyPassable = (!d.types.any TypeRef.isNamed && !d.types.any TypeRef.isNullable) := by
  unfold isDirectlyPassable
  induction d.types with
  | nil => rfl
  | cons t ts ih =>
    simp only [List.all_cons, List.any_cons, ih, TypeRef.isDirectlyPassable_eq]
    cases t.isNamed <;> cases t.isNullable <;> simp

end MemberDecl

namespace Stage

variable {input : GenerationInput}

@[simp]
theorem applies_method (s : Stage) (u : WorkUnit) (k : Nat) :
    s.applies input { u with method := k } = s.applies input u := by
  cases s <;> rfl

theorem helper_method (s : Stage) (u : WorkUnit) (k : Nat) :
    s.helper input { u with method := k } = (s.helper input u).map fun v => { v with method := k + 1 } := by
  cases s <;> rfl

theorem route_method (L : List Stage) (u : WorkUnit) (k : Nat) :
    (route input L { u with method := k }).1.map (fun p => (p.1.decl, p.2)) =
        (route input L u).1.map (fun p => (p.1.decl, p.2)) ∧
      (route input L { u with method := k }).2.map (·.decl) = (route input L u).2.map (·.decl) := by
  induction L generalizing u k with
  | nil => exact ⟨rfl, rfl⟩
  | cons s rest ih =>
    cases happ : s.applies input u
    · simpa [route, happ] using ih u k
    · cases hv : s.helper input u with
      | none => simp [route, happ, hv, helper_method]
      | some v =>
        obtain ⟨ih₁, ih₂⟩ := ih v (k + 1)
        simp [route, happ, hv, helper_method, ih₁, ih₂]

theorem names_trail_method (L : List Stage) (u : WorkUnit) (k : Nat) :
    (trail input L { u with method := k }).map (·.decl.name) = (trail input L u).map (·.decl.name) := by
  obtain ⟨h₁, h₂⟩ : _ ∧ (route input L { u with method := k }).2.map (·.decl) = _ := route_method L u k
  have h₁' := congrArg (List.map (·.1.name)) h₁
  have h₂' := congrArg (Option.map (·.name)) h₂
  simp only [List.map_map, Option.map_map, Function.comp_def] at h₁' h₂'
  simp only [trail, List.map_append, List.map_map, Function.comp_def, ← Option.toList_map, h₁', h₂']

theorem route_complete_method (L : List Stage) (u : WorkUnit) (k : Nat) :
    (route input L { u with method := k }).2 = none ↔ (route input L u).2 = none := by
  have h : (route input L { u with method := k }).2.map (·.decl) = (route input L u).2.map (·.decl) :=
    (route_method L u k).2
  cases h₁ : (route input L { u with method := k }).2 <;> cases h₂ : (route input L u).2 <;> simp_all

theorem route_snd_of_not_applies {s : Stage} {rest : List Stage} {u : WorkUnit} (h : s.applies input u = false) :
    (route input (s :: rest) u).2 = (route input rest u).2 := by
  simp [route, h]

theorem route_snd_of_helper {s : Stage} {rest : List Stage} {u v : WorkUnit} (h : s.applies input u = true)
    (hv : s.helper input u = some v) : (route input (s :: rest) u).2 = (route input rest v).2 := by
  simp [route, h, hv]

end Stage

theorem InterfaceDecl.validateFrom_member {n : String} {seen : List String} {ms : List MemberDecl}
    (h : validateFrom n seen ms = .ok ()) {m : MemberDecl} (hm : m ∈ ms) : m.validate = .ok () := by
  induction ms generalizing seen with
  | nil => cases hm
  | cons m' ms ih =>
    by_cases hs : seen.contains m'.name = true
    · have hmem : m'.name ∈ seen := by simpa using hs
      simp [validateFrom, hmem] at h
    · simp only [validateFrom, hs, Bool.false_eq_true, ↓reduceIte] at h
      obtain ⟨⟨⟩, hv, h⟩ := bind_eq_ok h
      rcases List.mem_cons.1 hm with rfl | hm
      · exact hv
      · exact ih h hm

namespace MemberDecl

theorem validate_eq_ok_iff {m : MemberDecl} : m.validate = .ok () ↔ m.fault? = none := by
  unfold validate
  split <;> simp_all

theorem fault?_eq_none_iff {m : MemberDecl} :
    m.fault? = none ↔ m.name ≠ "" ∧ m.symbolName ≠ "" ∧ m.callingConvention.isSupported = true ∧
      paramFault? [] m.params = none ∧ (m.ret.ownership.byCaller = true → m.ret.ty.isBufferShaped = true) ∧
      TypeRef.nullable .void ∉ m.types := by
  unfold fault?
  split
  · simp_all
  · split
    · simp_all
    · split
      · simp_all
      · split
        · simp_all
        · split
          · simp_all
          · split <;> simp_all

theorem isSupported_of_validate {m : MemberDecl} (h : m.validate = .ok ()) :
    m.callingConvention.isSupported = true :=
  (fault?_eq_none_iff.1 (validate_eq_ok_iff.1 h)).2.2.1

end MemberDecl

namespace Generation

variable {L : List Stage} {input : GenerationInput}

/-- The names generation declares for the members from number `i` on: each member's own, then
its helpers', in the order of its route. -/
def declaredNames (input : GenerationInput) (L : List Stage) : Nat → List MemberDecl → List String
  | _, [] => []
  | i, m :: ms => (trail input L (WorkUnit.entry m i i 0)).map (·.decl.name) ++ declaredNames input L (i + 1) ms

theorem members_names {i : Nat} {ms : List MemberDecl} {g : Generation} {r : List Nat × Generation}
    (h : members L input i ms g = .ok r) (hid : g.nextId = i) (hnd : g.builder.names.Nodup) :
    (g.builder.names ++ declaredNames input L i ms).Nodup := by
  induction ms generalizing i g r with
  | nil => simpa [declaredNames] using hnd
  | cons m ms ih =>
    obtain ⟨hname, g₁, rest, hi, hr, -⟩ := members_cons h
    obtain ⟨-, -, -, hn, hroute, hnd₁⟩ := implement_ok (by rfl) (by rfl) hi
    -- after the member, the builder holds the names of its route, the member's own first
    have hnames : g₁.builder.names = g.builder.names ++
        (trail input L (WorkUnit.entry m i g.nextId g.builder.methods.length)).map (·.decl.name) := by
      rw [hroute, trail_eq_cons]
      simp [WorkUnit.entry]
    have hnd' : g₁.builder.names.Nodup :=
      hnd₁ (List.nodup_append.2 ⟨hnd, by simp, fun a ha b hb hab => hname (by simp at hb; exact hb ▸ hab ▸ ha)⟩)
    have ht : (trail input L (WorkUnit.entry m i i g.builder.methods.length)).map (·.decl.name) =
        (trail input L (WorkUnit.entry m i i 0)).map (·.decl.name) :=
      names_trail_method L (WorkUnit.entry m i i 0) g.builder.methods.length
    have := ih hr (by simp [hn, hid]) hnd'
    rw [hnames, hid, ht] at this
    simpa [declaredNames] using this

theorem members_cons_of_fresh {i : Nat} {m : MemberDecl} {ms : List MemberDecl} {g : Generation}
    (hid : g.nextId = i) (hfresh : (g.builder.names ++ declaredNames input L i (m :: ms)).Nodup) :
    members L input i (m :: ms) g = (do
        let g₁ ← implement input L (WorkUnit.entry m i i g.builder.methods.length)
          { g with builder := ⟨g.builder.methods ++ [⟨m.name, i, none⟩], g.builder.names ++ [m.name], g.builder.slots⟩,
                   nextId := i + 1 }
        let (rest, g₂) ← members L input (i + 1) ms g₁
        pure (g.builder.methods.length :: rest, g₂)) ∧
      (g.builder.names ++ [m.name] ++
          (trail input L (WorkUnit.entry m i i g.builder.methods.length)).tail.map (·.decl.name) ++
        declaredNames input L (i + 1) ms).Nodup := by
  subst hid
  have ht : (trail input L (WorkUnit.entry m g.nextId g.nextId g.builder.methods.length)).map (·.decl.name) =
      (trail input L (WorkUnit.entry m g.nextId g.nextId 0)).map (·.decl.name) :=
    names_trail_method L (WorkUnit.entry m g.nextId g.nextId 0) g.builder.methods.length
  -- the member's own name is the first it declares
  have hhead : (trail input L (WorkUnit.entry m g.nextId g.nextId 0)).map (·.decl.name) =
      m.name :: (trail input L (WorkUnit.entry m g.nextId g.nextId g.builder.methods.length)).tail.map
        (·.decl.name) := by
    rw [← ht, trail_eq_cons]
    rfl
  rw [declaredNames, hhead] at hfresh
  have hname : m.name ∉ g.builder.names := by
    intro hmem
    exact (List.nodup_append.1 hfresh).2.2 _ hmem _ (by simp) rfl
  refine ⟨?_, by simpa using hfresh⟩
  simp only [members, TypeBuilder.declare_of_not_mem hname, TypeBuilder.propagate_ok, bind, Except.bind]
  rfl

theorem implement_entry {i : Nat} {m : MemberDecl} {g : Generation} (hconv : m.callingConvention.isSupported = true)
    (hfresh : (g.builder.names ++ [m.name] ++
      (trail input L (WorkUnit.entry m i i g.builder.methods.length)).tail.map (·.decl.name)).Nodup)
    (hcomplete : (route input L (WorkUnit.entry m i i g.builder.methods.length)).2 = none) :
    ∃ g₁, implement input L (WorkUnit.entry m i i g.builder.methods.length)
        { g with builder := ⟨g.builder.methods ++ [⟨m.name, i, none⟩], g.builder.names ++ [m.name], g.builder.slots⟩,
                 nextId := i + 1 } = .ok g₁ ∧ g₁.nextId = i + 1 ∧
      g₁.builder.methods = g.builder.methods ++
        chain input L (WorkUnit.entry m i i g.builder.methods.length) g.builder.slots.length ∧
      g₁.builder.names = g.builder.names ++ [m.name] ++
        (trail input L (WorkUnit.entry m i i g.builder.methods.length)).tail.map (·.decl.name) := by
  obtain ⟨g₁, hi⟩ : ∃ g₁, implement input L (WorkUnit.entry m i i g.builder.methods.length)
      { g with builder := ⟨g.builder.methods ++ [⟨m.name, i, none⟩], g.builder.names ++ [m.name], g.builder.slots⟩,
               nextId := i + 1 } = .ok g₁ :=
    (implement_of_fresh rfl rfl hconv hfresh).2 hcomplete
  obtain ⟨-, hm, -, hn, hnames, -⟩ := implement_ok rfl rfl hi
  exact ⟨g₁, hi, hn, hm, hnames⟩

theorem members_of_fresh {i : Nat} {ms : List MemberDecl} {g : Generation} (hid : g.nextId = i)
    (hfilled : ∃ l : List (WorkUnit × AdapterBody), g.builder.methods = l.map fun p => p.1.filled p.2)
    (hroute : ∀ j m, ms[j]? = some m → (route input L (WorkUnit.entry m (i + j) (i + j) 0)).2 = none)
    (hconv : ∀ m ∈ ms, m.callingConvention.isSupported = true)
    (hfresh : (g.builder.names ++ declaredNames input L i ms).Nodup) :
    ∃ r, members L input i ms g = .ok r ∧
      ∃ l : List (WorkUnit × AdapterBody), r.2.builder.methods = l.map fun p => p.1.filled p.2 := by
  induction ms generalizing i g with
  | nil => exact ⟨([], g), rfl, hfilled⟩
  | cons m ms ih =>
    obtain ⟨l, hl⟩ := hfilled
    obtain ⟨hrun, hsplit⟩ := members_cons_of_fresh hid hfresh
    have hcomplete : (route input L (WorkUnit.entry m i i g.builder.methods.length)).2 = none :=
      (route_complete_method L (WorkUnit.entry m i i 0) _).2 (by simpa using hroute 0 m rfl)
    obtain ⟨g₁, hi, hn, hm, hnames⟩ := implement_entry (hconv m (by simp)) (List.nodup_append.1 hsplit).1 hcomplete
    -- the rest of the members, one number later
    obtain ⟨r, hr, hl'⟩ := ih hn
      ⟨l ++ (route input L (WorkUnit.entry m i i g.builder.methods.length)).1.map
          (fun p => (p.1, p.2.body p.1 g.builder.slots.length)), by simp [hm, hl, chain]⟩
      (fun j m' hj => by simpa [Nat.add_assoc, Nat.add_comm 1 j] using hroute (j + 1) m' (by simpa using hj))
      (fun m' hm' => hconv m' (List.mem_cons_of_mem _ hm'))
      (by rw [hnames]; exact hsplit)
    refine ⟨(g.builder.methods.length :: r.1, r.2), ?_, hl'⟩
    simp only [hrun, hi, hr, bind, Except.bind]
    rfl

theorem baseName_of_route {u w : WorkUnit} (h : (route input L u).2 = some w) : w.baseName = u.baseName := by
  induction L generalizing u with
  | nil =>
    cases h
    rfl
  | cons s rest ih =>
    cases happ : s.applies input u
    · exact ih (by rwa [route_snd_of_not_applies happ] at h)
    · cases hv : s.helper input u with
      | none => simp [route, happ, hv] at h
      | some v =>
        rw [route_snd_of_helper happ hv] at h
        rw [ih h, (helper_fields hv).2.2.1]

theorem members_of_unbindable {i : Nat} {ms : List MemberDecl} {g : Generation} (hid : g.nextId = i)
    {j : Nat} {m : MemberDecl} (hj : ms[j]? = some m)
    (hbefore : ∀ j' m', j' < j → ms[j']? = some m' → (route input L (WorkUnit.entry m' (i + j') (i + j') 0)).2 = none)
    {w : WorkUnit} (hw : (route input L (WorkUnit.entry m (i + j) (i + j) 0)).2 = some w)
    (hconv : ∀ m ∈ ms, m.callingConvention.isSupported = true)
    (hfresh : (g.builder.names ++ declaredNames input L i ms).Nodup) :
    members L input i ms g = .error (unbindable input w) := by
  induction ms generalizing i g j with
  | nil => cases hj
  | cons m₀ ms ih =>
    obtain ⟨hrun, hsplit⟩ := members_cons_of_fresh hid hfresh
    rw [hrun]
    cases j with
    | zero =>
      cases hj
      -- the member's own route stops where the canonical one does, with the same shape
      obtain ⟨-, hdecl⟩ : _ ∧ (route input L (WorkUnit.entry m i i g.builder.methods.length)).2.map (·.decl) = _ :=
        route_method L (WorkUnit.entry m i i 0) g.builder.methods.length
      rw [Nat.add_zero] at hw
      rw [hw] at hdecl
      obtain ⟨w', hw', hww'⟩ := Option.map_eq_some_iff.1 hdecl
      have hbase : w'.baseName = w.baseName := by
        rw [baseName_of_route hw', baseName_of_route hw]
        rfl
      have herr : implement input L (WorkUnit.entry m i i g.builder.methods.length)
          { g with builder := ⟨g.builder.methods ++ [⟨m.name, i, none⟩], g.builder.names ++ [m.name],
                                g.builder.slots⟩, nextId := i + 1 } = .error (unbindable input w') :=
        (implement_of_fresh rfl rfl (hconv m (by simp)) (List.nodup_append.1 hsplit).1).1 w' hw'
      simp only [herr, bind, Except.bind]
      simp [unbindable, hbase, hww']
    | succ j =>
      -- the first member is implemented, and the one that fails is among the rest
      have hcomplete : (route input L (WorkUnit.entry m₀ i i g.builder.methods.length)).2 = none :=
        (route_complete_method L (WorkUnit.entry m₀ i i 0) _).2 (by simpa using hbefore 0 m₀ (Nat.succ_pos j) rfl)
      obtain ⟨g₁, hi, hn, -, hnames⟩ := implement_entry (hconv m₀ (by simp)) (List.nodup_append.1 hsplit).1 hcomplete
      have hrest := ih hn (by simpa using hj)
        (fun j' m' hlt hj' => by
          simpa [Nat.add_assoc, Nat.add_comm 1 j'] using hbefore (j' + 1) m' (by omega) (by simpa using hj'))
        (by simpa [Nat.add_assoc, Nat.add_comm 1 j] using hw)
        (fun m' hm' => hconv m' (List.mem_cons_of_mem _ hm'))
        (by rw [hnames]; exact hsplit)
      simp only [hi, hrest, bind, Except.bind]

theorem generate_ok_iff {I : InterfaceDecl} :
    (∃ t, BindingType.generate L input I = .ok t) ↔
      I.validate = .ok () ∧ (∀ i m, I.members[i]? = some m → (route input L (WorkUnit.entry m i i 0)).2 = none) ∧
        (declaredNames input L 0 I.members).Nodup := by
  constructor
  · rintro ⟨t, ht⟩
    refine ⟨BindingType.validate_of_generate ht, fun i m hm => ?_, ?_⟩
    · obtain ⟨-, -, e, -, hp⟩ := BindingType.generate_layout ht hm
      exact (route_complete_method L (WorkUnit.entry m i i 0) e).1 hp.complete
    · obtain ⟨_, -, h⟩ := bind_eq_ok ht
      obtain ⟨⟨entries, g⟩, hg, -⟩ := bind_eq_ok h
      simpa using members_names hg rfl (by simp)
  · rintro ⟨hv, hroute, hnd⟩
    obtain ⟨r, hr, l, hl⟩ := members_of_fresh (rfl : ({} : Generation).nextId = 0) ⟨[], rfl⟩ (fun j m hj => by simpa using hroute j m hj)
      (fun m hm => MemberDecl.isSupported_of_validate (InterfaceDecl.validateFrom_member hv hm))
      (by simpa using hnd)
    -- every declared method was filled, so the builder finishes
    refine ⟨⟨I, input.config, l.map fun p => p.1.finished p.2, r.1, r.2.builder.slots, r.2.notes⟩, ?_⟩
    simp only [BindingType.generate, hv, hr, TypeBuilder.finish, hl, TypeBuilder.finishMethods_filled, bind,
      Except.bind]
    rfl

end Generation

/-- Whether the standard stages can bind a member: a complex type needs the lowering stage and a
transformer for its key, and an optional type, once the complex ones are lowered, needs the
nullable stage. -/
def MemberDecl.bindable (input : GenerationInput) (m : MemberDecl) : Bool :=
  (!m.types.any TypeRef.isNamed ||
      input.config.stages.contains .lowering && m.types.all fun t => t.key?.all fun k => (input.lowering k).isSome) &&
    (!(m.mapTypes input.lowerRef).types.any TypeRef.isNullable || input.config.stages.contains .nullable)

@[simp]
theorem MemberDecl.bindable_rename (input : GenerationInput) (m : MemberDecl) (n : String) :
    ({ m with name := n } : MemberDecl).bindable input = m.bindable input := rfl

namespace TypeRef

@[simp]
theorem isNamed_asPointer (t : TypeRef) : t.asPointer.isNamed = t.isNamed := by
  cases t <;> rfl

@[simp]
theorem isNullable_asPointer (t : TypeRef) : t.asPointer.isNullable = false := by
  cases t <;> rfl

theorem isNamed_lowerRef {input : GenerationInput} (hlow : ∀ k t, input.lowering k = some t → t.isNamed = false)
    {t : TypeRef} (h : t.key?.all (fun k => (input.lowering k).isSome) = true) :
    (input.lowerRef t).isNamed = false := by
  cases t with
  | named k =>
    obtain ⟨t', ht'⟩ := Option.isSome_iff_exists.1 (by simpa [key?] using h)
    simp [GenerationInput.lowerRef, ht', hlow k t' ht']
  | native t | nullable t => rfl

end TypeRef

namespace Stage

variable {input : GenerationInput}

theorem route_directCall_complete (u : WorkUnit) :
    (route input [directCall] u).2 = none ↔ u.decl.isDirectlyPassable = true := by
  cases h : directCall.applies input u
  · rw [route_snd_of_not_applies h]
    simp only [applies] at h
    simp [route, h]
  · simp only [applies] at h
    simp [route, applies, helper, h]

theorem route_nullable_complete (u : WorkUnit) :
    (route input [nullable, directCall] u).2 = none ↔
      u.decl.types.any TypeRef.isNamed = false ∧
        (u.decl.types.any TypeRef.isNullable = true → input.config.stages.contains .nullable = true) := by
  cases happ : nullable.applies input u
  · rw [route_snd_of_not_applies happ, route_directCall_complete, MemberDecl.isDirectlyPassable_eq]
    simp only [applies] at happ
    generalize u.decl.types.any TypeRef.isNamed = named at *
    generalize u.decl.types.any TypeRef.isNullable = optional at *
    generalize input.config.stages.contains .nullable = on at *
    cases named <;> cases optional <;> cases on <;> simp_all
  · rw [route_snd_of_helper happ rfl, route_directCall_complete, MemberDecl.isDirectlyPassable_eq]
    simp only [applies, Bool.and_eq_true, Bool.not_eq_true'] at happ
    simp [WorkUnit.helper, List.any_map, Function.comp_def, happ]

theorem all_lowerable_iff (ts : List TypeRef) :
    (ts.all fun t => t.key?.all fun k => (input.lowering k).isSome) = true ↔
      ∀ t ∈ ts, ∀ k, t = .named k → (input.lowering k).isSome = true := by
  simp only [List.all_eq_true]
  refine forall₂_congr fun t _ => ?_
  cases t <;> simp [TypeRef.key?]

theorem lowered_applies_of {u : WorkUnit} (hon : input.config.stages.contains .lowering = true)
    (hn : u.decl.types.any TypeRef.isNamed = true)
    (hall : ∀ t ∈ u.decl.types, ∀ k, t = .named k → (input.lowering k).isSome = true) :
    lowered.applies input u = true := by
  simp only [applies, hon, hn, Bool.true_and, List.all_eq_true]
  intro t ht
  cases t with
  | named k => exact hall _ ht k rfl
  | native t | nullable t => rfl

variable (hlow : ∀ k t, input.lowering k = some t → t.isNamed = false)
include hlow

theorem route_lowered_complete (u : WorkUnit) :
    (route input [lowered, nullable, directCall] u).2 = none ↔ u.decl.bindable input = true := by
  cases happ : lowered.applies input u
  · rw [route_snd_of_not_applies happ, route_nullable_complete]
    cases hn : u.decl.types.any TypeRef.isNamed
    · -- nothing to lower: lowering leaves the shape as it is
      have hsame : u.decl.types.map input.lowerRef = u.decl.types := by
        conv => rhs; rw [← List.map_id u.decl.types]
        exact List.map_congr_left fun t ht =>
          TypeRef.lowerRef_of_not_named (by simpa using List.any_eq_false.1 hn t ht)
      by_cases hq : input.config.stages.contains .nullable = true <;>
        simp [MemberDecl.bindable, hn, hsame, hq]
    · -- a complex type the lowering stage declines is left for no stage
      have hb : u.decl.bindable input = false := by
        cases hon : input.config.stages.contains .lowering
        · simp [MemberDecl.bindable, hn, hon]
        · have hkeys : (u.decl.types.all fun t => t.key?.all fun k => (input.lowering k).isSome) = false := by
            rw [← Bool.not_eq_true, all_lowerable_iff]
            exact fun hall => absurd (lowered_applies_of hon hn hall) (by simp [happ])
          simp [MemberDecl.bindable, hn, hon, hkeys]
      simp [hb]
  · rw [route_snd_of_helper happ rfl, route_nullable_complete]
    have hon : input.config.stages.contains .lowering = true := by
      simp only [applies, Bool.and_eq_true] at happ
      exact happ.1.1
    have hall := lowerable_of_applies happ
    have hnone : (u.decl.types.map input.lowerRef).any TypeRef.isNamed = false := by
      rw [List.any_eq_false]
      intro t ht
      obtain ⟨t', ht', rfl⟩ := List.mem_map.1 ht
      have hk : t'.key?.all (fun k => (input.lowering k).isSome) = true := by
        cases t' <;> simp [TypeRef.key?, hall _ ht']
      simp [TypeRef.isNamed_lowerRef hlow hk]
    have hkeys := (all_lowerable_iff u.decl.types).2 hall
    simp only [MemberDecl.bindable, hon, hkeys, Bool.true_and, Bool.or_true, Bool.and_true]
    by_cases hq : input.config.stages.contains .nullable = true <;>
      simp [WorkUnit.helper, hnone, hq]

theorem route_standard_complete (u : WorkUnit) :
    (route input standard u).2 = none ↔ u.decl.bindable input = true := by
  cases happ : disposalGuard.applies input u
  · rw [standard, route_snd_of_not_applies happ, route_lowered_complete hlow]
  · rw [standard, route_snd_of_helper happ rfl, route_lowered_complete hlow]
    simp [WorkUnit.helper]

end Stage

section Standard

open Generation

/-- With the standard stages and transformers that lower to native or optional types, a valid
interface generates exactly when every member is bindable and the names generation declares,
members' and helpers' alike, are all distinct. With distinct names it fails on the first member
that is not bindable, with the reason the stages stopped at that member's shape. -/
theorem generate_standard_iff_bindable {input : GenerationInput}
    (hlow : ∀ k t, input.lowering k = some t → t.isNamed = false) {I : InterfaceDecl} (hv : I.validate = .ok ()) :
    ((∃ t, BindingType.generate standard input I = .ok t) ↔
      (∀ m ∈ I.members, m.bindable input = true) ∧ (declaredNames input standard 0 I.members).Nodup) ∧
    ((declaredNames input standard 0 I.members).Nodup →
      ∀ i m, I.members[i]? = some m → m.bindable input = false →
        (∀ j m', j < i → I.members[j]? = some m' → m'.bindable input = true) →
        ∃ w, (route input standard (WorkUnit.entry m i i 0)).2 = some w ∧ w.baseName = m.name ∧
          BindingType.generate standard input I = .error (unbindable input w)) := by
  have hconv : ∀ m ∈ I.members, m.callingConvention.isSupported = true :=
    fun m hm => MemberDecl.isSupported_of_validate (InterfaceDecl.validateFrom_member hv hm)
  refine ⟨?_, fun hnd i m hm hb hbefore => ?_⟩
  · rw [generate_ok_iff]
    simp only [hv, true_and, route_standard_complete hlow, WorkUnit.entry]
    refine and_congr_left fun _ => ⟨fun h m hm => ?_, fun h i m hm => h m (List.mem_of_getElem? hm)⟩
    obtain ⟨i, hi⟩ := List.mem_iff_getElem?.1 hm
    exact h i m hi
  · -- the route of the first member that is not bindable stops short
    obtain ⟨w, hw⟩ : ∃ w, (route input standard (WorkUnit.entry m i i 0)).2 = some w := by
      cases h : (route input standard (WorkUnit.entry m i i 0)).2 with
      | none =>
        have := (route_standard_complete hlow _).1 h
        simp [WorkUnit.entry, hb] at this
      | some w => exact ⟨w, rfl⟩
    refine ⟨w, hw, baseName_of_route hw, ?_⟩
    have hrun : members standard input 0 I.members {} = .error (unbindable input w) :=
      members_of_unbindable (rfl : ({} : Generation).nextId = 0) hm
        (fun j m' hj hm' => by simpa using (route_standard_complete hlow _).2 (hbefore j m' hj hm'))
        (by simpa using hw) hconv (by simpa using hnd)
    simp only [BindingType.generate, hv, hrun, bind, Except.bind]

theorem collision_generate_standard :
    let I : InterfaceDecl := ⟨"C", [{ name := "A" }, { name := "A_guarded_0" }]⟩
    let input : GenerationInput := ⟨{}, fun _ => none⟩
    (∀ k t, input.lowering k = some t → t.isNamed = false) ∧ I.validate = .ok () ∧
    ((∃ t, BindingType.generate standard input I = .ok t) ↔
      (∀ m ∈ I.members, m.bindable input = true) ∧ (declaredNames input standard 0 I.members).Nodup) ∧
    ((declaredNames input standard 0 I.members).Nodup →
      ∀ i m, I.members[i]? = some m → m.bindable input = false →
        (∀ j m', j < i → I.members[j]? = some m' → m'.bindable input = true) →
        ∃ w, (route input standard (WorkUnit.entry m i i 0)).2 = some w ∧ w.baseName = m.name ∧
          BindingType.generate standard input I = .error (unbindable input w)) :=
by
  intro I input
  have hlow : ∀ k t, input.lowering k = some t → t.isNamed = false := fun _ _ h => by cases h
  exact ⟨hlow, rfl, generate_standard_iff_bindable hlow rfl⟩

/-- Two members, the second named as the first one's guard helper: both are
bindable, yet generation fails, since the helper's name is taken. -/
theorem guarded_name_collision :
    let I : InterfaceDecl := ⟨"C", [{ name := "A" }, { name := "A_guarded_0" }]⟩
    let input := ({} : Factory Native.State Native.NativeFunction).input {}
    I.validate = .ok () ∧ (∀ m ∈ I.members, m.bindable input = true) ∧
      BindingType.generate standard input I =
        .error (.configuration "A_guarded_0" "generated method name collides with an existing method") :=
  ⟨rfl, by decide, rfl⟩

end Standard

end NativeBridge
