import NativeBridge.Proofs.Bindable
import NativeBridge.Proofs.Disposal

/-!
The shape of a generated type, for any list of stages.

Following the forwarding targets from a member's entry method passes a chain of methods that all
serve the member and stops at the one native body, which calls the member's own slot
(`BindingType.Trace`). The chains of the members, in member order, are the methods of the type
one after another, so every method lies on exactly one of them. Along a chain the body shapes
come in the standard order, each at most once: a member's own unit may be guarded, a helper is
lowered only while it has a complex type and marshalled only once none is left, and lowering
leaves no complex type behind (`Stage.route_stages_sublist`). The slot of a member binds its
symbol with the native signature of the member's fully lowered shape.

`BindingType.generate_shape` gathers this for every generated type.
-/

namespace NativeBridge

open Stage

def GenerationInput.fullyLowered (input : GenerationInput) (t : TypeRef) : TypeRef :=
  (input.lowerRef t).asPointer

namespace BindingType

/-- Following forwarding targets from method `id` of `t` passes the methods `c`, in order, and
stops at a native body. -/
inductive Trace (t : BindingType) : Nat → List Nat → Prop
  | native {id slot : Nat} {sig : NativeSignature} :
      (t.methods[id]?).map (·.body) = some (.native slot sig) → Trace t id [id]
  | forward {id next : Nat} {c : List Nat} :
      (t.methods[id]?).bind (·.body.target?) = some next → Trace t next c → Trace t id (id :: c)

theorem Trace.unique {t : BindingType} {id : Nat} {c c' : List Nat} (h : t.Trace id c)
    (h' : t.Trace id c') : c = c' := by
  induction h generalizing c' with
  | native hn =>
    cases h' with
    | native => rfl
    | forward hf =>
      obtain ⟨md, hmd, hb⟩ := Option.map_eq_some_iff.1 hn
      simp [hmd, hb, AdapterBody.target?] at hf
  | forward hf _ ih =>
    cases h' with
    | native hn =>
      obtain ⟨md, hmd, hb⟩ := Option.map_eq_some_iff.1 hn
      simp [hmd, hb, AdapterBody.target?] at hf
    | forward hf' hr' =>
      rw [hf] at hf'
      cases hf'
      rw [ih hr']

structure Serves (t : BindingType) (input : GenerationInput) (i : Nat) (m : MemberDecl) (c : List Nat) :
    Prop where
  entry : ∃ e, t.entries[i]? = some e ∧ t.Trace e c ∧
    (t.methods[e]?).map (fun md => (md.name, md.decl)) = some (m.name, m)
  member : ∀ id ∈ c, (t.methods[id]?).map (·.member) = some i
  shapes : (c.filterMap fun id => (t.methods[id]?).map (·.body.shape)).Sublist
    ["disposal-guard", "lowered", "nullable-marshal", "native"]
  native : ∃ last, c.getLast? = some last ∧
    (t.methods[last]?).map (·.body) = some (.native i (m.mapTypes input.fullyLowered).nativeSignature)
  passable : (m.mapTypes input.fullyLowered).isDirectlyPassable = true
  slot : t.slots[i]? =
    some ⟨m.symbolName, m.name, (m.mapTypes input.fullyLowered).nativeSignature, input.config.lazyBinding⟩

end BindingType

namespace MemberDecl

theorem mapTypes_mapTypes (f g : TypeRef → TypeRef) (d : MemberDecl) :
    (d.mapTypes f).mapTypes g = d.mapTypes (g ∘ f) := by
  simp [mapTypes, Function.comp_def]

theorem mapTypes_congr {f g : TypeRef → TypeRef} {d : MemberDecl} (h : ∀ t ∈ d.types, f t = g t) :
    d.mapTypes f = d.mapTypes g := by
  have hps : d.params.map (fun p => { p with ty := f p.ty }) = d.params.map (fun p => { p with ty := g p.ty }) :=
    List.map_congr_left fun p hp => by rw [h p.ty (ty_mem_types hp)]
  simp [mapTypes, hps, h d.ret.ty (ret_mem_types d)]

end MemberDecl

namespace TypeRef

@[simp]
theorem asPointer_asPointer (t : TypeRef) : t.asPointer.asPointer = t.asPointer := by
  cases t <;> rfl

end TypeRef

namespace GenerationInput

variable {input : GenerationInput}

@[simp]
theorem fullyLowered_native (n : NativeType) : input.fullyLowered (.native n) = .native n := rfl

theorem lowerRef_lowerRef (hlow : ∀ k t, input.lowering k = some t → t.isNamed = false) (t : TypeRef) :
    input.lowerRef (input.lowerRef t) = input.lowerRef t := by
  cases t with
  | named k =>
    cases hk : input.lowering k with
    | none => simp [lowerRef, hk]
    | some t' =>
      have hone : input.lowerRef (.named k) = t' := by simp [lowerRef, hk]
      rw [hone]
      exact TypeRef.lowerRef_of_not_named (hlow k t' hk)
  | native n | nullable n => rfl

theorem fullyLowered_lowerRef (hlow : ∀ k t, input.lowering k = some t → t.isNamed = false) (t : TypeRef) :
    input.fullyLowered (input.lowerRef t) = input.fullyLowered t := by
  simp [fullyLowered, lowerRef_lowerRef hlow]

theorem fullyLowered_asPointer {t : TypeRef} (h : t.isNamed = false) :
    input.fullyLowered t.asPointer = input.fullyLowered t := by
  have h' : t.asPointer.isNamed = false := by simpa using h
  simp [fullyLowered, TypeRef.lowerRef_of_not_named h, TypeRef.lowerRef_of_not_named h']

end GenerationInput

@[simp]
theorem WorkUnit.types_helper (u : WorkUnit) (d : MemberDecl) (sfx : String) :
    (u.helper d sfx).decl.types = d.types := rfl

def WorkUnit.phase (u : WorkUnit) : Nat :=
  if u.isEntry then 0
  else if u.decl.types.any TypeRef.isNamed then 1
  else if u.decl.types.any TypeRef.isNullable then 2
  else 3

namespace Stage

def rank : Stage → Nat
  | .disposalGuard => 0
  | .lowered => 1
  | .nullable => 2
  | .directCall => 3

def shape : Stage → String
  | .disposalGuard => "disposal-guard"
  | .lowered => "lowered"
  | .nullable => "nullable-marshal"
  | .directCall => "native"

theorem drop_rank (s : Stage) : standard.drop s.rank = s :: standard.drop (s.rank + 1) := by
  cases s <;> rfl

variable {input : GenerationInput} {u v : WorkUnit} {s : Stage}

@[simp]
theorem shape_body (u : WorkUnit) (slot : Nat) (s : Stage) : (s.body u slot).shape = s.shape := by
  cases s <;> rfl

theorem target?_body (hv : s.helper input u = some v) (slot : Nat) : (s.body u slot).target? = some (u.method + 1) := by
  cases s <;> simp_all [helper, body, AdapterBody.target?]

theorem helper_eq_none (h : s.helper input u = none) : s = directCall := by
  cases s <;> simp_all [helper]

theorem phase_le_three (u : WorkUnit) : u.phase ≤ 3 := by
  unfold WorkUnit.phase
  repeat' split
  all_goals omega

theorem phase_le_rank (h : s.applies input u = true) : u.phase ≤ s.rank := by
  cases s with
  | disposalGuard =>
    simp only [applies, Bool.and_eq_true] at h
    simp [WorkUnit.phase, h.2, rank]
  | lowered =>
    simp only [applies, Bool.and_eq_true] at h
    unfold WorkUnit.phase
    split <;> simp [h.1.2, rank]
  | nullable =>
    simp only [applies, Bool.and_eq_true, Bool.not_eq_true'] at h
    unfold WorkUnit.phase
    split <;> simp [h.1.2, h.2, rank]
  | directCall => exact phase_le_three u

theorem rank_lt_phase (hlow : ∀ k t, input.lowering k = some t → t.isNamed = false)
    (h : s.applies input u = true) (hv : s.helper input u = some v) : s.rank < v.phase := by
  cases s with
  | disposalGuard =>
    cases hv
    simp only [WorkUnit.phase, WorkUnit.isEntry_helper, Bool.false_eq_true, ↓reduceIte, rank]
    repeat' split
    all_goals omega
  | lowered =>
    cases hv
    -- every complex type has a transformer, and none lowers to a complex type
    have hall := lowerable_of_applies h
    have hnone : (u.decl.types.map input.lowerRef).any TypeRef.isNamed = false := by
      rw [List.any_eq_false]
      intro t ht
      obtain ⟨t', ht', rfl⟩ := List.mem_map.1 ht
      have hk : t'.key?.all (fun k => (input.lowering k).isSome) = true := by
        cases t' <;> simp [TypeRef.key?, hall _ ht']
      simp [TypeRef.isNamed_lowerRef hlow hk]
    simp only [WorkUnit.phase, WorkUnit.isEntry_helper, WorkUnit.types_helper, MemberDecl.types_mapTypes, hnone,
      Bool.false_eq_true, ↓reduceIte, rank]
    split <;> omega
  | nullable =>
    cases hv
    simp only [applies, Bool.and_eq_true, Bool.not_eq_true'] at h
    simp [WorkUnit.phase, WorkUnit.types_helper, List.any_map, Function.comp_def, h.2, rank]
  | directCall => simp [helper] at hv

variable (hlow : ∀ k t, input.lowering k = some t → t.isNamed = false)
include hlow

theorem route_stages_sublist (L : List Stage) (u : WorkUnit) :
    ((route input L u).1.map (·.2)).Sublist (standard.drop u.phase) := by
  induction L generalizing u with
  | nil => simp [route]
  | cons s rest ih =>
    cases happ : s.applies input u
    · simpa [route, happ] using ih u
    · have hle := phase_le_rank happ
      -- whatever follows `s` on the route lies past it in the standard order
      have hs : (s :: standard.drop (s.rank + 1)).Sublist (standard.drop u.phase) := by
        rw [← drop_rank]
        exact List.drop_sublist_drop_left _ hle
      have htail : ∀ l : List Stage, l.Sublist (standard.drop (s.rank + 1)) →
          (s :: l).Sublist (standard.drop u.phase) := fun l hl => (hl.cons_cons s).trans hs
      cases hv : s.helper input u with
      | none =>
        simpa [route, happ, hv] using htail [] (List.nil_sublist _)
      | some v =>
        have hlt := rank_lt_phase hlow happ hv
        simpa [route, happ, hv] using htail _ ((ih v).trans (List.drop_sublist_drop_left _ hlt))

theorem mapTypes_fullyLowered_helper (h : s.applies input u = true) (hv : s.helper input u = some v) :
    v.decl.mapTypes input.fullyLowered = { u.decl.mapTypes input.fullyLowered with name := v.decl.name } := by
  cases s with
  | disposalGuard =>
    cases hv
    rfl
  | lowered =>
    cases hv
    have hsame : u.decl.mapTypes (input.fullyLowered ∘ input.lowerRef) = u.decl.mapTypes input.fullyLowered :=
      MemberDecl.mapTypes_congr fun t _ => GenerationInput.fullyLowered_lowerRef hlow t
    simp only [WorkUnit.helper, MemberDecl.mapTypes_rename, MemberDecl.mapTypes_mapTypes, hsame]
  | nullable =>
    cases hv
    simp only [applies, Bool.and_eq_true, Bool.not_eq_true'] at h
    -- no complex type is left, so passing optional values as pointers is the full lowering
    have hsame : u.decl.mapTypes (input.fullyLowered ∘ TypeRef.asPointer) = u.decl.mapTypes input.fullyLowered :=
      MemberDecl.mapTypes_congr fun t ht =>
        GenerationInput.fullyLowered_asPointer (by simpa using List.any_eq_false.1 h.2 t ht)
    simp only [WorkUnit.helper, MemberDecl.mapTypes_rename, MemberDecl.mapTypes_mapTypes, hsame]
  | directCall => simp [helper] at hv

theorem slotOf_of_complete {L : List Stage} {u : WorkUnit} (h : (route input L u).2 = none) :
    slotOf input L u = some ⟨u.symbolName, u.baseName, (u.decl.mapTypes input.fullyLowered).nativeSignature,
      input.config.lazyBinding⟩ ∧ (u.decl.mapTypes input.fullyLowered).isDirectlyPassable = true := by
  induction L generalizing u with
  | nil => simp [route] at h
  | cons s rest ih =>
    cases happ : s.applies input u
    · rw [slotOf_of_not_applies happ]
      exact ih (by simpa [route, happ] using h)
    · cases hv : s.helper input u with
      | none =>
        obtain rfl := helper_eq_none hv
        -- a directly passable shape is its own full lowering
        have hpass : u.decl.isDirectlyPassable = true := by simpa [applies] using happ
        have hself : u.decl.mapTypes input.fullyLowered = u.decl := MemberDecl.mapTypes_eq_self fun t ht => by
          have := List.all_eq_true.1 hpass t ht
          cases t <;> simp_all [TypeRef.isDirectlyPassable]
        rw [slotOf_directCall happ, hself]
        exact ⟨rfl, hpass⟩
      | some v =>
        obtain ⟨-, hsym, hbase, -, -, -⟩ := helper_fields hv
        obtain ⟨hslot, hpass⟩ := ih (by simpa [route, happ, hv] using h)
        rw [mapTypes_fullyLowered_helper hlow happ hv] at hslot hpass
        rw [slotOf_of_helper happ hv, hslot, hsym, hbase]
        exact ⟨rfl, hpass⟩

end Stage

namespace Stage

theorem route_directCall {input : GenerationInput} {rest : List Stage} {w : WorkUnit}
    (happ : directCall.applies input w = true) : route input (directCall :: rest) w = ([(w, directCall)], none) := by
  simp [route, happ, helper]

end Stage

namespace Placed

variable {t : BindingType} {input : GenerationInput}

@[elab_as_elim]
theorem induction {motive : (L : List Stage) → (w : WorkUnit) → Placed t input L w → Prop}
    (direct : ∀ rest w (hp : Placed t input (directCall :: rest) w), directCall.applies input w = true →
      motive (directCall :: rest) w hp)
    (forward : ∀ s rest w v (hp : Placed t input (s :: rest) w) (happ : s.applies input w = true)
      (hv : s.helper input w = some v), motive rest v (hp.helper happ hv) → motive (s :: rest) w hp)
    (skip : ∀ s rest w (hp : Placed t input (s :: rest) w) (happ : s.applies input w = false),
      motive rest w (hp.skip happ) → motive (s :: rest) w hp) :
    ∀ L w (hp : Placed t input L w), motive L w hp := by
  intro L
  induction L with
  | nil => intro w hp; exact absurd hp.complete (by simp [route])
  | cons s rest ih =>
    intro w hp
    cases happ : s.applies input w
    · exact skip s rest w hp happ (ih w _)
    · cases hv : s.helper input w with
      | none =>
        obtain rfl := helper_eq_none hv
        exact direct rest w hp happ
      | some v => exact forward s rest w v hp happ hv (ih v _)

theorem route_length_of_helper {s : Stage} {rest : List Stage} {w v : WorkUnit}
    (happ : s.applies input w = true) (hv : s.helper input w = some v) :
    (route input (s :: rest) w).1.length = (route input rest v).1.length + 1 := by
  simp [route, happ, hv]

theorem trace {L : List Stage} {w : WorkUnit} (hp : Placed t input L w) :
    t.Trace w.method (List.range' w.method (route input L w).1.length) := by
  induction L, w, hp using Placed.induction with
  | direct rest w hp happ =>
    have hb : (t.methods[w.method]?).map (·.body) = some (.native w.memberIndex w.decl.nativeSignature) := by
      simp [hp.getElem?_method happ, WorkUnit.finished, body]
    simpa [route_directCall happ] using BindingType.Trace.native hb
  | forward s rest w v hp happ hv ih =>
    obtain ⟨-, -, -, -, hvm, -⟩ := helper_fields hv
    rw [route_length_of_helper happ hv, List.range'_succ]
    refine .forward ?_ (hvm ▸ ih)
    simp [hp.getElem?_method happ, WorkUnit.finished, target?_body hv]
  | skip s rest w hp happ ih => simpa [route, happ] using ih

theorem member {L : List Stage} {w : WorkUnit} (hp : Placed t input L w) :
    ∀ id ∈ List.range' w.method (route input L w).1.length, (t.methods[id]?).map (·.member) = some w.memberIndex := by
  induction L, w, hp using Placed.induction with
  | direct rest w hp happ =>
    simp [route_directCall happ, hp.getElem?_method happ, WorkUnit.finished]
  | forward s rest w v hp happ hv ih =>
    obtain ⟨hidx, -, -, -, hvm, -⟩ := helper_fields hv
    rw [route_length_of_helper happ hv, List.range'_succ]
    intro id hid
    rcases List.mem_cons.1 hid with rfl | hid
    · simp [hp.getElem?_method happ, WorkUnit.finished]
    · rw [← hidx]
      exact ih id (hvm ▸ hid)
  | skip s rest w hp happ ih => simpa [route, happ] using ih

theorem shapes {L : List Stage} {w : WorkUnit} (hp : Placed t input L w) :
    (List.range' w.method (route input L w).1.length).filterMap (fun id => (t.methods[id]?).map (·.body.shape)) =
      (route input L w).1.map (·.2.shape) := by
  induction L, w, hp using Placed.induction with
  | direct rest w hp happ =>
    simp [route_directCall happ, hp.getElem?_method happ, WorkUnit.finished]
  | forward s rest w v hp happ hv ih =>
    obtain ⟨-, -, -, -, hvm, -⟩ := helper_fields hv
    rw [route_length_of_helper happ hv, List.range'_succ, List.filterMap_cons, hp.getElem?_method happ]
    simp only [Option.map_some, WorkUnit.finished, shape_body, ← hvm, ih]
    simp [route, happ, hv]
  | skip s rest w hp happ ih => simpa [route, happ] using ih

theorem native {L : List Stage} {w : WorkUnit} (hp : Placed t input L w) :
    ∃ s, slotOf input L w = some s ∧ ∃ last, (List.range' w.method (route input L w).1.length).getLast? = some last ∧
      (t.methods[last]?).map (·.body) = some (.native w.memberIndex s.signature) := by
  induction L, w, hp using Placed.induction with
  | direct rest w hp happ =>
    refine ⟨_, slotOf_directCall happ, w.method, by simp [route_directCall happ], ?_⟩
    simp [hp.getElem?_method happ, WorkUnit.finished, body]
  | forward s rest w v hp happ hv ih =>
    obtain ⟨hidx, -, -, -, hvm, -⟩ := helper_fields hv
    obtain ⟨sl, hsl, last, hlast, hbody⟩ := ih
    refine ⟨sl, by rw [slotOf_of_helper happ hv, hsl], last, ?_, by rw [hbody, hidx]⟩
    rw [route_length_of_helper happ hv, List.range'_succ, List.getLast?_cons, ← hvm, hlast]
    rfl
  | skip s rest w hp happ ih => simpa [route, happ, slotOf_of_not_applies happ] using ih

end Placed

namespace Generation

variable {L : List Stage} {input : GenerationInput}

theorem members_spans {i : Nat} {ms : List MemberDecl} {g : Generation} {r : List Nat × Generation}
    (h : members L input i ms g = .ok r) :
    r.2.builder.slots.length = g.builder.slots.length + ms.length ∧
      ∃ spans : List (List Nat), spans.length = ms.length ∧
        spans.flatten = List.range' g.builder.methods.length (r.2.builder.methods.length - g.builder.methods.length) ∧
        ∀ j m e c, ms[j]? = some m → r.1[j]? = some e → spans[j]? = some c →
          c = List.range' e (route input L (WorkUnit.entry m (i + j) (g.nextId + j) e)).1.length := by
  induction ms generalizing i g r with
  | nil =>
    cases h
    exact ⟨by simp, [], by simp⟩
  | cons m ms ih =>
    obtain ⟨-, g₁, rest, hi, hr, hes⟩ := members_cons h
    obtain ⟨-, hm, ⟨slot, -, hs⟩, hn, -⟩ := implement_ok (by rfl) (by rfl) hi
    obtain ⟨hslots, spans, hlen, hflat, hall⟩ := ih hr
    obtain ⟨⟨extra, hextra⟩, -⟩ := members_ok hr
    dsimp only at hm hs hn
    let u := WorkUnit.entry m i g.nextId g.builder.methods.length
    have hchain : (chain input L u g.builder.slots.length).length = (route input L u).1.length := by
      simp [chain]
    refine ⟨by simp [hslots, hs]; omega, List.range' g.builder.methods.length (route input L u).1.length :: spans,
      by simp [hlen], ?_, ?_⟩
    · -- this member's span, then the spans of the rest
      have hlen₁ : g₁.builder.methods.length = g.builder.methods.length + (route input L u).1.length := by
        simp [hm, hchain, u]
      have hlen₂ : r.2.builder.methods.length = g₁.builder.methods.length + extra.length := by
        simpa using congrArg List.length hextra
      have happend := @List.range'_append g.builder.methods.length (route input L u).1.length
        (r.2.builder.methods.length - g₁.builder.methods.length) 1
      simp only [Nat.one_mul] at happend
      rw [List.flatten_cons, hflat, hlen₁] at *
      rw [happend]
      congr 1
      omega
    · intro j m' e c hm' he hc
      cases j with
      | zero =>
        cases hm'
        simp only [hes, List.getElem?_cons_zero, Option.some.injEq] at he
        subst he
        simpa using hc.symm
      | succ j =>
        -- member `j + 1` here is member `j` of the rest, which starts one number and one unique
        -- id later
        have := hall j m' e c (by simpa using hm') (by simpa [hes] using he) (by simpa using hc)
        rw [this, hn]
        simp only [Nat.add_right_comm i 1 j, Nat.add_assoc, Nat.add_comm 1 j]

end Generation

namespace TypeBuilder

theorem finish_ok {b : TypeBuilder} {methods : List MethodDef} {slots : List SlotDef}
    (h : b.finish = .ok (methods, slots)) : methods.length = b.methods.length ∧ slots = b.slots := by
  obtain ⟨methods', hfm, hf⟩ := bind_eq_ok h
  cases hf
  exact ⟨length_finishMethods hfm, rfl⟩

end TypeBuilder

namespace BindingType

variable {L : List Stage} {input : GenerationInput} {I : InterfaceDecl} {t : BindingType}

theorem generate_spans (h : generate L input I = .ok t) :
    t.slots.length = I.members.length ∧
      ∃ spans : List (List Nat), spans.length = I.members.length ∧ spans.flatten = List.range t.methods.length ∧
        ∀ i m e c, I.members[i]? = some m → t.entries[i]? = some e → spans[i]? = some c →
          c = List.range' e (route input L (WorkUnit.entry m i i e)).1.length := by
  obtain ⟨_, -, h⟩ := bind_eq_ok h
  obtain ⟨⟨entries, g⟩, hg, h⟩ := bind_eq_ok h
  obtain ⟨⟨methods, slots⟩, hf, h⟩ := bind_eq_ok h
  cases h
  obtain ⟨hmlen, rfl⟩ := TypeBuilder.finish_ok hf
  obtain ⟨hslots, spans, hlen, hflat, hall⟩ := Generation.members_spans hg
  refine ⟨by simpa using hslots, spans, hlen, by simpa [hmlen, List.range_eq_range'] using hflat, ?_⟩
  intro i m e c hm he hc
  simpa using hall i m e c hm he hc

variable (hlow : ∀ k t, input.lowering k = some t → t.isNamed = false)
include hlow

/-- How a generated type serves each member, for any list of stages: given transformers that do
not lower to a complex type, there is one slot per member, and the methods of the type are the
chains the members are served along, in member order, each one the trace from its member's entry
method. -/
theorem generate_shape (h : generate L input I = .ok t) :
    t.slots.length = I.members.length ∧
      ∃ paths : List (List Nat), paths.length = I.members.length ∧ paths.flatten = List.range t.methods.length ∧
        ∀ i m c, I.members[i]? = some m → paths[i]? = some c → t.Serves input i m c := by
  obtain ⟨hslots, spans, hlen, hflat, hspans⟩ := generate_spans h
  refine ⟨hslots, spans, hlen, hflat, fun i m c hm hc => ?_⟩
  obtain ⟨-, -, e, he, hp⟩ := generate_layout h hm
  obtain rfl := hspans i m e c hm he hc
  -- the member's entry unit is laid out from its entry method on
  obtain ⟨hslot, hpass⟩ := slotOf_of_complete hlow hp.complete
  obtain ⟨s, -, -, hhead⟩ := hp.exists_head
  obtain ⟨sl, hsl, last, hlast, hbody⟩ := hp.native
  rw [hslot, Option.some.injEq] at hsl
  subst hsl
  refine ⟨⟨e, he, hp.trace, ?_⟩, hp.member, ?_, ⟨last, hlast, hbody⟩, hpass, hp.slot.trans hslot⟩
  · rw [show e = (WorkUnit.entry m i i e).method from rfl, hhead]
    rfl
  · -- the shapes are those of the route's stages, which keep the standard order
    show (List.filterMap _ (List.range' (WorkUnit.entry m i i e).method _)).Sublist _
    rw [hp.shapes]
    have hsub := ((route_stages_sublist hlow L (WorkUnit.entry m i i e)).map shape).trans
      ((List.drop_sublist _ _).map shape)
    rw [List.map_map] at hsub
    exact hsub

end BindingType

theorem mixed_generate_shape :
    let I : InterfaceDecl := ⟨"Mixed",
      [{ name := "greet", params := [⟨"who", .named "string", .nativeFrees⟩], ret := ⟨.nullable .i32, .callerFrees⟩ },
       { name := "add", params := [⟨"a", .native .i32, .nativeFrees⟩, ⟨"b", .native .i32, .nativeFrees⟩],
         ret := ⟨.native .i32, .nativeFrees⟩ }]⟩
    let L := [Stage.nullable, .disposalGuard, .lowered, .lowered, .nullable, .directCall]
    let input := ({} : Factory Native.State Native.NativeFunction).input {}
    (∀ k t, input.lowering k = some t → t.isNamed = false) ∧ ∃ t, BindingType.generate L input I = .ok t ∧
      t.slots.length = I.members.length ∧
      ∃ paths : List (List Nat), paths.length = I.members.length ∧ paths.flatten = List.range t.methods.length ∧
        ∀ i m c, I.members[i]? = some m → paths[i]? = some c → t.Serves input i m c := by
  intro I L input
  have hlow : ∀ k t, input.lowering k = some t → t.isNamed = false := by
    intro k t h
    by_cases hk : k = "string"
    · subst hk
      cases h
      rfl
    · have hne : (k == "string") = false := by simpa using hk
      simp [input, Factory.input, Registry.get?, Registry.withDefaults, List.lookup_cons, hne] at h
  obtain ⟨t, ht⟩ : ∃ t, BindingType.generate L input I = .ok t := ⟨_, rfl⟩
  exact ⟨hlow, t, ht, BindingType.generate_shape hlow ht⟩

end NativeBridge
