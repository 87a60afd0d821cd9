import NativeBridge.Proofs.Route

/-!
Where a generated type keeps each member.

`members_ok` follows the members one by one: each gets its entry method, then the
methods of its route, in order, and the slot of its native call. `Placed` says that the
route of a unit is laid out so in a finished type, and `generate_layout` that the route
of every member's entry unit is.
-/

namespace NativeBridge

theorem bind_eq_ok {ε α β : Type} {x : Except ε α} {f : α → Except ε β} {b : β} (h : x >>= f = .ok b) :
    ∃ a, x = .ok a ∧ f a = .ok b := by
  cases x with
  | error e => cases h
  | ok a => exact ⟨a, rfl, h⟩

def WorkUnit.entry (m : MemberDecl) (i uniqueId method : Nat) : WorkUnit :=
  ⟨m, i, m.symbolName, m.name, uniqueId, method⟩

def WorkUnit.finished (u : WorkUnit) (body : AdapterBody) : MethodDef :=
  ⟨u.decl.name, u.memberIndex, u.decl, body⟩

@[simp]
theorem WorkUnit.finished_decl (u : WorkUnit) (body : AdapterBody) : (u.finished body).decl = u.decl := rfl

namespace Stage

variable {input : GenerationInput} {u : WorkUnit} {s : Stage} {rest : List Stage}

def methods (input : GenerationInput) (L : List Stage) (u : WorkUnit) (slot : Nat) : List MethodDef :=
  (route input L u).1.map fun p => p.1.finished (p.2.body p.1 slot)

theorem methods_of_helper {v : WorkUnit} (happ : s.applies input u = true) (hv : s.helper input u = some v)
    (slot : Nat) : methods input (s :: rest) u slot = u.finished (s.body u slot) :: methods input rest v slot := by
  simp [methods, route, happ, hv]

theorem methods_of_not_applies (happ : s.applies input u = false) (slot : Nat) :
    methods input (s :: rest) u slot = methods input rest u slot := by
  simp [methods, route, happ]

theorem methods_directCall (happ : directCall.applies input u = true) (slot : Nat) :
    methods input (directCall :: rest) u slot = [u.finished (directCall.body u slot)] := by
  simp [methods, route, happ, helper]

end Stage

namespace TypeBuilder

theorem finishMethods_append {xs ys : List PendingMethod} {zs : List MethodDef}
    (h : finishMethods (xs ++ ys) = .ok zs) :
    ∃ as bs, finishMethods xs = .ok as ∧ finishMethods ys = .ok bs ∧ zs = as ++ bs := by
  induction xs generalizing zs with
  | nil => exact ⟨[], zs, rfl, h, rfl⟩
  | cons x xs ih =>
    rw [List.cons_append, finishMethods] at h
    cases hx : x.definition with
    | none => simp [hx] at h
    | some d =>
      simp only [hx] at h
      obtain ⟨rest, hrest, h⟩ := bind_eq_ok h
      obtain ⟨as, bs, has, hbs, rfl⟩ := ih hrest
      cases h
      exact ⟨_ :: as, bs, by simp [finishMethods, hx, has, bind, Except.bind]; rfl, hbs, rfl⟩

theorem length_finishMethods {xs : List PendingMethod} {zs : List MethodDef} (h : finishMethods xs = .ok zs) :
    zs.length = xs.length := by
  induction xs generalizing zs with
  | nil => cases h; rfl
  | cons x xs ih =>
    rw [finishMethods] at h
    cases hx : x.definition with
    | none => simp [hx] at h
    | some d =>
      simp only [hx] at h
      obtain ⟨rest, hrest, h⟩ := bind_eq_ok h
      cases h
      simp [ih hrest]

theorem finishMethods_filled (l : List (WorkUnit × AdapterBody)) :
    finishMethods (l.map fun p => p.1.filled p.2) = .ok (l.map fun p => p.1.finished p.2) := by
  induction l with
  | nil => rfl
  | cons p l ih =>
    have hp : (p.1.filled p.2).definition = some (p.1.decl, p.2) := rfl
    rw [List.map_cons, finishMethods, hp]
    simp only [ih, bind, Except.bind]
    rfl

theorem finishMethods_chain (input : GenerationInput) (L : List Stage) (u : WorkUnit) (slot : Nat) :
    finishMethods (Stage.chain input L u slot) = .ok (Stage.methods input L u slot) := by
  have := finishMethods_filled ((Stage.route input L u).1.map fun p => (p.1, p.2.body p.1 slot))
  simpa [Stage.chain, Stage.methods, List.map_map, Function.comp_def] using this

end TypeBuilder

namespace Generation

open Stage

variable {L : List Stage} {input : GenerationInput}

theorem members_cons {i : Nat} {m : MemberDecl} {ms : List MemberDecl} {g : Generation}
    {r : List Nat × Generation} (h : members L input i (m :: ms) g = .ok r) :
    m.name ∉ g.builder.names ∧ ∃ g₁ rest,
      implement input L (WorkUnit.entry m i g.nextId g.builder.methods.length)
        { g with builder := ⟨g.builder.methods ++ [⟨m.name, i, none⟩], g.builder.names ++ [m.name], g.builder.slots⟩,
                  nextId := g.nextId + 1 } = .ok g₁ ∧
      members L input (i + 1) ms g₁ = .ok (rest, r.2) ∧ r.1 = g.builder.methods.length :: rest := by
  obtain ⟨⟨method, b⟩, hd, h⟩ := bind_eq_ok h
  have hname : m.name ∉ g.builder.names := by
    intro hmem
    rw [TypeBuilder.declare_of_mem hmem, TypeBuilder.propagate_error] at hd
    cases hd
  rw [TypeBuilder.declare_of_not_mem hname, TypeBuilder.propagate_ok] at hd
  cases hd
  obtain ⟨g₁, hi, h⟩ := bind_eq_ok h
  obtain ⟨⟨rest, g₂⟩, hr, h⟩ := bind_eq_ok h
  cases h
  exact ⟨hname, g₁, rest, hi, hr, rfl⟩

theorem members_ok {i : Nat} {ms : List MemberDecl} {g : Generation} {r : List Nat × Generation}
    (h : members L input i ms g = .ok r) :
    (∃ extra, r.2.builder.methods = g.builder.methods ++ extra) ∧
      (∃ extra, r.2.builder.slots = g.builder.slots ++ extra) ∧
      ∀ j m, ms[j]? = some m → ∃ pre post,
        let u := WorkUnit.entry m (i + j) (g.nextId + j) pre.length
        r.2.builder.methods = pre ++ chain input L u (g.builder.slots.length + j) ++ post ∧
          r.1[j]? = some pre.length ∧ (route input L u).2 = none ∧
          r.2.builder.slots[g.builder.slots.length + j]? = slotOf input L u := by
  induction ms generalizing i g r with
  | nil =>
    cases h
    exact ⟨⟨[], by simp⟩, ⟨[], by simp⟩, by simp⟩
  | cons m ms ih =>
    obtain ⟨-, g₁, rest, hi, hr, hes⟩ := members_cons h
    obtain ⟨hroute, hm, ⟨slot, hslot, hs⟩, hn, -, -⟩ := implement_ok (by rfl) (by rfl) hi
    obtain ⟨⟨extra, he⟩, ⟨extraSlots, hes'⟩, hall⟩ := ih hr
    dsimp only at hm hs hn he hes' hall
    refine ⟨⟨_, by rw [he, hm, List.append_assoc]⟩, ⟨slot :: extraSlots, by simp [hes', hs]⟩, ?_⟩
    intro j m' hj
    cases j with
    | zero =>
      cases hj
      refine ⟨g.builder.methods, extra, ?_⟩
      simp [he, hm, hes, hroute, hes', hs, hslot]
    | succ j =>
      -- member `j + 1` here is member `j` of the rest, which starts one number, one
      -- unique id and one slot later
      obtain ⟨pre, post, hmeth, hentry, hroute', hslot'⟩ := hall j m' (by simpa using hj)
      refine ⟨pre, post, ?_⟩
      have hi' : i + 1 + j = i + (j + 1) := by omega
      have hn' : g₁.nextId + j = g.nextId + (j + 1) := by omega
      have hs' : g₁.builder.slots.length + j = g.builder.slots.length + (j + 1) := by simp [hs]; omega
      simp only [hi', hn', hs'] at hmeth hroute' hslot'
      exact ⟨hmeth, by simp [hes, hentry], hroute', hslot'⟩

end Generation

open Stage in
/-- The route of `w` through `L` is laid out in type `t`: its methods stand in order from
`w`'s own method on, it ends at a native call, and that call is the slot of `w`'s member. -/
structure Placed (t : BindingType) (input : GenerationInput) (L : List Stage) (w : WorkUnit) : Prop where
  methods : ∃ pre post, t.methods = pre ++ Stage.methods input L w w.memberIndex ++ post ∧ pre.length = w.method
  complete : (route input L w).2 = none
  slot : t.slots[w.memberIndex]? = slotOf input L w

namespace Placed

open Stage

variable {t : BindingType} {input : GenerationInput} {w v : WorkUnit} {s : Stage} {rest : List Stage}

theorem getElem?_method (hp : Placed t input (s :: rest) w) (happ : s.applies input w = true) :
    t.methods[w.method]? = some (w.finished (s.body w w.memberIndex)) := by
  obtain ⟨pre, post, hm, hpre⟩ := hp.methods
  have hhead : Stage.methods input (s :: rest) w w.memberIndex =
      w.finished (s.body w w.memberIndex) :: (Stage.methods input (s :: rest) w w.memberIndex).tail := by
    cases hv : s.helper input w with
    | none => simp [Stage.methods, route, happ, hv]
    | some v => simp [methods_of_helper happ hv]
  rw [hm, ← hpre, hhead]
  simp

theorem helper (hp : Placed t input (s :: rest) w) (happ : s.applies input w = true)
    (hv : s.helper input w = some v) : Placed t input rest v := by
  obtain ⟨hidx, -, -, -, hvm, -⟩ := helper_fields hv
  obtain ⟨pre, post, hm, hpre⟩ := hp.methods
  refine ⟨⟨pre ++ [w.finished (s.body w w.memberIndex)], post, ?_, by simp [hpre, hvm]⟩, ?_, ?_⟩
  · rw [hm, methods_of_helper happ hv, hidx]
    simp
  · simpa [route, happ, hv] using hp.complete
  · rw [hidx, hp.slot, slotOf_of_helper happ hv]

theorem skip (hp : Placed t input (s :: rest) w) (happ : s.applies input w = false) :
    Placed t input rest w := by
  obtain ⟨pre, post, hm, hpre⟩ := hp.methods
  refine ⟨⟨pre, post, by rw [hm, methods_of_not_applies happ], hpre⟩, ?_, ?_⟩
  · simpa [route, happ] using hp.complete
  · rw [hp.slot, slotOf_of_not_applies happ]

theorem applies_directCall (hp : Placed t input [directCall] w) : directCall.applies input w = true := by
  cases happ : directCall.applies input w
  · simpa [route, happ] using hp.complete
  · rfl

theorem exists_head {L : List Stage} (hp : Placed t input L w) :
    ∃ s ∈ L, s.applies input w = true ∧ t.methods[w.method]? = some (w.finished (s.body w w.memberIndex)) := by
  induction L with
  | nil => simpa [route] using hp.complete
  | cons s rest ih =>
    cases happ : s.applies input w
    · obtain ⟨s', hs', happ', hhead⟩ := ih (hp.skip happ)
      exact ⟨s', List.mem_cons_of_mem _ hs', happ', hhead⟩
    · exact ⟨s, List.mem_cons_self, happ, hp.getElem?_method happ⟩

end Placed

/-- Where a generated type keeps member `i`: its entry method starts the laid-out route of
its entry unit. -/
theorem BindingType.generate_layout {L : List Stage} {input : GenerationInput} {d : InterfaceDecl}
    {t : BindingType} (h : BindingType.generate L input d = .ok t) {i : Nat} {m : MemberDecl}
    (hm : d.members[i]? = some m) :
    t.interface = d ∧ t.config = input.config ∧
      ∃ e, t.entries[i]? = some e ∧ Placed t input L (WorkUnit.entry m i i e) := by
  obtain ⟨_, -, h⟩ := bind_eq_ok h
  obtain ⟨⟨entries, g⟩, hg, h⟩ := bind_eq_ok h
  obtain ⟨⟨methods, slots⟩, hf, h⟩ := bind_eq_ok h
  cases h
  obtain ⟨methods', hfm, hf⟩ := bind_eq_ok hf
  cases hf
  obtain ⟨-, -, hall⟩ := Generation.members_ok hg
  obtain ⟨pre, post, hmeth, hentry, hroute, hslot⟩ := hall i m hm
  simp only [List.length_nil, Nat.zero_add] at hmeth hentry hroute hslot
  rw [hmeth, List.append_assoc] at hfm
  obtain ⟨as, bs, has, hbs, rfl⟩ := TypeBuilder.finishMethods_append hfm
  obtain ⟨cs, ds, hcs, hds, rfl⟩ := TypeBuilder.finishMethods_append hbs
  rw [TypeBuilder.finishMethods_chain] at hcs
  cases hcs
  have hlen := TypeBuilder.length_finishMethods has
  refine ⟨rfl, rfl, pre.length, hentry, ⟨⟨as, ds, by simp [WorkUnit.entry], by simp [hlen, WorkUnit.entry]⟩, hroute, hslot⟩⟩

theorem BindingType.validate_of_generate {L : List Stage} {input : GenerationInput} {d : InterfaceDecl}
    {t : BindingType} (h : BindingType.generate L input d = .ok t) : d.validate = .ok () := by
  obtain ⟨⟨⟩, hv, -⟩ := bind_eq_ok h
  exact hv

end NativeBridge
