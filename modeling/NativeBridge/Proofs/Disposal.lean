import NativeBridge.Proofs.CallSpec
import NativeBridge.Proofs.Execution
import NativeBridge.Session

/-!
Disposal.

A disposed binding is refused by the guard its type puts in front of a member, and nowhere else.
On a live binding no step of a call reports disposal, given transformers that do not either. A
member whose entry unit does not meet the guard first runs the same on every binding of its type,
disposed or not: the guard takes only a member's own unit, and every later method serves a helper.

A `Pool` holds instances in one process and answers a client's requests as a session does.
`Pool.disposal_guard` follows one instance through any run of requests. With the standard stages
the guard comes first for every member exactly when disposal is checked
(`Stage.guardsFirst_standard`).
-/

namespace NativeBridge

variable {σ ε : Type} {host : Host σ ε} {reg : Registry σ ε}

open Call Stage

theorem forward_undisposed {b : Binding ε} {id : Nat} {name : String}
    (h : ∀ target args, id < target → (execute host reg b target args).Undisposed) (target : Nat)
    (args : List Value) :
    (if _ : id < target then execute host reg b target args
      else throw (.generic ("method " ++ name ++ " forwards to an earlier method"))).Undisposed := by
  split
  · exact h target args ‹_›
  · exact spec_throw rfl

theorem execute_undisposed (hreg : reg.Undisposed) {b : Binding ε} (hb : b.disposed = false)
    (id : Nat) (args : List Value) : (execute host reg b id args).Undisposed := by
  -- by the recursion of `execute`, each method forwarding only to later ones
  fun_induction execute host reg b id args with
  | case1 => simp_all
  | case2 => exact forward_undisposed ‹_› _ _
  | case3 => exact lowerThrough_undisposed hreg _ _ _ _ (forward_undisposed ‹_› _) _
  | case4 => exact marshalThrough_undisposed _ _ _ _ (forward_undisposed ‹_› _) _
  | case5 => exact callSlot_undisposed _ _ _ _ _
  | case6 => exact spec_throw rfl

theorem Binding.invoke_undisposed (hreg : reg.Undisposed) {b : Binding ε} (hb : b.disposed = false)
    (member : String) (args : List Value) : (b.invoke host reg member args).Undisposed := by
  unfold Binding.invoke Binding.invokeIndex
  split
  · dsimp only
    split
    · split
      · simp only [hb, Bool.false_eq_true, ↓reduceIte]
        exact MemberDecl.checked_undisposed _ _ (execute_undisposed hreg hb _ _)
      · exact MemberDecl.checked_undisposed _ _ (execute_undisposed hreg hb _ _)
    · exact spec_throw rfl
  · exact spec_throw rfl

namespace WorkUnit

theorem generatedName_ne (u : WorkUnit) (sfx : String) : u.generatedName sfx ≠ u.baseName := by
  intro h
  have hlen := congrArg String.length h
  simp only [generatedName, String.length_append] at hlen
  have : "_".length = 1 := rfl
  omega

@[simp]
theorem isEntry_helper (u : WorkUnit) (d : MemberDecl) (sfx : String) : (u.helper d sfx).isEntry = false := by
  simpa [isEntry, WorkUnit.helper] using u.generatedName_ne sfx

end WorkUnit

namespace Stage

/-- Whether the first stage of `L` that takes the unit is the disposal guard. -/
def guardsFirst (input : GenerationInput) (L : List Stage) (u : WorkUnit) : Bool :=
  L.find? (·.applies input u) == some .disposalGuard

variable {input : GenerationInput} {u : WorkUnit} {s : Stage} {rest : List Stage}

theorem guardsFirst_of_not_applies (h : s.applies input u = false) :
    guardsFirst input (s :: rest) u = guardsFirst input rest u := by
  simp [guardsFirst, h]

theorem guardsFirst_of_applies (h : s.applies input u = true) :
    guardsFirst input (s :: rest) u = (s == .disposalGuard) := by
  simp [guardsFirst, h]

theorem guardsFirst_of_not_entry (h : u.isEntry = false) (L : List Stage) : guardsFirst input L u = false := by
  induction L with
  | nil => rfl
  | cons s rest ih =>
    cases happ : s.applies input u
    · rw [guardsFirst_of_not_applies happ, ih]
    · rw [guardsFirst_of_applies happ]
      cases s <;> simp_all [applies]

theorem guardsFirst_of_not_mem {L : List Stage} (h : disposalGuard ∉ L) : guardsFirst input L u = false := by
  cases hf : L.find? (·.applies input u) with
  | none => simp [guardsFirst, hf]
  | some s =>
    have hs : s ≠ disposalGuard := fun hs => h (hs ▸ List.mem_of_find?_eq_some hf)
    simpa [guardsFirst, hf] using hs

theorem guardsFirst_standard (m : MemberDecl) (i e : Nat) :
    guardsFirst input standard (WorkUnit.entry m i i e) = input.config.disposalChecks := by
  cases h : input.config.disposalChecks
  · rw [standard, guardsFirst_of_not_applies (by simp [applies, h]), guardsFirst_of_not_mem (by decide)]
  · simp [guardsFirst, standard, applies, h, WorkUnit.isEntry, WorkUnit.entry]

end Stage

namespace Placed

variable {input : GenerationInput} {L : List Stage} {w : WorkUnit} {m : MemberDecl} {b b' : Binding ε}

theorem getElem?_first {s : Stage} (hp : Placed b.type input L w) (hs : L.find? (·.applies input w) = some s) :
    b.type.methods[w.method]? = some (w.finished (s.body w w.memberIndex)) := by
  induction L with
  | nil => cases hs
  | cons s' rest ih =>
    cases happ : s'.applies input w
    · exact ih (hp.skip happ) (by simpa [List.find?_cons, happ] using hs)
    · obtain rfl : s' = s := by simpa [List.find?_cons, happ] using hs
      exact hp.getElem?_method happ

theorem exists_first (hp : Placed b.type input L w) : ∃ s, L.find? (·.applies input w) = some s := by
  obtain ⟨s, hs, happ, -⟩ := hp.exists_head
  exact Option.isSome_iff_exists.1 (List.find?_isSome.2 ⟨s, hs, happ⟩)

theorem execute_eq_of_type (hp : Placed b.type input L w) (hm : b.type.interface.members[w.memberIndex]? = some m)
    (hg : guardsFirst input L w = false) (hty : b'.type = b.type) :
    execute host reg b' w.method = execute host reg b w.method := by
  induction L generalizing w with
  | nil => exact absurd hp.complete (by simp [route])
  | cons s rest ih =>
    cases happ : s.applies input w
    · exact ih (hp.skip happ) hm (by rwa [guardsFirst_of_not_applies happ] at hg)
    · have hmd := hp.getElem?_method happ
      have hmd' : b'.type.methods[w.method]? = some (w.finished (s.body w w.memberIndex)) := by rw [hty]; exact hmd
      have hm' : b'.type.interface.members[w.memberIndex]? = some m := by rw [hty]; exact hm
      -- the next method serves a helper, which the guard never takes
      have hnext : ∀ v, s.helper input w = some v →
          execute host reg b' (w.method + 1) = execute host reg b (w.method + 1) := by
        intro v hv
        obtain ⟨hidx, -, hbase, -, hvm, -⟩ := helper_fields hv
        rw [← hvm]
        refine ih (hp.helper happ hv) (hidx ▸ hm) (guardsFirst_of_not_entry ?_ rest)
        cases s <;> simp [Stage.helper] at hv <;> subst hv <;> simp
      cases s with
      | disposalGuard => simp [guardsFirst_of_applies happ] at hg
      | lowered =>
        rw [execute_lowered hmd' hm' rfl, execute_lowered hmd hm rfl, hnext _ rfl]
      | nullable =>
        rw [execute_nullable hmd' hm' rfl, execute_nullable hmd hm rfl, hnext _ rfl]
      | directCall =>
        rw [execute_native hmd' hm' rfl, execute_native hmd hm rfl, hty]

end Placed

section Members

variable {L : List Stage} {input : GenerationInput} {I : InterfaceDecl} {t : BindingType}
  {i e : Nat} {m : MemberDecl}

theorem Binding.invoke_of_guardsFirst (hgen : BindingType.generate L input I = .ok t)
    (hm : I.members[i]? = some m) (he : t.entries[i]? = some e)
    (hg : guardsFirst input L (WorkUnit.entry m i i e) = true) {b : Binding ε} (hb : b.type = t)
    (hd : b.disposed = true) (args : List Value) :
    b.invoke host reg m.name args = throw (.disposedAccess I.name m.name) := by
  subst hb
  obtain ⟨hI, -, e', he', hp⟩ := BindingType.generate_layout hgen hm
  obtain rfl : e = e' := Option.some.inj (he.symm.trans he')
  obtain ⟨hmi, hfind⟩ := BindingType.find?_of_generate hgen hm
  -- the guard's body stands at the entry
  have hguard : b.type.methods[e]?.map MethodDef.body = some (.guard (e + 1)) := by
    rw [show e = (WorkUnit.entry m i i e).method from rfl, hp.getElem?_first (eq_of_beq hg)]
    rfl
  simp only [Binding.invoke, hfind]
  rw [Binding.invokeIndex_of_guard hmi he hguard, hd, if_pos rfl, hI]

theorem Binding.invoke_of_not_guardsFirst (hgen : BindingType.generate L input I = .ok t)
    (hm : I.members[i]? = some m) (he : t.entries[i]? = some e)
    (hg : guardsFirst input L (WorkUnit.entry m i i e) = false) {b b' : Binding ε} (hb : b.type = t)
    (hb' : b'.type = t) (args : List Value) :
    b'.invoke host reg m.name args = b.invoke host reg m.name args := by
  subst hb
  obtain ⟨-, -, e', he', hp⟩ := BindingType.generate_layout hgen hm
  obtain rfl : e = e' := Option.some.inj (he.symm.trans he')
  obtain ⟨hmi, hfind⟩ := BindingType.find?_of_generate hgen hm
  -- the first stage that takes the entry unit is not the guard, so no guard stands at the entry
  obtain ⟨s, hs⟩ := hp.exists_first
  have hnot : ∀ k, b.type.methods[e]?.map MethodDef.body ≠ some (.guard k) := by
    intro k
    rw [show e = (WorkUnit.entry m i i e).method from rfl, hp.getElem?_first hs]
    have hs' : s ≠ .disposalGuard := by
      rintro rfl
      simp [guardsFirst, hs] at hg
    cases s <;> simp_all [WorkUnit.finished, Stage.body]
  have hrun : execute host reg b' e = execute host reg b e := hp.execute_eq_of_type hmi hg hb'
  have hfind' : b'.type.interface.find? m.name = some (i, m) := by rw [hb']; exact hfind
  simp only [Binding.invoke, hfind, hfind']
  rw [Binding.invokeIndex_of_not_guard hmi he hnot, Binding.invokeIndex_of_not_guard (hb' ▸ hmi) (hb' ▸ he)
    (hb' ▸ hnot), hrun]

theorem Binding.invoke_undisposed_of_not_guardsFirst (hreg : reg.Undisposed)
    (hgen : BindingType.generate L input I = .ok t) (hm : I.members[i]? = some m)
    (he : t.entries[i]? = some e) (hg : guardsFirst input L (WorkUnit.entry m i i e) = false)
    {b : Binding ε} (hb : b.type = t) (args : List Value) : (b.invoke host reg m.name args).Undisposed := by
  have hsame : ({ b with disposed := false } : Binding ε).invoke host reg m.name args =
      b.invoke host reg m.name args := by
    refine Binding.invoke_of_not_guardsFirst hgen hm he hg hb ?_ args
    exact hb
  rw [← hsame]
  exact Binding.invoke_undisposed hreg rfl _ _

end Members

inductive Request where
  | dispose (inst : Nat)
  | invoke (inst : Nat) (member : String) (args : List Value)

def Request.disposes (i : Nat) : Request → Bool
  | .dispose j => j == i
  | .invoke .. => false

/-- Instances of bindings in one process. -/
structure Pool (σ ε : Type) where
  world : σ
  instances : List (Binding ε)

namespace Pool

def step (host : Host σ ε) (reg : Registry σ ε) (p : Pool σ ε) : Request → Except SessionFault Outcome × Pool σ ε
  | .dispose i =>
    match p.instances[i]? with
    | none => (.error (.noInstance i), p)
    | some b => (.ok (.disposed b.dispose.1), { p with instances := p.instances.set i b.dispose.2 })
  | .invoke i member args =>
    match p.instances[i]? with
    | none => (.error (.noInstance i), p)
    | some b =>
      let (r, world, slots) := Call.run (b.invoke host reg member args) p.world b.slots
      (match r with
        | .ok v => .ok (.value v)
        | .error e => .error (.error e),
       { world, instances := p.instances.set i { b with slots } })

def after (host : Host σ ε) (reg : Registry σ ε) (p : Pool σ ε) : List Request → Pool σ ε
  | [] => p
  | r :: rs => (p.step host reg r).2.after host reg rs

variable {p : Pool σ ε}

theorem step_getElem? (r : Request) (j : Nat) :
    ((p.step host reg r).2.instances[j]?).map (fun b => (b.type, b.disposed)) =
      p.instances[j]?.map (fun b => (b.type, b.disposed || r.disposes j)) := by
  cases r with
  | dispose i =>
    simp only [step]
    by_cases hij : i = j
    · subst hij
      split
      · rename_i h; simp [h]
      · rename_i b h
        obtain ⟨hlt, hb⟩ := List.getElem?_eq_some_iff.1 h
        simp [hlt, hb, Binding.dispose, Request.disposes]
    · have hne : (i == j) = false := by simpa using hij
      split <;> simp [List.getElem?_set_ne hij, Request.disposes, hne]
  | invoke i member args =>
    simp only [step]
    split
    · simp [Request.disposes]
    · rename_i b h
      by_cases hij : i = j
      · subst hij
        obtain ⟨hlt, hb⟩ := List.getElem?_eq_some_iff.1 h
        simp [hlt, hb, Request.disposes]
      · simp [List.getElem?_set_ne hij, Request.disposes]

theorem after_getElem? (rs : List Request) (j : Nat) :
    ((p.after host reg rs).instances[j]?).map (fun b => (b.type, b.disposed)) =
      p.instances[j]?.map (fun b => (b.type, b.disposed || rs.any (·.disposes j))) := by
  induction rs generalizing p with
  | nil => simp [after]
  | cons r rs ih =>
    have hcomp : (fun b : Binding ε => (b.type, b.disposed || rs.any (·.disposes j))) =
        (fun x => (x.1, x.2 || rs.any (·.disposes j))) ∘ (fun b => (b.type, b.disposed)) := rfl
    rw [after, ih, hcomp, ← Option.map_map, step_getElem?, Option.map_map]
    simp [Function.comp_def, Bool.or_assoc]

variable {j : Nat} {b : Binding ε}

theorem step_dispose (hb : p.instances[j]? = some b) :
    (p.step host reg (.dispose j)).1 = .ok (.disposed !b.disposed) := by
  simp [step, hb]

@[simp]
theorem step_dispose_world (k : Nat) : (p.step host reg (.dispose k)).2.world = p.world := by
  simp only [step]
  split <;> rfl

theorem step_dispose_getElem? (k j : Nat) :
    (p.step host reg (.dispose k)).2.instances[j]? = p.instances[j]?.map (fun b => if k = j then b.dispose.2 else b) := by
  simp only [step]
  by_cases hkj : k = j
  · subst hkj
    split
    · rename_i h; simp [h]
    · rename_i b h
      obtain ⟨hlt, hb⟩ := List.getElem?_eq_some_iff.1 h
      simp [hlt, hb]
  · split <;> simp [List.getElem?_set_ne hkj, hkj]

theorem step_invoke_of_throw {member : String} {args : List Value} {e : Error} (hb : p.instances[j]? = some b)
    (h : b.invoke host reg member args = throw e) :
    p.step host reg (.invoke j member args) = (.error (.error e), p) := by
  obtain ⟨hlt, rfl⟩ := List.getElem?_eq_some_iff.1 hb
  have hrun : Call.run (throw e : Call σ ε Value) p.world p.instances[j].slots = (.error e, p.world, p.instances[j].slots) := rfl
  have heta : ({ p.instances[j] with slots := p.instances[j].slots } : Binding ε) = p.instances[j] := rfl
  simp only [step, hb, h, hrun, heta, List.set_getElem_self hlt]

theorem step_invoke_undisposed {member : String} {args : List Value} (hb : p.instances[j]? = some b)
    (h : (b.invoke host reg member args).Undisposed) (x y : String) :
    (p.step host reg (.invoke j member args)).1 ≠ .error (.error (.disposedAccess x y)) := by
  have hrun := h { world := p.world, slots := b.slots }
  simp only [step, hb, Call.run]
  generalize (ExceptT.run (b.invoke host reg member args)).run { world := p.world, slots := b.slots } = res at hrun ⊢
  obtain ⟨r, s⟩ := res
  cases r with
  | ok v => simp
  | error e =>
    simp only [ne_eq, Except.error.injEq, SessionFault.error.injEq]
    rintro rfl
    simp [Error.isDisposedAccess] at hrun

theorem step_invoke_congr {p' : Pool σ ε} {b' : Binding ε} {member : String} {args : List Value}
    (hb : p.instances[j]? = some b) (hb' : p'.instances[j]? = some b') (hw : p'.world = p.world)
    (hs : b'.slots = b.slots) (h : b'.invoke host reg member args = b.invoke host reg member args) :
    (p'.step host reg (.invoke j member args)).1 = (p.step host reg (.invoke j member args)).1 := by
  simp only [step, hb, hb', hw, hs, h]

/-- The disposal guard over a run of requests. Take an instance of a generated type and any run of
disposals and calls: afterwards a disposal of the instance answers whether neither the instance
started disposed nor the run disposed it. A member whose entry unit meets the guard first then
fails at once with the interface's and member's names and changes nothing if the instance is
disposed, and otherwise never reports disposal; any other member never reports disposal; and a
call answers the same after a disposal of another instance, or of this one for a member the
guard does not come first for. -/
theorem disposal_guard {L : List Stage} {input : GenerationInput} {I : InterfaceDecl} {t : BindingType}
    (hgen : BindingType.generate L input I = .ok t) (hreg : reg.Undisposed) (p : Pool σ ε)
    (run : List Request) {j : Nat} {b : Binding ε} (hb : p.instances[j]? = some b) (hbt : b.type = t) :
    let q := p.after host reg run
    let gone := b.disposed || run.any (·.disposes j)
    (q.step host reg (.dispose j)).1 = .ok (.disposed !gone) ∧
    ∀ i m e args, I.members[i]? = some m → t.entries[i]? = some e →
      let guarded := guardsFirst input L (WorkUnit.entry m i i e)
      let call := q.step host reg (.invoke j m.name args)
      (guarded = true → gone = true → call = (.error (.error (.disposedAccess I.name m.name)), q)) ∧
      ((guarded = true → gone = false) → ∀ x y, call.1 ≠ .error (.error (.disposedAccess x y))) ∧
      (∀ k, k ≠ j ∨ guarded = false →
        ((q.step host reg (.dispose k)).2.step host reg (.invoke j m.name args)).1 = call.1) := by
  intro q gone
  -- after the run the instance keeps its type, and is disposed exactly when `gone`
  have hafter : (q.instances[j]?).map (fun b => (b.type, b.disposed)) = _ := after_getElem? run j
  rw [hb, Option.map_some] at hafter
  obtain ⟨b', hb'q, hpair⟩ := Option.map_eq_some_iff.1 hafter
  obtain ⟨hty, hdisp⟩ := Prod.mk.inj hpair
  have hty' : b'.type = t := hty.trans hbt
  refine ⟨?_, fun i m e args hm he => ?_⟩
  · rw [step_dispose hb'q, hdisp]
  · intro guarded call
    refine ⟨fun hg hgone => ?_, fun hlive => ?_, fun k hk => ?_⟩
    · exact step_invoke_of_throw hb'q (Binding.invoke_of_guardsFirst hgen hm he hg hty' (hdisp.trans hgone) args)
    · refine step_invoke_undisposed hb'q ?_
      cases hg : guardsFirst input L (WorkUnit.entry m i i e)
      · exact Binding.invoke_undisposed_of_not_guardsFirst hreg hgen hm he hg hty' args
      · exact Binding.invoke_undisposed hreg (hdisp.trans (hlive hg)) _ _
    · -- a disposal leaves the process as it was, and the instance too up to its flag
      by_cases hkj : k = j
      · subst hkj
        have hg : guarded = false := hk.resolve_left (fun h => h rfl)
        have hj : (q.step host reg (.dispose k)).2.instances[k]? = some b'.dispose.2 := by
          rw [step_dispose_getElem?, hb'q]
          simp
        refine step_invoke_congr hb'q hj (step_dispose_world k) rfl ?_
        refine Binding.invoke_of_not_guardsFirst hgen hm he hg hty' ?_ args
        exact hty'
      · have hj : (q.step host reg (.dispose k)).2.instances[j]? = some b' := by
          rw [step_dispose_getElem?, hb'q]
          simp [hkj]
        exact step_invoke_congr hb'q hj (step_dispose_world k) rfl rfl

theorem greeter_disposal_guard :
    let I : InterfaceDecl :=
      ⟨"Greeter", [{ name := "greet", params := [⟨"who", .named "string", .nativeFrees⟩] }]⟩
    let input := ({} : Factory Native.State Native.NativeFunction).input {}
    ∃ t, BindingType.generate Stage.standard input I = .ok t ∧
      (Registry.withDefaults : Registry Native.State Native.NativeFunction).Undisposed ∧
      let b : Binding Native.NativeFunction := ⟨t, [none], false⟩
      let p : Pool Native.State Native.NativeFunction := ⟨{}, [b]⟩
      p.instances[0]? = some b ∧ b.type = t ∧
      let q := p.after Native.host Registry.withDefaults [.dispose 0]
      let gone := b.disposed || [Request.dispose 0].any (·.disposes 0)
      (q.step Native.host Registry.withDefaults (.dispose 0)).1 = .ok (.disposed !gone) ∧
      ∀ i m e args, I.members[i]? = some m → t.entries[i]? = some e →
        let guarded := guardsFirst input Stage.standard (WorkUnit.entry m i i e)
        let call := q.step Native.host Registry.withDefaults (.invoke 0 m.name args)
        (guarded = true → gone = true → call = (.error (.error (.disposedAccess I.name m.name)), q)) ∧
        ((guarded = true → gone = false) → ∀ x y, call.1 ≠ .error (.error (.disposedAccess x y))) ∧
        (∀ k, k ≠ 0 ∨ guarded = false →
          ((q.step Native.host Registry.withDefaults (.dispose k)).2.step Native.host Registry.withDefaults
            (.invoke 0 m.name args)).1 = call.1) := by
  intro I input
  obtain ⟨t, ht⟩ : ∃ t, BindingType.generate Stage.standard input I = .ok t := ⟨_, rfl⟩
  exact ⟨t, ht, Registry.withDefaults_undisposed, rfl, rfl,
    disposal_guard ht Registry.withDefaults_undisposed _ [.dispose 0] rfl rfl⟩

end Pool

end NativeBridge
