import NativeBridge.Binding
import NativeBridge.Proofs.Layout

/-!
How a call runs through the methods of a type.

One lemma per body shape says what running a method does once the body and the member it
serves are known, forwarding to the method right after it; two lemmas say how a member is
invoked, guarded or not; and a valid interface finds each member by its name.
-/

namespace NativeBridge

variable {σ ε : Type} {host : Host σ ε} {reg : Registry σ ε} {b : Binding ε} {id : Nat} {md : MethodDef}
  {m : MemberDecl}

section

variable (h : b.type.methods[id]? = some md) (hm : b.type.interface.members[md.member]? = some m)
include h hm

theorem execute_guard (hbody : md.body = .guard (id + 1)) (args : List Value) :
    execute host reg b id args =
      if b.disposed then throw (.disposedAccess b.type.interface.name m.name)
      else execute host reg b (id + 1) args := by
  obtain ⟨hid, hget⟩ := List.getElem?_eq_some_iff.1 h
  rw [execute, dif_pos hid]
  cases b.disposed <;> simp [hget, hm, hbody]

theorem execute_lowered {params : List (Option String)} {ret : Option String}
    (hbody : md.body = .lowered (id + 1) params ret) :
    execute host reg b id = lowerThrough host reg m.name md.decl params ret (execute host reg b (id + 1)) := by
  funext args
  obtain ⟨hid, hget⟩ := List.getElem?_eq_some_iff.1 h
  rw [execute, dif_pos hid]
  simp only [hget, hm, hbody, Option.map_some, Option.getD_some, Nat.lt_add_one, ↓reduceIte]

theorem execute_nullable {params : List (Option NullableMarshal)} {ret : Option NullableMarshal}
    (hbody : md.body = .nullable (id + 1) params ret) :
    execute host reg b id = marshalThrough host m.name md.decl params ret (execute host reg b (id + 1)) := by
  funext args
  obtain ⟨hid, hget⟩ := List.getElem?_eq_some_iff.1 h
  rw [execute, dif_pos hid]
  simp only [hget, hm, hbody, Option.map_some, Option.getD_some, Nat.lt_add_one, ↓reduceIte]

theorem execute_native {slot : Nat} {sig : NativeSignature} (hbody : md.body = .native slot sig) :
    execute host reg b id = callSlot host b.type m.name slot sig := by
  funext args
  obtain ⟨hid, hget⟩ := List.getElem?_eq_some_iff.1 h
  rw [execute, dif_pos hid]
  simp only [hget, hm, hbody, Option.map_some, Option.getD_some]

end

namespace InterfaceDecl

theorem validateFrom_ok {n : String} {seen : List String} {ms : List MemberDecl}
    (h : validateFrom n seen ms = .ok ()) : (∀ m ∈ ms, m.name ∉ seen) ∧ (ms.map (·.name)).Nodup := by
  induction ms generalizing seen with
  | nil => simp
  | cons m ms ih =>
    by_cases hs : seen.contains m.name = true
    · have hmem : m.name ∈ seen := by simpa using hs
      simp [validateFrom, hmem] at h
    · simp only [validateFrom, hs, Bool.false_eq_true, ↓reduceIte] at h
      obtain ⟨-, -, h⟩ := bind_eq_ok h
      obtain ⟨hfresh, hnd⟩ := ih h
      refine ⟨?_, ?_⟩
      · intro m' hm'
        rcases List.mem_cons.1 hm' with rfl | hm'
        · simpa using hs
        · exact fun hmem => hfresh m' hm' (List.mem_cons_of_mem _ hmem)
      · refine List.nodup_cons.2 ⟨?_, hnd⟩
        simp only [List.mem_map, not_exists, not_and]
        intro m' hm' heq
        exact hfresh m' hm' (heq ▸ List.mem_cons_self)

theorem find?_zipIdx {ms : List MemberDecl} (h : (ms.map (·.name)).Nodup) {i : Nat} {m : MemberDecl}
    (hm : ms[i]? = some m) (k : Nat) : (ms.zipIdx k).find? (·.1.name == m.name) = some (m, i + k) := by
  induction ms generalizing i k with
  | nil => simp at hm
  | cons m₀ ms ih =>
    obtain ⟨hm₀, hnd⟩ := List.nodup_cons.1 h
    cases i with
    | zero =>
      cases hm
      simp
    | succ i =>
      simp only [List.getElem?_cons_succ] at hm
      have hmem : m.name ∈ ms.map (·.name) := List.mem_map_of_mem (List.mem_of_getElem? hm)
      have hne : m₀.name ≠ m.name := fun heq => hm₀ (by simpa [heq] using hmem)
      rw [List.zipIdx_cons, List.find?_cons_of_neg (by simpa using hne), ih hnd hm]
      simp only [Option.some.injEq, Prod.mk.injEq, true_and]
      omega

theorem find?_of_validate {d : InterfaceDecl} (h : d.validate = .ok ()) {i : Nat} {m : MemberDecl}
    (hm : d.members[i]? = some m) : d.find? m.name = some (i, m) := by
  have hnd := (validateFrom_ok h).2
  simp [find?, find?_zipIdx hnd hm 0]

end InterfaceDecl

/-- A generated type finds each member of its interface by its name, at its own position. -/
theorem BindingType.find?_of_generate {L : List Stage} {input : GenerationInput} {I : InterfaceDecl}
    {t : BindingType} (hgen : BindingType.generate L input I = .ok t) {i : Nat} {m : MemberDecl}
    (hm : I.members[i]? = some m) : t.interface.members[i]? = some m ∧ t.interface.find? m.name = some (i, m) := by
  rw [(BindingType.generate_layout hgen hm).1]
  exact ⟨hm, InterfaceDecl.find?_of_validate (BindingType.validate_of_generate hgen) hm⟩

namespace Binding

variable {i e : Nat} {args : List Value}

theorem invokeIndex_of_guard (hm : b.type.interface.members[i]? = some m) (he : b.type.entries[i]? = some e)
    {k : Nat} (hg : b.type.methods[e]?.map MethodDef.body = some (.guard k)) :
    b.invokeIndex host reg i args =
      if b.disposed then throw (.disposedAccess b.type.interface.name m.name)
      else m.checked args (execute host reg b k args) := by
  simp only [invokeIndex, hm, he, Option.getD_some, hg]
  cases b.disposed <;> rfl

theorem invokeIndex_of_not_guard (hm : b.type.interface.members[i]? = some m) (he : b.type.entries[i]? = some e)
    (hg : ∀ k, b.type.methods[e]?.map MethodDef.body ≠ some (.guard k)) :
    b.invokeIndex host reg i args = m.checked args (execute host reg b e args) := by
  cases hbody : b.type.methods[e]?.map MethodDef.body with
  | none => simp only [invokeIndex, hm, he, Option.getD_some, hbody]
  | some body =>
    cases body with
    | guard k => exact absurd hbody (hg k)
    | _ => simp only [invokeIndex, hm, he, Option.getD_some, hbody]

end Binding

end NativeBridge
