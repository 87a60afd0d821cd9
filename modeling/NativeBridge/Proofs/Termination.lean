import NativeBridge.Proofs.Shape

/-!
Generation and calls terminate.

The stages implement a unit by recursion on the stages left: a stage that takes the unit and
forwards to a helper hands the helper to the stages after it. Every unit is therefore taken by a
later stage than the one that derived it, and the notes of a unit and its helpers name stages
that stand in the stage list in that order (`Generation.implement_notes`).

A helper is declared right after the method that forwards to it, and the methods of a member's
route stand together. So in a generated type a member is served by at most as many methods as
there are stages, every forwarding target is the next method, and following targets from any
method reaches a native body before the methods run out (`BindingType.generate_bounded`): the
recursion of `execute` goes no deeper than the methods from the one it starts at to the last.
-/

namespace NativeBridge

open Stage

namespace Generation

variable {input : GenerationInput}

theorem implement_notes {L : List Stage} {u : WorkUnit} {g g' : Generation}
    (h : implement input L u g = .ok g') :
    ∃ ns, g'.notes = g.notes ++ ns ∧ (ns.map (·.stage)).Sublist L := by
  induction L generalizing u g with
  | nil => simp [implement] at h
  | cons s rest ih =>
    unfold implement at h
    split at h
    · -- the stage takes the unit: its body is noted, and a helper goes on to the stages after it
      split at h
      · cases h
      · split at h
        · cases h
          exact ⟨[⟨u.baseName, u.decl.name, s⟩], rfl, by simp⟩
        · obtain ⟨ns, hns, hsub⟩ := ih h
          refine ⟨⟨u.baseName, u.decl.name, s⟩ :: ns, by simp [hns], ?_⟩
          simpa using hsub.cons_cons s
    · obtain ⟨ns, hns, hsub⟩ := ih h
      exact ⟨ns, hns, hsub.cons s⟩

end Generation

namespace Stage

variable {input : GenerationInput}

theorem route_length_le (L : List Stage) (u : WorkUnit) : (route input L u).1.length ≤ L.length := by
  induction L generalizing u with
  | nil => simp [route]
  | cons s rest ih =>
    cases happ : s.applies input u
    · simpa [route, happ] using Nat.le_succ_of_le (ih u)
    · cases hv : s.helper input u with
      | none => simp [route, happ, hv]
      | some v => simpa [route, happ, hv] using ih v

end Stage

namespace Placed

variable {t : BindingType} {input : GenerationInput}

theorem span_le {L : List Stage} {w : WorkUnit} (hp : Placed t input L w) :
    w.method + (route input L w).1.length ≤ t.methods.length := by
  obtain ⟨pre, post, hm, hpre⟩ := hp.methods
  have hlen := congrArg List.length hm
  simp only [List.length_append, Stage.methods, List.length_map] at hlen
  omega

theorem targets {L : List Stage} {w : WorkUnit} (hp : Placed t input L w) :
    ∀ id ∈ List.range' w.method (route input L w).1.length, ∀ md k, t.methods[id]? = some md →
      md.body.target? = some k → k = id + 1 ∧ k < t.methods.length := by
  induction L, w, hp using Placed.induction with
  | direct rest w hp happ =>
    intro id hid md k hmd hk
    simp only [route_directCall happ, List.length_singleton, List.range'_one, List.mem_singleton] at hid
    subst hid
    rw [hp.getElem?_method happ, Option.some.injEq] at hmd
    subst hmd
    simp [WorkUnit.finished, body, AdapterBody.target?] at hk
  | forward s rest w v hp happ hv ih =>
    obtain ⟨-, -, -, -, hvm, -⟩ := helper_fields hv
    rw [route_length_of_helper happ hv, List.range'_succ]
    intro id hid md k hmd hk
    rcases List.mem_cons.1 hid with rfl | hid
    · -- the unit's own method forwards to the helper's, declared right after it
      rw [hp.getElem?_method happ, Option.some.injEq] at hmd
      subst hmd
      rw [WorkUnit.finished, target?_body hv, Option.some.injEq] at hk
      obtain ⟨s', -, -, hhead⟩ := (hp.helper happ hv).exists_head
      exact ⟨hk.symm, hk ▸ hvm ▸ (List.getElem?_eq_some_iff.1 hhead).1⟩
    · exact ih id (hvm ▸ hid) md k hmd hk
  | skip s rest w hp happ ih => simpa [route, happ] using ih

theorem trace_from {L : List Stage} {w : WorkUnit} (hp : Placed t input L w) :
    ∀ id ∈ List.range' w.method (route input L w).1.length,
      t.Trace id (List.range' id (w.method + (route input L w).1.length - id)) := by
  induction L, w, hp using Placed.induction with
  | direct rest w hp happ =>
    intro id hid
    simp only [route_directCall happ, List.length_singleton, List.range'_one, List.mem_singleton] at hid
    subst hid
    simpa [route_directCall happ] using hp.trace
  | forward s rest w v hp happ hv ih =>
    obtain ⟨-, -, -, -, hvm, -⟩ := helper_fields hv
    have hlen : (route input (s :: rest) w).1.length = (route input rest v).1.length + 1 :=
      route_length_of_helper happ hv
    intro id hid
    rw [hlen, List.range'_succ] at hid
    rcases List.mem_cons.1 hid with rfl | hid
    · simpa [hlen] using hp.trace
    · have := ih id (hvm ▸ hid)
      rw [hvm] at this
      rwa [hlen, show w.method + ((route input rest v).1.length + 1) = w.method + 1 + (route input rest v).1.length by
        omega]
  | skip s rest w hp happ ih => simpa [route, happ] using ih

end Placed

namespace BindingType

variable {L : List Stage} {input : GenerationInput} {I : InterfaceDecl} {t : BindingType}

theorem placed_of_lt (h : generate L input I = .ok t) {id : Nat} (hid : id < t.methods.length) :
    ∃ j m e, I.members[j]? = some m ∧ t.entries[j]? = some e ∧ Placed t input L (WorkUnit.entry m j j e) ∧
      id ∈ List.range' e (route input L (WorkUnit.entry m j j e)).1.length := by
  obtain ⟨-, spans, hlen, hflat, hall⟩ := generate_spans h
  have hmem : id ∈ spans.flatten := by rw [hflat]; exact List.mem_range.2 hid
  obtain ⟨c, hc, hidc⟩ := List.mem_flatten.1 hmem
  obtain ⟨j, hj, rfl⟩ := List.getElem_of_mem hc
  obtain ⟨m, hm⟩ : ∃ m, I.members[j]? = some m := ⟨_, List.getElem?_eq_getElem (hlen ▸ hj)⟩
  obtain ⟨-, -, e, he, hp⟩ := generate_layout h hm
  refine ⟨j, m, e, hm, he, hp, ?_⟩
  rw [← hall j m e spans[j] hm he (List.getElem?_eq_getElem hj)]
  exact hidc

theorem mem_span_of_member (h : generate L input I = .ok t) {id : Nat} {md : MethodDef}
    (hmd : t.methods[id]? = some md) :
    ∃ m e, I.members[md.member]? = some m ∧ t.entries[md.member]? = some e ∧
      id ∈ List.range' e (route input L (WorkUnit.entry m md.member md.member e)).1.length := by
  obtain ⟨j, m, e, hm, he, hp, hid⟩ := placed_of_lt h (List.getElem?_eq_some_iff.1 hmd).1
  have hj := hp.member id hid
  rw [hmd, Option.map_some, Option.some.injEq] at hj
  exact ⟨m, e, hj ▸ hm, hj ▸ he, hj ▸ hid⟩

theorem serving_length_le (h : generate L input I = .ok t) (i : Nat) :
    (t.methods.filter (·.member == i)).length ≤ L.length := by
  cases hm : I.members[i]? with
  | none =>
    -- every method serves a member of the interface
    have hnone : t.methods.filter (·.member == i) = [] := by
      rw [List.filter_eq_nil_iff]
      intro md hmd hi
      obtain ⟨id, hid, rfl⟩ := List.getElem_of_mem hmd
      obtain ⟨m, -, hm', -⟩ := mem_span_of_member h (List.getElem?_eq_getElem hid)
      rw [beq_iff_eq.1 hi, hm] at hm'
      cases hm'
    simp [hnone]
  | some m =>
    obtain ⟨-, -, e, he, hp⟩ := generate_layout h hm
    -- a method of member `i` lies on its route, so neither before nor after it
    have hspan : ∀ id md, t.methods[id]? = some md → md.member = i →
        e ≤ id ∧ id < e + (route input L (WorkUnit.entry m i i e)).1.length := by
      intro id md hmd hi
      obtain ⟨m', e', hm', he', hid⟩ := mem_span_of_member h hmd
      rw [hi] at hm' he' hid
      rw [hm, Option.some.injEq] at hm'
      rw [he, Option.some.injEq] at he'
      subst hm' he'
      exact List.mem_range'_1.1 hid
    have hwi : (WorkUnit.entry m i i e).memberIndex = i := rfl
    have hwm : (WorkUnit.entry m i i e).method = e := rfl
    generalize WorkUnit.entry m i i e = w at hp hspan hwi hwm
    obtain ⟨pre, post, hmeth, hpre⟩ := hp.methods
    have hmid : (Stage.methods input L w w.memberIndex).length = (route input L w).1.length := by
      simp [Stage.methods]
    have hpre_nil : pre.filter (·.member == i) = [] := by
      rw [List.filter_eq_nil_iff]
      intro md hmd hi
      obtain ⟨id, hid, rfl⟩ := List.getElem_of_mem hmd
      have hat : t.methods[id]? = some pre[id] := by
        rw [hmeth, List.append_assoc, List.getElem?_append_left hid]
        exact List.getElem?_eq_getElem hid
      have := (hspan id _ hat (beq_iff_eq.1 hi)).1
      omega
    have hpost_nil : post.filter (·.member == i) = [] := by
      rw [List.filter_eq_nil_iff]
      intro md hmd hi
      obtain ⟨k, hk, rfl⟩ := List.getElem_of_mem hmd
      have hat : t.methods[(pre ++ Stage.methods input L w w.memberIndex).length + k]? = some post[k] := by
        rw [hmeth, List.getElem?_append_right (Nat.le_add_right _ _), Nat.add_sub_cancel_left]
        exact List.getElem?_eq_getElem hk
      have := (hspan _ _ hat (beq_iff_eq.1 hi)).2
      rw [List.length_append, hmid] at this
      omega
    rw [hmeth, List.filter_append, List.filter_append, hpre_nil, hpost_nil, List.nil_append, List.append_nil]
    calc (List.filter (·.member == i) (Stage.methods input L w w.memberIndex)).length
        ≤ (Stage.methods input L w w.memberIndex).length := List.length_filter_le _ _
      _ = (route input L w).1.length := hmid
      _ ≤ L.length := route_length_le L w

/-- Generation and the calls of its types terminate, for any list of stages: a successful
implementation of a unit notes stages of the list in order, each taking a unit after the stage
that derived it; each member of a generated type is served by at most as many methods as there
are stages; every forwarding target is the next method; and from every method, following targets
reaches a native body within the methods from it to the last. -/
theorem generate_bounded (h : generate L input I = .ok t) :
    (∀ u g g', Generation.implement input L u g = .ok g' →
      ∃ ns, g'.notes = g.notes ++ ns ∧ (ns.map (·.stage)).Sublist L) ∧
    (∀ i, (t.methods.filter (·.member == i)).length ≤ L.length) ∧
    (∀ id md k, t.methods[id]? = some md → md.body.target? = some k → k = id + 1 ∧ k < t.methods.length) ∧
    (∀ id < t.methods.length, ∃ c, t.Trace id c ∧ id + c.length ≤ t.methods.length) := by
  refine ⟨fun _ _ _ hi => Generation.implement_notes hi, serving_length_le h, ?_, ?_⟩
  · intro id md k hmd hk
    obtain ⟨j, m, e, -, -, hp, hid⟩ := placed_of_lt h (List.getElem?_eq_some_iff.1 hmd).1
    exact hp.targets id hid md k hmd hk
  · intro id hid
    obtain ⟨j, m, e, -, -, hp, hidr⟩ := placed_of_lt h hid
    have hle := hp.span_le
    have hin := List.mem_range'_1.1 hidr
    refine ⟨_, hp.trace_from id hidr, ?_⟩
    simp only [List.length_range']
    simp only [WorkUnit.entry] at hle hin ⊢
    omega

end BindingType

theorem repeated_generate_bounded :
    let I : InterfaceDecl := ⟨"Mixed",
      [{ name := "greet", params := [⟨"who", .named "string", .nativeFrees⟩], ret := ⟨.nullable .i32, .callerFrees⟩ },
       { name := "add", params := [⟨"a", .native .i32, .nativeFrees⟩, ⟨"b", .native .i32, .nativeFrees⟩],
         ret := ⟨.native .i32, .nativeFrees⟩ }]⟩
    let L := [Stage.disposalGuard, .lowered, .lowered, .nullable, .directCall, .directCall]
    let input := ({} : Factory Native.State Native.NativeFunction).input {}
    ∃ t, BindingType.generate L input I = .ok t ∧
      (∀ u g g', Generation.implement input L u g = .ok g' →
        ∃ ns, g'.notes = g.notes ++ ns ∧ (ns.map (·.stage)).Sublist L) ∧
      (∀ i, (t.methods.filter (·.member == i)).length ≤ L.length) ∧
      (∀ id md k, t.methods[id]? = some md → md.body.target? = some k → k = id + 1 ∧ k < t.methods.length) ∧
      (∀ id < t.methods.length, ∃ c, t.Trace id c ∧ id + c.length ≤ t.methods.length) := by
  intro I L input
  obtain ⟨t, ht⟩ : ∃ t, BindingType.generate L input I = .ok t := ⟨_, rfl⟩
  exact ⟨t, ht, BindingType.generate_bounded ht⟩

end NativeBridge
