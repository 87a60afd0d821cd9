import NativeBridge.Proofs.Traffic
import NativeBridge.Proofs.Disposal

/-!
Every buffer of a call is released by the right party.

A call of a generated member obtains a buffer for each complex argument that its transformer
lowers to a pointer, and one for each optional argument marshalled in; native code may hand a
buffer back as an optional result the caller owns, and a raise may hand the result's buffer back
for release. `invoke_accounts_buffers` says what becomes of all of them, on every path: when
native code was not reached, every buffer obtained is released once; when it was, the buffers at
the caller's charge are released and those at native code's charge are not, and so are the
result's buffer and what a raise handed back. Releases are counted as a multiset, so a buffer
native code hands back that is also one of the caller's own is released twice.

The proof follows the two layers of `MemberDecl.callOnePass`: the marshalling layer settles its
buffers around the native call (`marshalling_settles`), and the lowering layer accounts for its
own around that (`lowering_accounts`).
-/

namespace NativeBridge

variable {σ ε α : Type}

open Call

variable {h : Host σ ε}

def callerBuffers (L : List (Ownership × UInt64)) : List UInt64 := (L.filter (·.1.byCaller)).map (·.2)

theorem pending_recordAll {L : List (Ownership × UInt64)} (hL : ∀ q ∈ L, q.2 ≠ 0) :
    (({} : Scratch).recordAll L).pending.Perm (L.map (·.2)) := by
  rw [Scratch.recordAll_of_ne_zero _ hL]
  simp only [Scratch.pending, List.nil_append]
  have := List.filter_append_perm (·.1.byCaller) L
  simpa [List.map_append] using (this.map (·.2))

theorem pending_commit_recordAll {L : List (Ownership × UInt64)} (hL : ∀ q ∈ L, q.2 ≠ 0) :
    (({} : Scratch).recordAll L).commit.pending = callerBuffers L := by
  rw [Scratch.recordAll_of_ne_zero _ hL]
  simp [Scratch.commit, Scratch.pending, callerBuffers]

namespace ReturnDecl

def outBuffer (ret : ReturnDecl) (v : Value) : List UInt64 :=
  if ret.ty.isNullable && ret.ownership.byCaller then v.buffer?.toList else []

def handedBack (ret : ReturnDecl) (v : Value) : Option UInt64 := if ret.ty.isNullable then none else v.buffer?

end ReturnDecl

open OnePass in
theorem unmarshalResult_spec (member : String) (ret : ReturnDecl) {v : Value}
    (hv : ret.ty.isNullable = true → ∃ q, v = .pointer q) (s : CallState (σ × List Traffic) ε) :
    ∃ y, (exec (unmarshalResult h.audited member ret v) s).1 = .ok y ∧ y.buffer? = ret.handedBack v ∧
      (exec (unmarshalResult h.audited member ret v) s).2.scratch = s.scratch ∧
      (exec (unmarshalResult h.audited member ret v) s).2.slots = s.slots ∧
      (exec (unmarshalResult h.audited member ret v) s).2.world.2 = s.world.2 ++ (ret.outBuffer v).map .free := by
  unfold unmarshalResult
  cases hty : ret.ty with
  | nullable t =>
    obtain ⟨q, rfl⟩ := hv (by simp [hty, TypeRef.isNullable])
    dsimp only
    unfold marshalOut
    by_cases hq : q = 0
    · subst hq
      refine ⟨_, rfl, ?_, rfl, rfl, ?_⟩
      · simp [ReturnDecl.handedBack, Value.buffer?, hty, TypeRef.isNullable]
      · have : ret.outBuffer (.pointer 0) = [] := by simp [ReturnDecl.outBuffer, Value.buffer?]
        rw [this, List.map_nil, List.append_nil]
        rfl
    · have hb : (q == 0) = false := by simpa using hq
      simp only [Value.asPointer?, hb, Bool.false_eq_true, ↓reduceIte]
      have hback : ∀ o, (Value.optional o).buffer? = ret.handedBack (.pointer q) := by
        simp [ReturnDecl.handedBack, Value.buffer?, hty, TypeRef.isNullable]
      cases ho : ret.ownership.byCaller
      · refine ⟨_, rfl, hback _, rfl, rfl, ?_⟩
        have : ret.outBuffer (.pointer q) = [] := by simp [ReturnDecl.outBuffer, ho]
        rw [this, List.map_nil, List.append_nil]
        rfl
      · refine ⟨_, rfl, hback _, rfl, rfl, ?_⟩
        have : ret.outBuffer (.pointer q) = [q] := by
          simp [ReturnDecl.outBuffer, ho, hty, TypeRef.isNullable, Value.buffer?, hq]
        rw [this]
        rfl
  | _ =>
    refine ⟨v, rfl, ?_, rfl, rfl, ?_⟩ <;> simp [ReturnDecl.handedBack, ReturnDecl.outBuffer, hty, TypeRef.isNullable]

def Marshalled : List ParamDecl → List Value → List Value → Prop
  | p :: ps, y :: ys, xs => ∃ x xs', xs = x :: xs' ∧ p.Marshals y x ∧ Marshalled ps ys xs'
  | _ :: _, [], xs => xs = []
  | [], _, _ => True

theorem Stepwise.marshalled : ∀ {ps : List ParamDecl} {ys xs : List Value},
    Stepwise ParamDecl.Marshals ps ys xs → Marshalled ps ys xs
  | [], _, _, _ => trivial
  | _ :: _, [], _, h => h
  | _ :: _, _ :: _, _, ⟨x, xs', hxs, hm, h⟩ => ⟨x, xs', hxs, hm, Stepwise.marshalled h⟩

theorem marshalled_self : ∀ {ps : List ParamDecl} (_ : ∀ p ∈ ps, p.ty.isNullable = false) (ys : List Value),
    Marshalled ps ys ys
  | [], _, _ => trivial
  | _ :: _, _, [] => rfl
  | p :: _, h, y :: ys => ⟨y, ys, rfl, by simp [ParamDecl.Marshals, h p List.mem_cons_self],
      marshalled_self (fun q hq => h q (List.mem_cons_of_mem _ hq)) ys⟩

def Balanced (δ : List Traffic) (sc : Scratch) : Prop := (Traffic.frees δ ++ sc.pending).Perm (Traffic.buffers δ)

theorem Balanced.release {δ : List Traffic} {sc : Scratch} (h : Balanced δ sc) :
    (Traffic.frees (δ ++ sc.pending.map .free)).Perm (Traffic.buffers (δ ++ sc.pending.map .free)) := by
  unfold Balanced at h
  simpa using h

def Settled (rel : List Value → List Value → Prop) (bufs : List Value → List (Ownership × UInt64))
    (out : Value → List UInt64) (back : Value → Option UInt64) (args : List Value)
    (s : CallState (σ × List Traffic) ε) (o : Except Error Value × CallState (σ × List Traffic) ε) : Prop :=
  o.2.scratch = s.scratch ∧ ∃ δ, o.2.world.2 = s.world.2 ++ δ ∧
    (∀ e, o.1 = .error e → Traffic.calls δ = [] ∧ (Traffic.frees δ).Perm (Traffic.buffers δ)) ∧
    ∀ y, o.1 = .ok y → ∃ xs v, Traffic.calls δ = [(xs, v)] ∧ rel args xs ∧ y.buffer? = back v ∧
      Traffic.buffers δ = (bufs xs).map (·.2) ∧ (Traffic.frees δ).Perm (out v ++ callerBuffers (bufs xs))

/-- A layer settles when every run of it ends settled. -/
def Settles (rel : List Value → List Value → Prop) (bufs : List Value → List (Ownership × UInt64))
    (out : Value → List UInt64) (back : Value → Option UInt64)
    (x : List Value → Call (σ × List Traffic) ε Value) : Prop :=
  ∀ args s, Settled rel bufs out back args s (exec (x args) s)

theorem Settled.activation {rel bufs out back args} {body : Call (σ × List Traffic) ε Value}
    {s s₁ : CallState (σ × List Traffic) ε} {r : Except Error Value}
    (hb : exec body { s with scratch := {} } = (r, s₁))
    (hs : Settled rel bufs out back args s
      (r, { s₁ with world := (s₁.world.1, s₁.world.2 ++ s₁.scratch.pending.map .free), scratch := s.scratch })) :
    Settled rel bufs out back args s (exec (activation h.audited body) s) := by
  rw [exec_activation, hb]
  obtain ⟨-, δ, hδ, herr, hok⟩ := hs
  exact ⟨rfl, δ, (audited_releaseAll _ _).trans hδ, herr, hok⟩

theorem marshalledBuffers_nil {ps : List ParamDecl} (h : ∀ p ∈ ps, p.ty.isNullable = false) (xs : List Value) :
    (ps.zip xs).flatMap (fun q => q.1.marshalledBuffer q.2) = [] := by
  rw [List.flatMap_eq_nil_iff]
  intro q hq
  simp [ParamDecl.marshalledBuffer, h q.1 (List.of_mem_zip hq).1]

theorem NativeStep.settles {d : MemberDecl} {ret : NativeType} {inner : List Value → Call (σ × List Traffic) ε Value}
    (hinner : NativeStep ret inner) (hn : d.types.any TypeRef.isNullable = false) :
    Settles (Marshalled d.params) (fun xs => (d.params.zip xs).flatMap fun q => q.1.marshalledBuffer q.2)
      d.ret.outBuffer d.ret.handedBack inner := by
  have hps : ∀ p ∈ d.params, p.ty.isNullable = false := fun _ => MemberDecl.param_of_any_eq_false hn
  have hrt : d.ret.ty.isNullable = false := MemberDecl.ret_of_any_eq_false hn
  intro args s
  obtain ⟨hsc, hnat⟩ := hinner args s
  refine ⟨hsc, ?_⟩
  rcases hnat with ⟨e, he, hw⟩ | ⟨v, hv, hw, -⟩
  · refine ⟨[], by rw [hw, List.append_nil], fun _ _ => ⟨rfl, .refl _⟩, fun y hy => ?_⟩
    rw [he] at hy
    cases hy
  · refine ⟨[.call args v], hw, fun e he => ?_, fun y hy => ?_⟩
    · rw [hv] at he
      cases he
    · rw [hv] at hy
      cases hy
      refine ⟨args, v, rfl, marshalled_self hps args, ?_, ?_, ?_⟩ <;>
        simp [ReturnDecl.handedBack, ReturnDecl.outBuffer, hrt, marshalledBuffers_nil hps, callerBuffers]

open OnePass in
theorem marshalling_settles {d : MemberDecl} (member : String) {ret : NativeType}
    {inner : List Value → Call (σ × List Traffic) ε Value} (hinner : NativeStep ret inner)
    (hret : d.ret.ty.isNullable = true → ret = .pointer) :
    Settles (Marshalled d.params) (fun xs => (d.params.zip xs).flatMap fun q => q.1.marshalledBuffer q.2)
      d.ret.outBuffer d.ret.handedBack (marshalling h.audited d member inner) := by
  cases hn : d.types.any TypeRef.isNullable
  · rw [marshalling_of_not_nullable hn]
    exact hinner.settles hn
  · -- optional values cross in scratch buffers of an activation of their own
    intro args s
    unfold marshalling
    rw [if_pos hn]
    obtain ⟨L, hL, hok⟩ := eachArg_records ParamDecl.marshalledBuffer ParamDecl.Marshals
      (fun _ p v s => marshalArg_records member p v s) d.params 0 args { s with scratch := {} }
    have hL0 := hL.ne_zero
    obtain ⟨⟨δ₁, hw₁, hb₁, hf₁, hc₁⟩, hs₁, -⟩ := hL
    cases hr : exec (eachArg (fun _ => marshalArg h.audited member) 0 d.params args) { s with scratch := {} } with
    | mk r₁ s₁ =>
      rw [hr] at hw₁ hs₁ hok
      dsimp only at hw₁ hs₁ hok
      -- a failure before native code returned leaves every buffer pending, and the end releases them
      have hfail : ∀ (s₂ : CallState (σ × List Traffic) ε) (e : Error), s₂.world.2 = s₁.world.2 →
          s₂.scratch = s₁.scratch → Settled (Marshalled d.params)
            (fun xs => (d.params.zip xs).flatMap fun q => q.1.marshalledBuffer q.2) d.ret.outBuffer d.ret.handedBack
            args s (.error e,
              { s₂ with world := (s₂.world.1, s₂.world.2 ++ s₂.scratch.pending.map .free), scratch := s.scratch }) := by
        intro s₂ e hw hs
        have hbal : Balanced δ₁ s₂.scratch := by
          rw [hs, hs₁, Balanced, hf₁, List.nil_append, hb₁]
          exact pending_recordAll hL0
        refine ⟨rfl, _, by simp only [hw, hw₁, List.append_assoc], fun _ _ => ⟨?_, hbal.release⟩, fun _ h => nomatch h⟩
        simp [hc₁]
      cases r₁ with
      | error e => exact Settled.activation (exec_bind_error hr) (hfail s₁ e rfl rfl)
      | ok xs =>
        obtain ⟨rfl, hxs⟩ := hok xs rfl
        obtain ⟨hsc₂, hnat⟩ := hinner xs s₁
        cases hn : exec (inner xs) s₁ with
        | mk r₂ s₂ =>
          rw [hn] at hsc₂ hnat
          dsimp only at hsc₂ hnat
          rcases hnat with ⟨e, rfl, hw₂⟩ | ⟨v, rfl, hw₂, hty⟩
          · refine Settled.activation (?_ : _ = (.error e, s₂)) (hfail s₂ e hw₂ hsc₂)
            rw [exec_bind_ok hr, exec_bind_error hn]
          · -- native code returned: the transfers are given away, the result is read back
            have hptr : d.ret.ty.isNullable = true → ∃ q, v = .pointer q := fun hn' =>
              Value.eq_pointer_of_nativeType (hret hn' ▸ hty)
            obtain ⟨y, hy, hyb, hsc₃, -, hw₃⟩ := unmarshalResult_spec member d.ret hptr
              { s₂ with scratch := s₂.scratch.commit }
            generalize hu : exec (unmarshalResult h.audited member d.ret v) { s₂ with scratch := s₂.scratch.commit } = u
              at hy hsc₃ hw₃
            refine Settled.activation (?_ : _ = (.ok y, u.2)) ?_
            · rw [exec_bind_ok hr, exec_bind_ok hn, exec_bind_ok (exec_scratch _ _), hu]
              exact Prod.ext hy rfl
            · have hpend : u.2.scratch.pending = callerBuffers ((d.params.zip xs).flatMap fun q => q.1.marshalledBuffer q.2) := by
                rw [hsc₃]
                dsimp only
                rw [hsc₂, hs₁]
                exact pending_commit_recordAll hL0
              refine ⟨rfl, δ₁ ++ .call xs v :: (d.ret.outBuffer v ++
                callerBuffers ((d.params.zip xs).flatMap fun q => q.1.marshalledBuffer q.2)).map .free, ?_,
                (fun _ h => nomatch h), fun y' hy' => ?_⟩
              · simp only [hpend, hw₃, hw₂, hw₁, List.map_append, List.append_assoc, List.cons_append,
                  List.nil_append]
              · cases hy'
                exact ⟨xs, v, by simp [hc₁], hxs.marshalled, hyb, by simp [hb₁], by simp [hf₁]⟩

theorem loweredBuffers_marshalled {allocates : String → Bool} {lower : TypeRef → TypeRef} :
    ∀ {ps : List ParamDecl} {args ys xs : List Value}, Stepwise (ParamDecl.Lowers allocates) ps args ys →
      Marshalled (ps.map fun p => { p with ty := lower p.ty }) ys xs →
      (ps.zip ys).flatMap (fun q => q.1.loweredBuffer allocates q.2) =
        (ps.zip xs).flatMap (fun q => q.1.loweredBuffer allocates q.2)
  | [], _, _, _, _, _ => by simp
  | _ :: _, [], _, _, hs, hm => by
    cases hs
    cases hm
    rfl
  | p :: ps, a :: as, ys, xs, ⟨y, ys', hys, hl, hs⟩, hm => by
    subst hys
    obtain ⟨x, xs', rfl, hx, hm'⟩ := hm
    simp only [List.zip_cons_cons, List.flatMap_cons, loweredBuffers_marshalled hs hm']
    congr 1
    unfold ParamDecl.loweredBuffer
    cases hty : p.ty with
    | named k =>
      cases ha : allocates k
      · simp [ha]
      · obtain ⟨q, rfl⟩ := hl k hty ha
        unfold ParamDecl.Marshals at hx
        split at hx
        · obtain ⟨o, ho⟩ := hx
          cases ho
        · rw [hx]
    | _ => rfl

theorem loweredBuffers_nil {allocates : String → Bool} {ps : List ParamDecl}
    (h : ∀ p ∈ ps, p.ty.isNamed = false) (xs : List Value) :
    (ps.zip xs).flatMap (fun q => q.1.loweredBuffer allocates q.2) = [] := by
  rw [List.flatMap_eq_nil_iff]
  intro q hq
  have := h q.1 (List.of_mem_zip hq).1
  unfold ParamDecl.loweredBuffer
  split <;> simp_all [TypeRef.isNamed]

open OnePass in
theorem raiseResult_spec {reg : Registry (σ × List Traffic) ε} {allocates : String → Bool}
    (hreg : reg.Lawful h.audited allocates) (member : String) (ret : ReturnDecl) (v : Value)
    (s : CallState (σ × List Traffic) ε) :
    (exec (raiseResult h.audited reg member ret v) s).2.world.2 = s.world.2 ∧
      ∃ rs, rs.Sublist (if ret.ty.isNamed then v.buffer?.toList else []) ∧
        (exec (raiseResult h.audited reg member ret v) s).2.scratch = s.scratch.trackAll rs := by
  unfold raiseResult
  cases hty : ret.ty with
  | named k =>
    dsimp only
    cases hk : reg.get? k with
    | none => exact ⟨rfl, [], List.nil_sublist _, rfl⟩
    | some tr =>
      obtain ⟨hw, -, rs, hrs, hsc⟩ := (hreg k tr hk).raise ⟨member, .ret, ret.ownership⟩ v s
      exact ⟨hw, rs, by simpa [TypeRef.isNamed] using hrs, hsc⟩
  | _ => exact ⟨rfl, [], List.nil_sublist _, rfl⟩

/-- What a call did with the buffers it passed, as its traffic tells: native code was called at
most once; if it was not, every buffer obtained was released once; if it was, with arguments `xs`
and result `v`, the buffers obtained are those `bufs xs` passes, and the ones released are those
of them at the caller's charge, the result's `out v`, and at most what a raise handed back of
`raised v`. -/
def Accounted (bufs : List Value → List (Ownership × UInt64)) (out raised : Value → List UInt64)
    (δ : List Traffic) : Prop :=
  (Traffic.calls δ).length ≤ 1 ∧ (Traffic.calls δ = [] → (Traffic.frees δ).Perm (Traffic.buffers δ)) ∧
    ∀ xs v, Traffic.calls δ = [(xs, v)] → Traffic.buffers δ = (bufs xs).map (·.2) ∧
      ∃ rs, rs.Sublist (raised v) ∧ (Traffic.frees δ).Perm (out v ++ callerBuffers (bufs xs) ++ rs)

namespace Accounted

variable {bufs : List Value → List (Ownership × UInt64)} {out raised : Value → List UInt64}

theorem nil : Accounted bufs out raised [] := ⟨by simp, fun _ => .refl _, fun _ _ h => nomatch h⟩

theorem of_balanced {δ : List Traffic} {sc : Scratch} (hc : Traffic.calls δ = []) (hb : Balanced δ sc) :
    Accounted bufs out raised (δ ++ sc.pending.map .free) := by
  have hc' : Traffic.calls (δ ++ sc.pending.map .free) = [] := by simp [hc]
  exact ⟨by simp [hc'], fun _ => hb.release, fun _ _ h => by rw [hc'] at h; cases h⟩

end Accounted

theorem activation_traffic {body : Call (σ × List Traffic) ε α} {s s₁ : CallState (σ × List Traffic) ε}
    {r : Except Error α} (hb : exec body { s with scratch := {} } = (r, s₁)) {δ : List Traffic}
    (hw : s₁.world.2 = s.world.2 ++ δ) :
    (exec (activation h.audited body) s).2.world.2 = s.world.2 ++ (δ ++ s₁.scratch.pending.map .free) := by
  rw [exec_activation, hb]
  simp only [audited_releaseAll, hw, List.append_assoc]

theorem callerBuffers_append (L L' : List (Ownership × UInt64)) :
    callerBuffers (L ++ L') = callerBuffers L ++ callerBuffers L' := by
  simp [callerBuffers]

theorem pending_trackAll_commit_recordAll {L : List (Ownership × UInt64)} (hL : ∀ q ∈ L, q.2 ≠ 0)
    {rs : List UInt64} (hrs : ∀ p ∈ rs, p ≠ 0) :
    ((({} : Scratch).recordAll L).commit.trackAll rs).pending = callerBuffers L ++ rs := by
  rw [Scratch.trackAll_of_ne_zero _ hrs, Scratch.recordAll_of_ne_zero _ hL]
  simp [Scratch.commit, Scratch.pending, callerBuffers]

section Accounting

variable {reg : Registry (σ × List Traffic) ε} {allocates : String → Bool} {d : MemberDecl}
  {bufs : List Value → List (Ownership × UInt64)} {out : Value → List UInt64} {back : Value → Option UInt64}
  {inner : List Value → Call (σ × List Traffic) ε Value}

theorem Settles.accounted_of_not_named (hinner : Settles (Marshalled (d.mapTypes reg.lowerRef).params) bufs out back inner)
    (hn : d.types.any TypeRef.isNamed = false) (args : List Value) (s : CallState (σ × List Traffic) ε) :
    ∃ δ, (exec (inner args) s).2.world.2 = s.world.2 ++ δ ∧
      Accounted (fun xs => (d.params.zip xs).flatMap (fun q => q.1.loweredBuffer allocates q.2) ++ bufs xs) out
        (fun v => if d.ret.ty.isNamed then (back v).toList else []) δ := by
  have hps : ∀ p ∈ d.params, p.ty.isNamed = false := fun _ => MemberDecl.param_of_any_eq_false hn
  have hrt : d.ret.ty.isNamed = false := MemberDecl.ret_of_any_eq_false hn
  obtain ⟨-, δ, hw, herr, hok⟩ := hinner args s
  refine ⟨δ, hw, ?_⟩
  simp only [loweredBuffers_nil hps, List.nil_append, hrt, Bool.false_eq_true, ↓reduceIte]
  cases hres : (exec (inner args) s).1 with
  | error e =>
    obtain ⟨hc, hf⟩ := herr e hres
    exact ⟨by simp [hc], fun _ => hf, fun _ _ h' => by rw [hc] at h'; cases h'⟩
  | ok y =>
    obtain ⟨xs, v, hc, -, -, hb, hf⟩ := hok y hres
    refine ⟨by simp [hc], fun h' => (by rw [hc] at h'; cases h'), fun xs' v' h' => ?_⟩
    rw [hc, List.cons.injEq, Prod.mk.injEq] at h'
    obtain ⟨⟨rfl, rfl⟩, -⟩ := h'
    exact ⟨hb, [], List.nil_sublist _, by simpa using hf⟩

open OnePass in
theorem lowering_accounts (hreg : reg.Lawful h.audited allocates) (member : String)
    (hinner : Settles (Marshalled (d.mapTypes reg.lowerRef).params) bufs out back inner)
    (args : List Value) (s : CallState (σ × List Traffic) ε) :
    ∃ δ, (exec (lowering h.audited reg d member inner args) s).2.world.2 = s.world.2 ++ δ ∧
      Accounted (fun xs => (d.params.zip xs).flatMap (fun q => q.1.loweredBuffer allocates q.2) ++ bufs xs) out
        (fun v => if d.ret.ty.isNamed then (back v).toList else []) δ := by
  cases hn : d.types.any TypeRef.isNamed
  · rw [lowering_of_not_named hn]
    exact hinner.accounted_of_not_named hn args s
  · -- complex values are lowered in an activation of their own
    unfold lowering
    rw [if_pos hn]
    obtain ⟨L, hL, hok⟩ := eachArg_records (fun p y => p.loweredBuffer allocates y) (ParamDecl.Lowers allocates)
      (lowerArg_records hreg member) d.params 0 args { s with scratch := {} }
    have hL0 := hL.ne_zero
    obtain ⟨⟨δ₁, hw₁, hb₁, hf₁, hc₁⟩, hs₁, -⟩ := hL
    cases hr : exec (eachArg (lowerArg h.audited reg member) 0 d.params args) { s with scratch := {} } with
    | mk r₁ s₁ =>
      rw [hr] at hw₁ hs₁ hok
      dsimp only at hw₁ hs₁ hok
      have hbal₁ : (s₁.scratch.pending).Perm (Traffic.buffers δ₁) := by
        rw [hs₁, hb₁]
        exact pending_recordAll hL0
      cases r₁ with
      | error e =>
        exact ⟨_, activation_traffic (exec_bind_error hr) hw₁,
          .of_balanced hc₁ (by rw [Balanced, hf₁, List.nil_append]; exact hbal₁)⟩
      | ok ys =>
        obtain ⟨rfl, hys⟩ := hok ys rfl
        obtain ⟨hsc₂, δ₂, hw₂, herr, hok₂⟩ := hinner ys s₁
        cases hn : exec (inner ys) s₁ with
        | mk r₂ s₂ =>
          rw [hn] at hsc₂ hw₂ herr hok₂
          dsimp only at hsc₂ hw₂ herr hok₂
          have hw : s₂.world.2 = s.world.2 ++ (δ₁ ++ δ₂) := by rw [hw₂, hw₁, List.append_assoc]
          cases r₂ with
          | error e =>
            -- the layer failed before native code returned: everything obtained is still pending
            obtain ⟨hc₂, hf₂⟩ := herr e rfl
            have hbal : Balanced (δ₁ ++ δ₂) s₂.scratch := by
              rw [Balanced, hsc₂, Traffic.frees_append, Traffic.buffers_append, hf₁, List.nil_append]
              exact (hf₂.append hbal₁).trans List.perm_append_comm
            refine ⟨_, activation_traffic (?_ : _ = (.error e, s₂)) hw, .of_balanced (by simp [hc₁, hc₂]) hbal⟩
            rw [exec_bind_ok hr, exec_bind_error hn]
          | ok y =>
            -- native code returned: the transfers are given away, and the result is raised
            obtain ⟨xs, v, hc₂, hxs, hy, hb₂, hf₂⟩ := hok₂ y rfl
            obtain ⟨hwu, rs, hrs, hscu⟩ := raiseResult_spec hreg member d.ret y
              { s₂ with scratch := s₂.scratch.commit }
            generalize hu : exec (raiseResult h.audited reg member d.ret y) { s₂ with scratch := s₂.scratch.commit } = u
              at hwu hscu
            have hrs0 : ∀ p ∈ rs, p ≠ 0 := fun p hp => by
              have hp' := hrs.subset hp
              split at hp'
              · exact Value.ne_zero_of_buffer? hp'
              · cases hp'
            have hpend : u.2.scratch.pending = callerBuffers ((d.params.zip ys).flatMap
                (fun q => q.1.loweredBuffer allocates q.2)) ++ rs := by
              rw [hscu]
              dsimp only
              rw [hsc₂, hs₁]
              exact pending_trackAll_commit_recordAll hL0 hrs0
            refine ⟨_, activation_traffic (?_ : _ = (u.1, u.2)) (hwu.trans hw), ?_, ?_, ?_⟩
            · rw [exec_bind_ok hr, exec_bind_ok hn, exec_bind_ok (exec_scratch _ _), hu]
            · simp [hc₁, hc₂]
            · intro h'
              simp [hc₁, hc₂] at h'
            · intro xs' v' h'
              simp only [Traffic.calls_append, hc₁, hc₂, calls_map_free, List.nil_append, List.append_nil,
                List.cons.injEq, Prod.mk.injEq, and_true] at h'
              obtain ⟨rfl, rfl⟩ := h'
              rw [loweredBuffers_marshalled hys hxs] at hpend hb₁
              refine ⟨by simp [hb₁, hb₂], rs, by dsimp only; rw [← hy]; exact hrs, ?_⟩
              rw [List.perm_iff_count]
              intro a
              have := List.perm_iff_count.1 hf₂ a
              simp only [hpend, Traffic.frees_append, hf₁, frees_map_free, callerBuffers_append, List.count_append,
                List.nil_append] at this ⊢
              omega

end Accounting

namespace MemberDecl

def crossingBuffers (m : MemberDecl) (lower : TypeRef → TypeRef) (allocates : String → Bool)
    (xs : List Value) : List (Ownership × UInt64) :=
  (m.params.zip xs).flatMap (fun q => q.1.loweredBuffer allocates q.2) ++
    ((m.mapTypes lower).params.zip xs).flatMap (fun q => q.1.marshalledBuffer q.2)

def raisedBuffer (m : MemberDecl) (lower : TypeRef → TypeRef) (v : Value) : List UInt64 :=
  if m.ret.ty.isNamed then ((m.mapTypes lower).ret.handedBack v).toList else []

theorem crossing_ret_of_nullable {σ ε : Type} {m : MemberDecl} {reg : Registry σ ε}
    (h : (m.loweredBy reg).ret.ty.isNullable = true) : (m.crossing reg).nativeSignature.ret = .pointer := by
  unfold crossing nativeSignature
  cases hty : (m.loweredBy reg).ret.ty <;> simp_all [TypeRef.isNullable, mapTypes, TypeRef.asPointer, TypeRef.asNative?]

end MemberDecl

open OnePass in
theorem callOnePass_accounts {reg : Registry (σ × List Traffic) ε} {allocates : String → Bool}
    (hreg : reg.Lawful h.audited allocates) (hret : ∀ e sig xs w, (h.invoke e sig xs w).1.nativeType? = some sig.ret)
    (C : BindingConfig) (i : Nat) (m : MemberDecl) (args : List Value) (s : CallState (σ × List Traffic) ε) :
    ∃ δ, (exec (m.callOnePass h.audited reg C i args) s).2.world.2 = s.world.2 ++ δ ∧
      Accounted (m.crossingBuffers reg.lowerRef allocates) (m.mapTypes reg.lowerRef).ret.outBuffer
        (m.raisedBuffer reg.lowerRef) δ := by
  unfold MemberDecl.callOnePass MemberDecl.checked
  split
  · exact ⟨[], (List.append_nil _).symm, .nil⟩
  · have hmar : Settles (Marshalled (m.loweredBy reg).params) _ _ _ (marshalling h.audited (m.loweredBy reg) m.name
        (callNative h.audited m.name i ⟨m.symbolName, m.name, (m.crossing reg).nativeSignature, C.lazyBinding⟩)) :=
      marshalling_settles m.name (callNative_step hret _ _ _) MemberDecl.crossing_ret_of_nullable
    exact lowering_accounts hreg m.name hmar args s


theorem callerBuffers_subset (L : List (Ownership × UInt64)) : callerBuffers L ⊆ L.map (·.2) := by
  intro p hp
  simp only [callerBuffers, List.mem_map, List.mem_filter] at hp ⊢
  obtain ⟨q, ⟨hq, -⟩, rfl⟩ := hp
  exact ⟨q, hq, rfl⟩

theorem Accounted.zero_not_mem_frees {bufs : List Value → List (Ownership × UInt64)}
    {out raised : Value → List UInt64} {δ : List Traffic} (h : Accounted bufs out raised δ)
    (hout : ∀ v, 0 ∉ out v) (hraised : ∀ v, 0 ∉ raised v) : 0 ∉ Traffic.frees δ := by
  obtain ⟨hlen, hnone, hone⟩ := h
  intro h0
  cases hc : Traffic.calls δ with
  | nil => exact Traffic.zero_not_mem_buffers δ ((hnone hc).subset h0)
  | cons c cs =>
    obtain ⟨xs, v⟩ := c
    obtain rfl : cs = [] := by
      rw [hc, List.length_cons] at hlen
      exact List.eq_nil_of_length_eq_zero (by omega)
    obtain ⟨hb, rs, hrs, hf⟩ := hone xs v hc
    rcases List.mem_append.1 ((hf.subset h0)) with h₁ | h₃
    · rcases List.mem_append.1 h₁ with h₁ | h₂
      · exact hout v h₁
      · -- the caller's buffers are among those obtained, none of which is null
        exact Traffic.zero_not_mem_buffers δ (hb ▸ callerBuffers_subset _ h₂)
    · exact hraised v (hrs.subset h₃)

section Invoke

variable {f : Factory (σ × List Traffic) ε} {allocates : String → Bool}

/-- Every buffer that crosses in a call of a member of a type the standard stages generate is
accounted for, whatever the arguments, the allocator and the native code, and on every path.
The traffic of the call shows native code called at most once. When it was not called, every
buffer obtained was released exactly once. When it was called with arguments `xs` and returned
`v`, the buffers obtained are those the member passed in `xs`, and the releases are, as a
multiset, those of them at the caller's charge, the buffer of an optional result the caller owns,
and at most the buffer a raise handed back. Null is never released. -/
theorem invoke_accounts_buffers (hreg : f.registry.Lawful h.audited allocates)
    (hret : ∀ e sig xs w, (h.invoke e sig xs w).1.nativeType? = some sig.ret)
    {C : BindingConfig} {I : InterfaceDecl} {t : BindingType}
    (hgen : BindingType.generate Stage.standard (f.input C) I = .ok t) {b : Binding ε} (hb : b.type = t)
    {i : Nat} {m : MemberDecl} (hm : I.members[i]? = some m) (args : List Value) (w : σ)
    (slots : List (Option ε)) :
    Accounted (m.crossingBuffers f.registry.lowerRef allocates) (m.mapTypes f.registry.lowerRef).ret.outBuffer
        (m.raisedBuffer f.registry.lowerRef)
        (Call.run (b.invoke h.audited f.registry m.name args) (w, []) slots).2.1.2 ∧
      0 ∉ Traffic.frees (Call.run (b.invoke h.audited f.registry m.name args) (w, []) slots).2.1.2 := by
  have hrun : (Call.run (b.invoke h.audited f.registry m.name args) (w, []) slots).2.1.2 =
      (exec (b.invoke h.audited f.registry m.name args) { world := (w, []), slots }).2.world.2 := rfl
  obtain ⟨δ, hδ, hacc⟩ : ∃ δ, (exec (b.invoke h.audited f.registry m.name args)
      { world := (w, []), slots }).2.world.2 = [] ++ δ ∧
      Accounted (m.crossingBuffers f.registry.lowerRef allocates) (m.mapTypes f.registry.lowerRef).ret.outBuffer
        (m.raisedBuffer f.registry.lowerRef) δ := by
    by_cases hlive : b.disposed = false ∨ C.disposalChecks = false
    · rw [Binding.invoke_standard (Factory.input_lowerRef f C) hgen hb hlive hm args]
      exact callOnePass_accounts hreg hret C i m args _
    · -- a disposed instance under disposal checks fails before anything crosses
      simp only [not_or, Bool.not_eq_false] at hlive
      obtain ⟨-, -, e, he, -⟩ := BindingType.generate_layout hgen hm
      have hg : Stage.guardsFirst (f.input C) Stage.standard (WorkUnit.entry m i i e) = true := by
        rw [Stage.guardsFirst_standard]
        exact hlive.2
      rw [Binding.invoke_of_guardsFirst hgen hm he hg hb hlive.1 args]
      exact ⟨[], rfl, .nil⟩
  rw [hrun, hδ, List.nil_append]
  refine ⟨hacc, hacc.zero_not_mem_frees (fun v h0 => ?_) (fun v h0 => ?_)⟩
  · simp only [ReturnDecl.outBuffer] at h0
    split at h0
    · exact Value.ne_zero_of_buffer? h0 rfl
    · cases h0
  · simp only [MemberDecl.raisedBuffer, ReturnDecl.handedBack] at h0
    split at h0
    · split at h0
      · cases h0
      · exact Value.ne_zero_of_buffer? h0 rfl
    · cases h0

end Invoke

def echoResult (sig : NativeSignature) : List Value → Value
  | .pointer q :: _ => if sig.ret = .pointer then .pointer q else Value.decode sig.ret []
  | _ => Value.decode sig.ret []

theorem Value.nativeType?_decode (t : NativeType) (bytes : List UInt8) :
    (Value.decode t bytes).nativeType? = some t := by
  cases t <;> rfl

theorem nativeType_echoResult (sig : NativeSignature) (xs : List Value) :
    (echoResult sig xs).nativeType? = some sig.ret := by
  unfold echoResult
  split
  · split
    · next h => rw [h]; rfl
    · exact Value.nativeType?_decode _ _
  · exact Value.nativeType?_decode _ _

def echoHost : Host Unit Unit where
  allocate _ w := (1, w)
  release _ w := w
  load _ n _ := List.replicate n 0
  readable _ _ _ := true
  store _ _ w := w
  cString _ _ := []
  resolve _ w := (.ok (), w)
  invoke _ sig xs w := (echoResult sig xs, w)
  note _ w := w

def echoMember : MemberDecl :=
  { name := "echo_ptr", params := [⟨"v", .nullable .i32, .callerFrees⟩], ret := ⟨.nullable .i32, .callerFrees⟩ }

theorem echo_invoke_accounts_buffers :
    ∃ t, BindingType.generate Stage.standard (({} : Factory (Unit × List Traffic) Unit).input {})
        ⟨"E", [echoMember]⟩ = .ok t ∧
      Accounted (echoMember.crossingBuffers
            (Registry.withDefaults : Registry (Unit × List Traffic) Unit).lowerRef (· == "string"))
          (echoMember.mapTypes (Registry.withDefaults : Registry (Unit × List Traffic) Unit).lowerRef).ret.outBuffer
          (echoMember.raisedBuffer (Registry.withDefaults : Registry (Unit × List Traffic) Unit).lowerRef)
          (Call.run ((⟨t, [none], false⟩ : Binding Unit).invoke echoHost.audited Registry.withDefaults "echo_ptr"
            [.optional (some (.i32 5))]) ((), []) []).2.1.2 ∧
        0 ∉ Traffic.frees (Call.run ((⟨t, [none], false⟩ : Binding Unit).invoke echoHost.audited
          Registry.withDefaults "echo_ptr" [.optional (some (.i32 5))]) ((), []) []).2.1.2 := by
  obtain ⟨t, ht⟩ : ∃ t, BindingType.generate Stage.standard
      (({} : Factory (Unit × List Traffic) Unit).input {}) ⟨"E", [echoMember]⟩ = .ok t := ⟨_, rfl⟩
  exact ⟨t, ht, invoke_accounts_buffers withDefaults_lawful
    (fun _ sig xs _ => nativeType_echoResult sig xs) ht rfl (rfl : [echoMember][0]? = some echoMember) _ _ _⟩

/-- Native code that hands back the caller's own buffer as its optional result makes the call
release that buffer twice: once when the result is read back, and again when the marshalling
activation ends. -/
theorem echo_pointer_double_release :
    ∃ t, BindingType.generate Stage.standard (({} : Factory (Unit × List Traffic) Unit).input {})
        ⟨"E", [echoMember]⟩ = .ok t ∧
      Traffic.buffers (Call.run ((⟨t, [none], false⟩ : Binding Unit).invoke echoHost.audited
          Registry.withDefaults "echo_ptr" [.optional (some (.i32 5))]) ((), []) []).2.1.2 = [1] ∧
      Traffic.frees (Call.run ((⟨t, [none], false⟩ : Binding Unit).invoke echoHost.audited
          Registry.withDefaults "echo_ptr" [.optional (some (.i32 5))]) ((), []) []).2.1.2 = [1, 1] :=
  ⟨_, rfl, by decide +kernel, by decide +kernel⟩

end NativeBridge
