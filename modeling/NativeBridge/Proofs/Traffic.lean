import NativeBridge.Proofs.OnePass

/-!
The traffic of a call.

`Host.audited` writes down what the allocator and native code see of a call: each allocation
with the pointer it answered, each release, and each native call with its arguments and result.
`Call.exec` runs a call from a state. The lemmas here say, one step of a one-pass call at a time,
what the step adds to the traffic and to the scratch buffers of its activation (`Records`): the
conversion of each argument, an allocation through a transformer's context, and the native call.

A transformer is trusted to reach the allocator only through its context, to pass on the buffer
it obtains as the pointer it lowers to, and to hand back for release at most the pointer it
raises (`Transformer.Lawful`); the built-in text transformer is such a one.
-/

namespace NativeBridge

variable {σ σ' ε α β : Type}

/-- What the allocator and native code see of a call: each allocation with the pointer it
answered (null when it failed), each release, and each native call with its arguments and
result. -/
inductive Traffic where
  | alloc (p : UInt64)
  | free (p : UInt64)
  | call (args : List Value) (result : Value)

namespace Traffic

def buffer? : Traffic → Option UInt64
  | .alloc p => if p = 0 then none else some p
  | _ => none

def freed? : Traffic → Option UInt64
  | .free p => some p
  | _ => none

def called? : Traffic → Option (List Value × Value)
  | .call xs v => some (xs, v)
  | _ => none

def buffers (δ : List Traffic) : List UInt64 := δ.filterMap buffer?

def frees (δ : List Traffic) : List UInt64 := δ.filterMap freed?

def calls (δ : List Traffic) : List (List Value × Value) := δ.filterMap called?

@[simp] theorem buffers_nil : buffers [] = [] := rfl
@[simp] theorem frees_nil : frees [] = [] := rfl
@[simp] theorem calls_nil : calls [] = [] := rfl

@[simp] theorem buffers_append (δ δ' : List Traffic) : buffers (δ ++ δ') = buffers δ ++ buffers δ' :=
  List.filterMap_append
@[simp] theorem frees_append (δ δ' : List Traffic) : frees (δ ++ δ') = frees δ ++ frees δ' :=
  List.filterMap_append
@[simp] theorem calls_append (δ δ' : List Traffic) : calls (δ ++ δ') = calls δ ++ calls δ' :=
  List.filterMap_append

@[simp] theorem buffers_cons_alloc (p : UInt64) (δ : List Traffic) :
    buffers (.alloc p :: δ) = if p = 0 then buffers δ else p :: buffers δ := by
  by_cases hp : p = 0 <;> simp [buffers, buffer?, hp]
@[simp] theorem frees_cons_alloc (p : UInt64) (δ : List Traffic) : frees (.alloc p :: δ) = frees δ := rfl
@[simp] theorem calls_cons_alloc (p : UInt64) (δ : List Traffic) : calls (.alloc p :: δ) = calls δ := rfl
@[simp] theorem buffers_cons_free (p : UInt64) (δ : List Traffic) : buffers (.free p :: δ) = buffers δ := rfl
@[simp] theorem frees_cons_free (p : UInt64) (δ : List Traffic) : frees (.free p :: δ) = p :: frees δ := rfl
@[simp] theorem calls_cons_free (p : UInt64) (δ : List Traffic) : calls (.free p :: δ) = calls δ := rfl
@[simp] theorem buffers_cons_call (xs : List Value) (v : Value) (δ : List Traffic) :
    buffers (.call xs v :: δ) = buffers δ := rfl
@[simp] theorem frees_cons_call (xs : List Value) (v : Value) (δ : List Traffic) :
    frees (.call xs v :: δ) = frees δ := rfl
@[simp] theorem calls_cons_call (xs : List Value) (v : Value) (δ : List Traffic) :
    calls (.call xs v :: δ) = (xs, v) :: calls δ := rfl

theorem zero_not_mem_buffers (δ : List Traffic) : 0 ∉ buffers δ := by
  simp only [buffers, List.mem_filterMap, not_exists, not_and]
  intro t _
  cases t <;> simp [buffer?]

end Traffic

def Host.audited (h : Host σ ε) : Host (σ × List Traffic) ε where
  allocate n w := ((h.allocate n w.1).1, ((h.allocate n w.1).2, w.2 ++ [.alloc (h.allocate n w.1).1]))
  release p w := (h.release p w.1, w.2 ++ [.free p])
  load p n w := h.load p n w.1
  readable p n w := h.readable p n w.1
  store p bytes w := (h.store p bytes w.1, w.2)
  cString p w := h.cString p w.1
  resolve symbol w := ((h.resolve symbol w.1).1, ((h.resolve symbol w.1).2, w.2))
  invoke e sig xs w := ((h.invoke e sig xs w.1).1, ((h.invoke e sig xs w.1).2, w.2 ++ [.call xs (h.invoke e sig xs w.1).1]))
  note line w := (h.note line w.1, w.2)

def Call.exec (x : Call σ ε α) (s : CallState σ ε) : Except Error α × CallState σ ε := (ExceptT.run x).run s

namespace Call

@[simp] theorem exec_pure (a : α) (s : CallState σ ε) : exec (pure a : Call σ ε α) s = (.ok a, s) := rfl

@[simp] theorem exec_throw (e : Error) (s : CallState σ ε) : exec (throw e : Call σ ε α) s = (.error e, s) := rfl

@[simp] theorem exec_throw_bind (e : Error) (f : β → Call σ ε α) (s : CallState σ ε) :
    exec (throw e >>= f) s = (.error e, s) := rfl

theorem exec_bind_ok {x : Call σ ε β} {f : β → Call σ ε α} {s s' : CallState σ ε} {b : β}
    (h : exec x s = (.ok b, s')) : exec (x >>= f) s = exec (f b) s' := by
  simp only [exec, ExceptT.run_bind, StateT.run_bind] at h ⊢
  rw [h]
  rfl

theorem exec_bind_error {x : Call σ ε β} {f : β → Call σ ε α} {s s' : CallState σ ε} {e : Error}
    (h : exec x s = (.error e, s')) : exec (x >>= f) s = (.error e, s') := by
  simp only [exec, ExceptT.run_bind, StateT.run_bind] at h ⊢
  rw [h]
  rfl

@[simp] theorem exec_scratch (f : Scratch → Scratch) (s : CallState σ ε) :
    exec (Call.scratch f) s = (.ok (), { s with scratch := f s.scratch }) := rfl

@[simp] theorem exec_world (f : σ → σ) (s : CallState σ ε) :
    exec (Call.world f) s = (.ok (), { s with world := f s.world }) := rfl

@[simp] theorem exec_ask {γ : Type} (f : σ → γ × σ) (s : CallState σ ε) :
    exec (Call.ask f) s = (.ok (f s.world).1, { s with world := (f s.world).2 }) := rfl

@[simp] theorem exec_look {γ : Type} (f : σ → γ) (s : CallState σ ε) :
    exec (Call.look f) s = (.ok (f s.world), s) := rfl

end Call

namespace Call

theorem exec_get (s : CallState σ ε) : exec (get : Call σ ε (CallState σ ε)) s = (.ok s, s) := rfl

theorem exec_modify (f : CallState σ ε → CallState σ ε) (s : CallState σ ε) :
    exec (modify f : Call σ ε Unit) s = (.ok (), f s) := rfl

theorem exec_capture (body : Call σ ε α) (s : CallState σ ε) :
    exec (tryCatch (Except.ok <$> body) (fun e => pure (.error e)) : Call σ ε (Except Error α)) s =
      (.ok (exec body s).1, (exec body s).2) := by
  simp only [exec, ExceptT.run_tryCatch, ExceptT.run_map, StateT.run_bind, StateT.run_map]
  cases (ExceptT.run body).run s with
  | mk r s' => cases r <;> rfl

theorem exec_releaseAll (host : Host σ ε) (ps : List UInt64) (s : CallState σ ε) :
    exec (releaseAll host ps) s = (.ok (), { s with world := ps.foldl (fun w p => host.release p w) s.world }) := by
  induction ps generalizing s with
  | nil => rfl
  | cons p ps ih =>
    rw [releaseAll, exec_bind_ok (exec_world _ s), ih]
    rfl

theorem exec_activation (host : Host σ ε) (body : Call σ ε α) (s : CallState σ ε) :
    exec (activation host body) s =
      ((exec body { s with scratch := {} }).1,
        { (exec body { s with scratch := {} }).2 with
          world := (exec body { s with scratch := {} }).2.scratch.pending.foldl (fun w p => host.release p w)
            (exec body { s with scratch := {} }).2.world,
          scratch := s.scratch }) := by
  unfold activation
  rw [exec_bind_ok (exec_get s)]
  rw [exec_bind_ok (exec_modify _ s), exec_bind_ok (exec_capture body _), exec_bind_ok (exec_get _),
    exec_bind_ok (exec_releaseAll host _ _), exec_bind_ok (exec_modify _ _)]
  cases (exec body { s with scratch := {} }).1 <;> rfl

end Call

def Value.buffer? : Value → Option UInt64
  | .pointer p => if p = 0 then none else some p
  | _ => none

namespace Scratch

def record (s : Scratch) (o : Ownership) (p : UInt64) : Scratch :=
  if o.byCaller then s.track p else s.transfer p

def recordAll (s : Scratch) (L : List (Ownership × UInt64)) : Scratch := L.foldl (fun s q => s.record q.1 q.2) s

def trackAll (s : Scratch) (ps : List UInt64) : Scratch := ps.foldl track s

@[simp] theorem recordAll_nil (s : Scratch) : s.recordAll [] = s := rfl

theorem recordAll_append (s : Scratch) (L L' : List (Ownership × UInt64)) :
    s.recordAll (L ++ L') = (s.recordAll L).recordAll L' := List.foldl_append

theorem recordAll_of_ne_zero (s : Scratch) {L : List (Ownership × UInt64)} (hL : ∀ q ∈ L, q.2 ≠ 0) :
    s.recordAll L = ⟨s.owned ++ (L.filter (·.1.byCaller)).map (·.2),
      s.transferring ++ (L.filter (!·.1.byCaller)).map (·.2)⟩ := by
  induction L generalizing s with
  | nil => simp
  | cons q L ih =>
    obtain ⟨o, p⟩ := q
    have hp : p ≠ 0 := hL (o, p) List.mem_cons_self
    rw [recordAll, List.foldl_cons, ← recordAll, ih _ fun q hq => hL q (List.mem_cons_of_mem _ hq)]
    cases ho : o.byCaller <;> simp [record, track, transfer, hp, ho]

theorem trackAll_of_ne_zero (s : Scratch) {ps : List UInt64} (hps : ∀ p ∈ ps, p ≠ 0) :
    s.trackAll ps = { s with owned := s.owned ++ ps } := by
  induction ps generalizing s with
  | nil => simp [trackAll]
  | cons p ps ih =>
    rw [trackAll, List.foldl_cons, ← trackAll, ih _ fun q hq => hps q (List.mem_cons_of_mem _ hq)]
    simp [track, hps p List.mem_cons_self]

end Scratch

structure Records (s s' : CallState (σ × List Traffic) ε) (L : List (Ownership × UInt64)) : Prop where
  traffic : ∃ δ, s'.world.2 = s.world.2 ++ δ ∧ Traffic.buffers δ = L.map (·.2) ∧ Traffic.frees δ = [] ∧
    Traffic.calls δ = []
  scratch : s'.scratch = s.scratch.recordAll L
  slots : s'.slots = s.slots

namespace Records

variable {s₁ s₂ s₃ : CallState (σ × List Traffic) ε} {L L' : List (Ownership × UInt64)}

theorem nil (h₁ : s₂.world.2 = s₁.world.2) (h₂ : s₂.scratch = s₁.scratch) (h₃ : s₂.slots = s₁.slots) :
    Records s₁ s₂ [] :=
  ⟨⟨[], by simp [h₁], rfl, rfl, rfl⟩, by simp [h₂], h₃⟩

theorem trans (h : Records s₁ s₂ L) (h' : Records s₂ s₃ L') : Records s₁ s₃ (L ++ L') := by
  obtain ⟨⟨δ, hw, hb, hf, hc⟩, hs, hl⟩ := h
  obtain ⟨⟨δ', hw', hb', hf', hc'⟩, hs', hl'⟩ := h'
  exact ⟨⟨δ ++ δ', by simp [hw', hw], by simp [hb, hb'], by simp [hf, hf'], by simp [hc, hc']⟩,
    by rw [hs', hs, Scratch.recordAll_append], hl'.trans hl⟩

theorem congr (h : Records s₁ s₂ L) (h₁ : s₃.world.2 = s₂.world.2) (h₂ : s₃.scratch = s₂.scratch)
    (h₃ : s₃.slots = s₂.slots) : Records s₁ s₃ L := by
  simpa [h₁, h₂, h₃] using (h.trans (nil h₁ h₂ h₃))

theorem ne_zero (h : Records s₁ s₂ L) : ∀ q ∈ L, q.2 ≠ 0 := by
  obtain ⟨⟨δ, -, hb, -, -⟩, -, -⟩ := h
  intro q hq hz
  have : q.2 ∈ Traffic.buffers δ := hb ▸ List.mem_map_of_mem hq
  exact Traffic.zero_not_mem_buffers δ (hz ▸ this)

end Records

open Call

variable {h : Host σ ε}

theorem exec_record (o : Ownership) (p : UInt64) (k : Call σ' ε α) (s : CallState σ' ε) :
    exec (if o.byCaller then (do Call.scratch (·.track p); k) else (do Call.scratch (·.transfer p); k)) s =
      exec k { s with scratch := s.scratch.record o p } := by
  unfold Scratch.record
  split <;> exact exec_bind_ok (exec_scratch _ _)

@[simp] theorem exec_audited_allocate (n : Nat) (s : CallState (σ × List Traffic) ε) :
    exec (Call.ask (h.audited.allocate n)) s =
      (.ok (h.allocate n s.world.1).1, { s with world := ((h.allocate n s.world.1).2,
        s.world.2 ++ [.alloc (h.allocate n s.world.1).1]) }) := rfl

theorem marshalIn_records (member name : String) (v : Value) (mar : NullableMarshal)
    (s : CallState (σ × List Traffic) ε) :
    ∃ L, Records s (exec (marshalIn h.audited member name v mar) s).2 L ∧
      ∀ x, (exec (marshalIn h.audited member name v mar) s).1 = .ok x →
        (∃ o, v = .optional o) ∧ L = (x.buffer?.map (mar.ownership, ·)).toList := by
  cases v with
  | optional o =>
    cases o with
    | none =>
      refine ⟨[], Records.nil rfl rfl rfl, fun x hx => ⟨⟨_, rfl⟩, ?_⟩⟩
      cases hx
      rfl
    | some inner =>
      unfold marshalIn
      dsimp only
      rw [exec_bind_ok (exec_audited_allocate _ s)]
      by_cases hp : (h.allocate mar.underlying.size s.world.1).1 = 0
      · -- a failed allocation is reported, and nothing is recorded
        simp only [hp, beq_self_eq_true, ↓reduceIte, exec_throw_bind]
        exact ⟨[], ⟨⟨[.alloc 0], rfl, by simp, rfl, rfl⟩, by simp, rfl⟩, fun x hx => by cases hx⟩
      · have hb : ((h.allocate mar.underlying.size s.world.1).1 == 0) = false := by simpa using hp
        simp only [hb, Bool.false_eq_true, ↓reduceIte]
        have hrec : ∀ sc : Scratch, sc = s.scratch.record mar.ownership (h.allocate mar.underlying.size s.world.1).1 →
            Records s { s with world := ((h.allocate mar.underlying.size s.world.1).2,
              s.world.2 ++ [.alloc (h.allocate mar.underlying.size s.world.1).1]), scratch := sc }
              [(mar.ownership, (h.allocate mar.underlying.size s.world.1).1)] := by
          rintro sc rfl
          exact ⟨⟨[.alloc _], rfl, by simp [hp], rfl, rfl⟩, by simp [Scratch.recordAll], rfl⟩
        rw [exec_record]
        cases he : Value.encode? mar.underlying inner with
        | none => exact ⟨_, hrec _ rfl, fun x hx => by cases hx⟩
        | some bytes =>
          refine ⟨_, (hrec _ rfl).congr rfl rfl rfl, fun x hx => ⟨⟨_, rfl⟩, ?_⟩⟩
          cases hx
          simp [Value.buffer?, hp]
  | _ => exact ⟨[], Records.nil rfl rfl rfl, fun x hx => by cases hx⟩

def Stepwise (ok : ParamDecl → Value → Value → Prop) : List ParamDecl → List Value → List Value → Prop
  | p :: ps, v :: vs, xs => ∃ x xs', xs = x :: xs' ∧ ok p v x ∧ Stepwise ok ps vs xs'
  | _, _, xs => xs = []

open OnePass in
theorem eachArg_records {step : Nat → ParamDecl → Value → Call (σ × List Traffic) ε Value}
    (lab : ParamDecl → Value → List (Ownership × UInt64)) (ok : ParamDecl → Value → Value → Prop)
    (hstep : ∀ i p v s, ∃ L, Records s (exec (step i p v) s).2 L ∧
      ∀ x, (exec (step i p v) s).1 = .ok x → L = lab p x ∧ ok p v x)
    (ps : List ParamDecl) (i : Nat) (args : List Value) (s : CallState (σ × List Traffic) ε) :
    ∃ L, Records s (exec (eachArg step i ps args) s).2 L ∧
      ∀ xs, (exec (eachArg step i ps args) s).1 = .ok xs →
        L = (ps.zip xs).flatMap (fun q => lab q.1 q.2) ∧ Stepwise ok ps args xs := by
  induction ps generalizing i args s with
  | nil =>
    refine ⟨[], Records.nil rfl rfl rfl, fun xs hxs => ?_⟩
    cases hxs
    exact ⟨rfl, rfl⟩
  | cons p ps ih =>
    cases args with
    | nil =>
      refine ⟨[], Records.nil rfl rfl rfl, fun xs hxs => ?_⟩
      cases hxs
      exact ⟨rfl, rfl⟩
    | cons v vs =>
      obtain ⟨L₁, hL₁, hok₁⟩ := hstep i p v s
      rw [eachArg]
      cases hx : exec (step i p v) s with
      | mk r s₁ =>
        rw [hx] at hL₁ hok₁
        cases r with
        | error e =>
          rw [exec_bind_error hx]
          exact ⟨L₁, hL₁, fun xs hxs => by cases hxs⟩
        | ok x =>
          obtain ⟨rfl, hx₁⟩ := hok₁ x rfl
          rw [exec_bind_ok hx]
          obtain ⟨L₂, hL₂, hok₂⟩ := ih (i + 1) vs s₁
          cases hr : exec (eachArg step (i + 1) ps vs) s₁ with
          | mk r' s₂ =>
            rw [hr] at hL₂ hok₂
            cases r' with
            | error e =>
              rw [exec_bind_error hr]
              exact ⟨_, hL₁.trans hL₂, fun xs hxs => by cases hxs⟩
            | ok xs' =>
              rw [exec_bind_ok hr]
              obtain ⟨rfl, hxs'⟩ := hok₂ xs' rfl
              refine ⟨_, hL₁.trans hL₂, fun xs hxs => ?_⟩
              cases hxs
              exact ⟨rfl, x, xs', rfl, hx₁, hxs'⟩

namespace ParamDecl

def marshalledBuffer (p : ParamDecl) (x : Value) : List (Ownership × UInt64) :=
  if p.ty.isNullable then (x.buffer?.map (p.ownership, ·)).toList else []

def loweredBuffer (allocates : String → Bool) (p : ParamDecl) (y : Value) : List (Ownership × UInt64) :=
  match p.ty with
  | .named k => if allocates k then (y.buffer?.map (p.ownership, ·)).toList else []
  | _ => []

def Marshals (p : ParamDecl) (v x : Value) : Prop :=
  if p.ty.isNullable then ∃ o, v = .optional o else x = v

def Lowers (allocates : String → Bool) (p : ParamDecl) (_ y : Value) : Prop :=
  ∀ k, p.ty = .named k → allocates k = true → ∃ q, y = .pointer q

end ParamDecl

open OnePass in
theorem marshalArg_records (member : String) (p : ParamDecl) (v : Value) (s : CallState (σ × List Traffic) ε) :
    ∃ L, Records s (exec (marshalArg h.audited member p v) s).2 L ∧
      ∀ x, (exec (marshalArg h.audited member p v) s).1 = .ok x → L = p.marshalledBuffer x ∧ p.Marshals v x := by
  unfold marshalArg
  cases hty : p.ty with
  | nullable t =>
    obtain ⟨L, hL, hok⟩ := marshalIn_records member p.name v ⟨t, p.ownership⟩ s
    refine ⟨L, hL, fun x hx => ?_⟩
    obtain ⟨hv, rfl⟩ := hok x hx
    simp [ParamDecl.marshalledBuffer, ParamDecl.Marshals, hty, hv, TypeRef.isNullable]
  | _ =>
    refine ⟨[], Records.nil rfl rfl rfl, fun x hx => ?_⟩
    cases hx
    simp [ParamDecl.marshalledBuffer, ParamDecl.Marshals, hty, TypeRef.isNullable]

/-- A transformer that reaches the allocator only as its context allows: lowering obtains at
most one buffer, recorded under the context's ownership, and passes it on as the pointer it
returns; one that does not allocate obtains none. Raising obtains none, and at most hands the
pointer it was given back for release when the call ends. Both leave the entries alone. -/
structure Transformer.Lawful (H : Host (σ × List Traffic) ε) (tr : Transformer (σ × List Traffic) ε)
    (allocates : Bool) : Prop where
  lower : ∀ ctx v s, ∃ L, Records s (exec (tr.lower H ctx v) s).2 L ∧ (allocates = false → L = []) ∧
    ∀ y, (exec (tr.lower H ctx v) s).1 = .ok y → allocates = true → ∃ q, y = .pointer q ∧ L = [(ctx.ownership, q)]
  raise : ∀ ctx v s, (exec (tr.raise H ctx v) s).2.world.2 = s.world.2 ∧ (exec (tr.raise H ctx v) s).2.slots = s.slots ∧
    ∃ rs, rs.Sublist v.buffer?.toList ∧ (exec (tr.raise H ctx v) s).2.scratch = s.scratch.trackAll rs

def Registry.Lawful (H : Host (σ × List Traffic) ε) (reg : Registry (σ × List Traffic) ε)
    (allocates : String → Bool) : Prop :=
  ∀ k tr, reg.get? k = some tr → tr.Lawful H (allocates k)

open OnePass in
theorem lowerArg_records {reg : Registry (σ × List Traffic) ε} {allocates : String → Bool}
    (hreg : reg.Lawful h.audited allocates) (member : String) (i : Nat) (p : ParamDecl) (v : Value)
    (s : CallState (σ × List Traffic) ε) :
    ∃ L, Records s (exec (lowerArg h.audited reg member i p v) s).2 L ∧
      ∀ y, (exec (lowerArg h.audited reg member i p v) s).1 = .ok y →
        L = p.loweredBuffer allocates y ∧ p.Lowers allocates v y := by
  unfold lowerArg
  cases hty : p.ty with
  | named k =>
    dsimp only
    cases hk : reg.get? k with
    | none => exact ⟨[], Records.nil rfl rfl rfl, fun y hy => by cases hy⟩
    | some tr =>
      obtain ⟨L, hL, hnone, hsome⟩ := (hreg k tr hk).lower ⟨member, .param i p.name, p.ownership⟩ v s
      refine ⟨L, hL, fun y hy => ?_⟩
      cases ha : allocates k
      · refine ⟨?_, fun k' hk' ha' => ?_⟩
        · simp [ParamDecl.loweredBuffer, hty, ha, hnone ha]
        · rw [hty, TypeRef.named.injEq] at hk'
          subst hk'
          simp [ha] at ha'
      · obtain ⟨q, rfl, rfl⟩ := hsome y hy ha
        have hq : q ≠ 0 := hL.ne_zero _ List.mem_cons_self
        refine ⟨?_, fun k' hk' _ => ⟨q, rfl⟩⟩
        simp [ParamDecl.loweredBuffer, hty, ha, Value.buffer?, hq]
  | _ =>
    refine ⟨[], Records.nil rfl rfl rfl, fun y hy => ?_⟩
    cases hy
    exact ⟨by simp [ParamDecl.loweredBuffer, hty], fun k hk => by simp [hty] at hk⟩

def Call.Quiet (x : Call (σ × List Traffic) ε α) : Prop :=
  ∀ s, (exec x s).2.scratch = s.scratch ∧ (exec x s).2.world.2 = s.world.2

namespace Call

theorem quiet_pure (a : α) : Quiet (pure a : Call (σ × List Traffic) ε α) := fun _ => ⟨rfl, rfl⟩

theorem quiet_throw (e : Error) : Quiet (throw e : Call (σ × List Traffic) ε α) := fun _ => ⟨rfl, rfl⟩

theorem quiet_bind {x : Call (σ × List Traffic) ε β} {f : β → Call (σ × List Traffic) ε α} (hx : Quiet x)
    (hf : ∀ b, Quiet (f b)) : Quiet (x >>= f) := by
  intro s
  cases hr : exec x s with
  | mk r s₁ =>
    obtain ⟨h₁, h₂⟩ := hx s
    rw [hr] at h₁ h₂
    cases r with
    | error e => rw [exec_bind_error hr]; exact ⟨h₁, h₂⟩
    | ok b =>
      rw [exec_bind_ok hr]
      obtain ⟨h₃, h₄⟩ := hf b s₁
      exact ⟨h₃.trans h₁, h₄.trans h₂⟩

theorem quiet_resolve (slot : SlotDef) : Quiet (slot.resolve h.audited) := by
  unfold SlotDef.resolve
  refine quiet_bind (fun _ => ⟨rfl, rfl⟩) fun r => ?_
  cases r with
  | error reason => exact quiet_throw _
  | ok e => exact quiet_pure e

theorem quiet_entry (i : Nat) (slot : SlotDef) : Quiet (slot.entry h.audited i) := by
  unfold SlotDef.entry
  refine quiet_bind (fun _ => ⟨rfl, rfl⟩) fun st => ?_
  split
  · exact quiet_pure _
  · exact quiet_bind (quiet_resolve slot) fun _ => quiet_bind (fun _ => ⟨rfl, rfl⟩) fun _ => quiet_pure _

end Call

/-- A native step: it calls native code at most once, with the arguments it is given, and
returns the result, which has type `ret`; otherwise it fails having called nothing. It keeps
the scratch buffers and obtains and releases nothing. -/
def NativeStep (ret : NativeType) (inner : List Value → Call (σ × List Traffic) ε Value) : Prop :=
  ∀ xs s, (exec (inner xs) s).2.scratch = s.scratch ∧
    ((∃ e, (exec (inner xs) s).1 = .error e ∧ (exec (inner xs) s).2.world.2 = s.world.2) ∨
      ∃ v, (exec (inner xs) s).1 = .ok v ∧ (exec (inner xs) s).2.world.2 = s.world.2 ++ [.call xs v] ∧
        v.nativeType? = some ret)

open OnePass in
theorem callNative_step (hret : ∀ e sig xs w, (h.invoke e sig xs w).1.nativeType? = some sig.ret)
    (member : String) (i : Nat) (slot : SlotDef) :
    NativeStep slot.signature.ret (callNative h.audited member i slot) := by
  intro xs s
  unfold callNative
  obtain ⟨hq₁, hq₂⟩ := Call.quiet_entry i slot s
  cases hr : exec (slot.entry h.audited i) s with
  | mk r s₁ =>
    rw [hr] at hq₁ hq₂
    dsimp only at hq₁ hq₂
    cases r with
    | error e =>
      rw [exec_bind_error hr]
      exact ⟨hq₁, .inl ⟨e, rfl, hq₂⟩⟩
    | ok e =>
      rw [exec_bind_ok hr]
      unfold callEntry
      cases hc : slot.signature.check member xs with
      | error err => exact ⟨hq₁, .inl ⟨err, rfl, hq₂⟩⟩
      | ok u =>
        refine ⟨hq₁, .inr ⟨_, rfl, ?_, hret _ _ _ _⟩⟩
        simp [Host.audited, hq₂]

theorem audited_releaseAll (ps : List UInt64) (w : σ × List Traffic) :
    (ps.foldl (fun w p => h.audited.release p w) w).2 = w.2 ++ ps.map .free := by
  induction ps generalizing w with
  | nil => simp
  | cons p ps ih =>
    rw [List.foldl_cons, ih]
    simp [Host.audited]

@[simp] theorem buffers_map_free (ps : List UInt64) : Traffic.buffers (ps.map .free) = [] := by
  simp [Traffic.buffers, Traffic.buffer?, List.filterMap_map, Function.comp_def]

@[simp] theorem frees_map_free (ps : List UInt64) : Traffic.frees (ps.map .free) = ps := by
  simp [Traffic.frees, Traffic.freed?, List.filterMap_map, Function.comp_def]

@[simp] theorem calls_map_free (ps : List UInt64) : Traffic.calls (ps.map .free) = [] := by
  simp [Traffic.calls, Traffic.called?, List.filterMap_map, Function.comp_def]

theorem Value.eq_pointer_of_nativeType {v : Value} (h : v.nativeType? = some .pointer) : ∃ q, v = .pointer q := by
  cases v <;> simp_all [Value.nativeType?]

theorem Value.ne_zero_of_buffer? {v : Value} {p : UInt64} (h : p ∈ v.buffer?.toList) : p ≠ 0 := by
  cases v <;> simp [Value.buffer?] at h
  exact h.2 ▸ h.1

theorem allocate_records (ctx : MarshalContext) (n : Nat) (s : CallState (σ × List Traffic) ε) :
    ∃ L, Records s (exec (ctx.allocate h.audited n) s).2 L ∧
      ∀ p, (exec (ctx.allocate h.audited n) s).1 = .ok p → L = [(ctx.ownership, p)] := by
  unfold MarshalContext.allocate
  rw [exec_bind_ok (exec_audited_allocate _ s)]
  by_cases hp : (h.allocate n s.world.1).1 = 0
  · -- a failed allocation is reported, and nothing is recorded
    simp only [hp, beq_self_eq_true, ↓reduceIte, exec_throw_bind]
    exact ⟨[], ⟨⟨[.alloc 0], rfl, by simp, rfl, rfl⟩, by simp, rfl⟩, fun x hx => by cases hx⟩
  · have hb : ((h.allocate n s.world.1).1 == 0) = false := by simpa using hp
    simp only [hb, Bool.false_eq_true, ↓reduceIte]
    rw [exec_record]
    refine ⟨[(ctx.ownership, (h.allocate n s.world.1).1)],
      ⟨⟨[.alloc _], rfl, by simp [hp], rfl, rfl⟩, by simp [Scratch.recordAll], rfl⟩, fun x hx => ?_⟩
    cases hx
    rfl

theorem string_lawful : (Transformer.string : Transformer (σ × List Traffic) ε).Lawful h.audited true where
  lower ctx v s := by
    cases v with
    | str t =>
      simp only [Transformer.string]
      by_cases hz : t.toUTF8.toList.contains 0 = true
      · simp only [hz, ↓reduceIte, exec_throw_bind]
        exact ⟨[], Records.nil rfl rfl rfl, fun _ => rfl, fun y hy => by cases hy⟩
      · simp only [hz, Bool.false_eq_true, ↓reduceIte]
        obtain ⟨L, hL, hok⟩ := allocate_records ctx (t.toUTF8.toList.length + 1) s
        cases ha : exec (ctx.allocate h.audited (t.toUTF8.toList.length + 1)) s with
        | mk r s₁ =>
          rw [ha] at hL hok
          cases r with
          | error e =>
            rw [exec_bind_error ha]
            exact ⟨L, hL, (fun h' => nomatch h'), fun y hy => by cases hy⟩
          | ok p =>
            rw [exec_bind_ok ha]
            obtain rfl := hok p rfl
            refine ⟨_, hL.congr rfl rfl rfl, (fun h' => nomatch h'), fun y hy _ => ?_⟩
            cases hy
            exact ⟨p, rfl, rfl⟩
    | _ => exact ⟨[], Records.nil rfl rfl rfl, fun _ => rfl, fun y hy => by cases hy⟩
  raise ctx v s := by
    cases v with
    | pointer p =>
      simp only [Transformer.string]
      by_cases hp : p = 0
      · subst hp
        exact ⟨rfl, rfl, [], List.nil_sublist _, rfl⟩
      · have hb : (p == 0) = false := by simpa using hp
        simp only [hb, Bool.false_eq_true, ↓reduceIte]
        rw [exec_bind_ok (exec_look _ s)]
        split
        · -- a result the caller owns is handed back for release
          refine ⟨?_, ?_, [p], by simp [Value.buffer?, hp], ?_⟩ <;> split <;> rfl
        · refine ⟨?_, ?_, [], List.nil_sublist _, ?_⟩ <;> split <;> rfl
    | _ => exact ⟨rfl, rfl, [], List.nil_sublist _, rfl⟩

theorem withDefaults_lawful :
    (Registry.withDefaults : Registry (σ × List Traffic) ε).Lawful h.audited (· == "string") := by
  intro k tr hk
  by_cases hs : k = "string"
  · subst hs
    cases hk
    exact string_lawful
  · have hne : (k == "string") = false := by simpa using hs
    simp [Registry.withDefaults, Registry.get?, List.lookup_cons, hne] at hk

end NativeBridge
