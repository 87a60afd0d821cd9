import NativeBridge.Proofs.Shape
import NativeBridge.Proofs.Traffic

/-!
Symbol resolution over the life of an instance.

`Host.watched` writes down each lookup of a symbol, with the resolver's answer, and each call of
a native entry, after the process's own state. The resolver is any function of the process, so
it may answer differently from one lookup to the next.

Activation looks the symbols of eager slots up in slot order, which is member order, and stops
at the first missing one (`Activates`); lazy slots are not looked up. A call looks up at most its
own member's symbol, only while the member's slot is empty and right before native code is
called with the entry found: a success fills the slot, a failure fails the call with the
resolver's reason and leaves the slot empty, and a call that asks nothing has failed before its
native step (`SlotUse`). No other step of a call asks the resolver or native code anything, given
transformers that do not either. Over a run of requests a slot therefore goes through failed
lookups to its first success, after which its symbol is never looked up again and only the entry
found is called (`SlotLife`); `BindingType.generate_resolves` puts it together.
-/

namespace NativeBridge

variable {σ ε α β : Type}

inductive Resolution (ε : Type) where
  | lookup (symbol : String) (answer : Except String ε)
  | enter (entry : ε)

def Host.watched (h : Host σ ε) : Host (σ × List (Resolution ε)) ε where
  allocate n w := ((h.allocate n w.1).1, ((h.allocate n w.1).2, w.2))
  release p w := (h.release p w.1, w.2)
  load p n w := h.load p n w.1
  readable p n w := h.readable p n w.1
  store p bytes w := (h.store p bytes w.1, w.2)
  cString p w := h.cString p w.1
  resolve symbol w :=
    ((h.resolve symbol w.1).1, ((h.resolve symbol w.1).2, w.2 ++ [.lookup symbol (h.resolve symbol w.1).1]))
  invoke e sig xs w := ((h.invoke e sig xs w.1).1, ((h.invoke e sig xs w.1).2, w.2 ++ [.enter e]))
  note line w := (h.note line w.1, w.2)

@[simp]
theorem Host.watched_resolve (h : Host σ ε) (symbol : String) (w : σ × List (Resolution ε)) :
    h.watched.resolve symbol w =
      ((h.resolve symbol w.1).1, ((h.resolve symbol w.1).2, w.2 ++ [.lookup symbol (h.resolve symbol w.1).1])) :=
  rfl

theorem Host.watched_resolve_eq {h : Host σ ε} {symbol : String} {w : σ × List (Resolution ε)}
    {a : Except String ε} {w' : σ} (hr : h.resolve symbol w.1 = (a, w')) :
    h.watched.resolve symbol w = (a, (w', w.2 ++ [.lookup symbol a])) := by
  rw [Host.watched_resolve, hr]

/-- What one call does with a slot whose symbol is `sym`, going from entry `c` to entry `c'` and
adding `δ` to the log, with result `r`; `fail reason` is the error of a call whose lookup failed.
A call that asks nothing has failed before its native step. Otherwise it calls the entry the
slot held; or, the slot being empty, it looks the symbol up once, and either fails with the
resolver's reason, leaving the slot empty, or keeps the entry found and calls it, unless the
arguments do not fit the signature, in which case the call fails. -/
inductive SlotUse {ε' α : Type} (sym : String) (fail : String → ε') :
    Option ε → List (Resolution ε) → Option ε → Except ε' α → Prop
  | idle {c err} : SlotUse sym fail c [] c (.error err)
  | held {e r} : SlotUse sym fail (some e) [.enter e] (some e) r
  | failed {reason} : SlotUse sym fail none [.lookup sym (.error reason)] none (.error (fail reason))
  | found {e r} : SlotUse sym fail none [.lookup sym (.ok e), .enter e] (some e) r
  | unfit {e err} : SlotUse sym fail none [.lookup sym (.ok e)] (some e) (.error err)

theorem SlotUse.mono {ε₁ ε₂ α β : Type} {sym : String} {fail : String → ε₁} (g : ε₁ → ε₂) {c c' : Option ε}
    {δ : List (Resolution ε)} {r : Except ε₁ α} {r' : Except ε₂ β} (h : SlotUse sym fail c δ c' r)
    (hr : ∀ err, r = .error err → r' = .error (g err)) : SlotUse sym (g ∘ fail) c δ c' r' := by
  cases h with
  | idle => rw [hr _ rfl]; exact .idle
  | held => exact .held
  | failed => rw [hr _ rfl]; exact .failed
  | found => exact .found
  | unfit => rw [hr _ rfl]; exact .unfit

theorem List.set_join_getElem? (l : List (Option ε)) (i : Nat) : l.set i (l[i]?.join) = l := by
  by_cases hi : i < l.length
  · simp [List.getElem?_eq_getElem hi]
  · exact List.set_eq_of_length_le (by omega)

open Call

def Call.Blind (x : Call (σ × List (Resolution ε)) ε α) : Prop :=
  ∀ s, (exec x s).2.world.2 = s.world.2 ∧ (exec x s).2.slots = s.slots

/-- From every state, a step uses slot `i`, whose symbol is `sym`, of the member named `member`,
as `SlotUse` says, and leaves every other slot alone. -/
def Call.Uses (sym member : String) (i : Nat) (x : Call (σ × List (Resolution ε)) ε α) : Prop :=
  ∀ s, ∃ δ c, (exec x s).2.world.2 = s.world.2 ++ δ ∧ (exec x s).2.slots = s.slots.set i c ∧
    SlotUse sym (Error.symbolNotFound sym member) (s.slots[i]?.join) δ c (exec x s).1

def Transformer.Blind (h : Host σ ε) (tr : Transformer (σ × List (Resolution ε)) ε) : Prop :=
  ∀ ctx v, Call.Blind (tr.lower h.watched ctx v) ∧ Call.Blind (tr.raise h.watched ctx v)

def Registry.Blind (h : Host σ ε) (reg : Registry (σ × List (Resolution ε)) ε) : Prop :=
  ∀ key tr, reg.get? key = some tr → tr.Blind h

namespace Call

variable {x : Call (σ × List (Resolution ε)) ε β} {f : β → Call (σ × List (Resolution ε)) ε α}

theorem blind_pure (a : α) : Blind (pure a : Call (σ × List (Resolution ε)) ε α) := fun _ => ⟨rfl, rfl⟩

theorem blind_throw (e : Error) : Blind (throw e : Call (σ × List (Resolution ε)) ε α) := fun _ => ⟨rfl, rfl⟩

theorem blind_bind (hx : Blind x) (hf : ∀ b, Blind (f b)) : Blind (x >>= f) := by
  intro s
  obtain ⟨h₁, h₂⟩ := hx s
  cases hr : exec x s with
  | mk r s₁ =>
    rw [hr] at h₁ h₂
    cases r with
    | error e => rw [exec_bind_error hr]; exact ⟨h₁, h₂⟩
    | ok b =>
      rw [exec_bind_ok hr]
      obtain ⟨h₃, h₄⟩ := hf b s₁
      exact ⟨h₃.trans h₁, h₄.trans h₂⟩

theorem blind_world {g : σ × List (Resolution ε) → σ × List (Resolution ε)} (hg : ∀ w, (g w).2 = w.2) :
    Blind (Call.world g : Call (σ × List (Resolution ε)) ε Unit) := fun s => ⟨hg s.world, rfl⟩

theorem blind_ask {γ : Type} {g : σ × List (Resolution ε) → γ × (σ × List (Resolution ε))}
    (hg : ∀ w, (g w).2.2 = w.2) : Blind (Call.ask g : Call (σ × List (Resolution ε)) ε γ) :=
  fun s => ⟨hg s.world, rfl⟩

theorem blind_look {γ : Type} (g : σ × List (Resolution ε) → γ) :
    Blind (Call.look g : Call (σ × List (Resolution ε)) ε γ) := fun _ => ⟨rfl, rfl⟩

theorem blind_scratch (g : Scratch → Scratch) : Blind (Call.scratch g : Call (σ × List (Resolution ε)) ε Unit) :=
  fun _ => ⟨rfl, rfl⟩

theorem uses_throw {sym member : String} {i : Nat} (e : Error) :
    Uses sym member i (throw e : Call (σ × List (Resolution ε)) ε α) := fun s =>
  ⟨[], s.slots[i]?.join, by simp, by rw [exec_throw, List.set_join_getElem?], .idle⟩

theorem uses_bind {sym member : String} {i : Nat} (hx : Uses sym member i x) (hf : ∀ b, Blind (f b)) :
    Uses sym member i (x >>= f) := by
  intro s
  obtain ⟨δ, c, h₁, h₂, hu⟩ := hx s
  cases hr : exec x s with
  | mk r s₁ =>
    rw [hr] at h₁ h₂ hu
    cases r with
    | error e =>
      rw [exec_bind_error hr]
      exact ⟨δ, c, h₁, h₂, hu.mono id fun _ he => by cases he; rfl⟩
    | ok b =>
      rw [exec_bind_ok hr]
      obtain ⟨h₃, h₄⟩ := hf b s₁
      exact ⟨δ, c, h₃.trans h₁, h₄.trans h₂, hu.mono id fun _ he => by cases he⟩

theorem blind_bind_uses {sym member : String} {i : Nat} (hx : Blind x) (hf : ∀ b, Uses sym member i (f b)) :
    Uses sym member i (x >>= f) := by
  intro s
  obtain ⟨h₁, h₂⟩ := hx s
  cases hr : exec x s with
  | mk r s₁ =>
    rw [hr] at h₁ h₂
    cases r with
    | error e =>
      rw [exec_bind_error hr]
      exact ⟨[], s.slots[i]?.join, by simpa using h₁, by rw [h₂, List.set_join_getElem?], .idle⟩
    | ok b =>
      rw [exec_bind_ok hr]
      obtain ⟨δ, c, h₃, h₄, hu⟩ := hf b s₁
      refine ⟨δ, c, by rw [h₃, h₁], by rw [h₄, h₂], ?_⟩
      rwa [h₂] at hu

theorem watched_releaseAll (h : Host σ ε) (ps : List UInt64) (w : σ × List (Resolution ε)) :
    (ps.foldl (fun w p => h.watched.release p w) w).2 = w.2 := by
  induction ps generalizing w with
  | nil => rfl
  | cons p ps ih => rw [List.foldl_cons, ih]; rfl

theorem blind_activation (h : Host σ ε) {body : Call (σ × List (Resolution ε)) ε α} (hb : Blind body) :
    Blind (activation h.watched body) := by
  intro s
  obtain ⟨h₁, h₂⟩ := hb { s with scratch := {} }
  rw [exec_activation]
  exact ⟨by rw [watched_releaseAll]; exact h₁, h₂⟩

theorem uses_activation (h : Host σ ε) {sym member : String} {i : Nat} {body : Call (σ × List (Resolution ε)) ε α}
    (hb : Uses sym member i body) : Uses sym member i (activation h.watched body) := by
  intro s
  obtain ⟨δ, c, h₁, h₂, hu⟩ := hb { s with scratch := {} }
  rw [exec_activation]
  exact ⟨δ, c, by rw [watched_releaseAll]; exact h₁, h₂, hu⟩

theorem blind_throw_bind (e : Error) (f : β → Call (σ × List (Resolution ε)) ε α) : Blind (throw e >>= f) :=
  fun _ => ⟨rfl, rfl⟩

def Enters (e : ε) (x : Call (σ × List (Resolution ε)) ε α) : Prop :=
  ∀ s, ∃ δ, ((δ = [] ∧ ∃ err, (exec x s).1 = .error err) ∨ δ = [.enter e]) ∧
    (exec x s).2.world.2 = s.world.2 ++ δ ∧ (exec x s).2.slots = s.slots

theorem exec_resolve_ok {σ : Type} (host : Host σ ε) (sl : SlotDef) {s : CallState σ ε} {e : ε} {w : σ}
    (hr : host.resolve sl.symbol s.world = (.ok e, w)) : exec (sl.resolve host) s = (.ok e, { s with world := w }) := by
  unfold SlotDef.resolve
  rw [exec_bind_ok (exec_ask _ s), hr]
  rfl

theorem exec_resolve_error {σ : Type} (host : Host σ ε) (sl : SlotDef) {s : CallState σ ε} {reason : String} {w : σ}
    (hr : host.resolve sl.symbol s.world = (.error reason, w)) :
    exec (sl.resolve host) s = (.error (.symbolNotFound sl.symbol sl.member reason), { s with world := w }) := by
  unfold SlotDef.resolve
  rw [exec_bind_ok (exec_ask _ s), hr]
  rfl

theorem exec_entry_of_held {σ : Type} (host : Host σ ε) (sl : SlotDef) {i : Nat} {s : CallState σ ε} {e : ε}
    (hs : s.slots[i]? = some (some e)) : exec (sl.entry host i) s = (.ok e, s) := by
  unfold SlotDef.entry
  rw [exec_bind_ok (exec_get s)]
  simp only [hs]
  rfl

theorem exec_entry_of_empty {σ : Type} (host : Host σ ε) (sl : SlotDef) {i : Nat} {s : CallState σ ε}
    (hs : s.slots[i]?.join = none) :
    exec (sl.entry host i) s = exec (do
      let e ← sl.resolve host
      modify fun st => { st with slots := st.slots.set i (some e) }
      pure e) s := by
  unfold SlotDef.entry
  rw [exec_bind_ok (exec_get s)]
  cases hc : s.slots[i]? with
  | none => rfl
  | some c =>
    cases c with
    | none => rfl
    | some e => simp [hc] at hs

theorem uses_entry_bind (h : Host σ ε) {sl : SlotDef} {i : Nat} {k : ε → Call (σ × List (Resolution ε)) ε α}
    (hk : ∀ e, Enters e (k e)) : Uses sl.symbol sl.member i (sl.entry h.watched i >>= k) := by
  intro s
  cases hc : s.slots[i]?.join with
  | some e =>
    -- the entry kept before is called, or nothing is
    obtain ⟨δ, hδ, h₁, h₂⟩ := hk e s
    rw [exec_bind_ok (exec_entry_of_held _ _ (Option.join_eq_some_iff.1 hc))]
    refine ⟨δ, some e, h₁, by rw [h₂, ← hc, List.set_join_getElem?], ?_⟩
    rcases hδ with ⟨rfl, err, herr⟩ | rfl
    · rw [herr]
      exact .idle
    · exact .held
  | none =>
    -- the symbol is looked up once, and the answer decides the call
    have hslots : s.slots.set i none = s.slots := by rw [← hc, List.set_join_getElem?]
    cases hr : h.resolve sl.symbol s.world.1 with
    | mk r w =>
      cases r with
      | error reason =>
        have hent : exec (sl.entry h.watched i) s =
            (.error (.symbolNotFound sl.symbol sl.member reason), { s with world := (w, s.world.2 ++ [.lookup sl.symbol (.error reason)]) }) := by
          rw [exec_entry_of_empty _ _ hc, exec_bind_error (exec_resolve_error _ _ (Host.watched_resolve_eq hr))]
        rw [exec_bind_error hent]
        exact ⟨[.lookup sl.symbol (.error reason)], none, rfl, hslots.symm, .failed⟩
      | ok e =>
        have hent : exec (sl.entry h.watched i) s =
            (.ok e, { s with world := (w, s.world.2 ++ [.lookup sl.symbol (.ok e)]), slots := s.slots.set i (some e) }) := by
          rw [exec_entry_of_empty _ _ hc, exec_bind_ok (exec_resolve_ok _ _ (Host.watched_resolve_eq hr)), exec_bind_ok (exec_modify _ _)]
          rfl
        rw [exec_bind_ok hent]
        obtain ⟨δ, hδ, h₁, h₂⟩ := hk e _
        refine ⟨.lookup sl.symbol (.ok e) :: δ, some e, by rw [h₁]; simp, h₂, ?_⟩
        -- the entry found is called, unless the arguments do not fit its signature
        rcases hδ with ⟨rfl, err, herr⟩ | rfl
        · rw [herr]
          exact .unfit
        · exact .found

theorem enters_callEntry (h : Host σ ε) (member : String) (e : ε) (sig : NativeSignature) (args : List Value) :
    Enters e (callEntry h.watched member e sig args) := by
  intro s
  unfold callEntry
  split
  · exact ⟨[], .inl ⟨rfl, _, rfl⟩, by simp, rfl⟩
  · exact ⟨[.enter e], .inr rfl, rfl, rfl⟩

theorem uses_callSlot (h : Host σ ε) {t : BindingType} {i : Nat} {sl : SlotDef} (hsl : t.slots[i]? = some sl)
    (member : String) (sig : NativeSignature) (args : List Value) :
    Uses sl.symbol sl.member i (callSlot h.watched t member i sig args) := by
  unfold callSlot slotEntry
  simp only [hsl]
  exact uses_entry_bind h fun e => enters_callEntry h member e sig args

theorem uses_checked {sym member : String} {i : Nat} (d : MemberDecl) (args : List Value)
    {k : Call (σ × List (Resolution ε)) ε α} (hk : Uses sym member i k) : Uses sym member i (d.checked args k) := by
  unfold MemberDecl.checked
  split
  · exact uses_throw _
  · exact hk

theorem blind_allocate (h : Host σ ε) (ctx : MarshalContext) (size : Nat) : Blind (ctx.allocate h.watched size) := by
  unfold MarshalContext.allocate
  refine blind_bind (blind_ask fun _ => rfl) fun p => ?_
  dsimp only
  split
  · exact blind_throw_bind _ _
  · split <;> exact blind_bind (blind_scratch _) fun _ => blind_pure _

theorem blind_marshalIn (h : Host σ ε) (member name : String) (v : Value) (m : NullableMarshal) :
    Blind (marshalIn h.watched member name v m) := by
  unfold marshalIn
  split
  · exact blind_pure _
  · refine blind_bind (blind_ask fun _ => rfl) fun buf => ?_
    dsimp only
    split
    · exact blind_throw_bind _ _
    · -- the buffer is tracked or handed over, then written if the value fits its type
      split <;> refine blind_bind (blind_scratch _) fun _ => ?_ <;> split
      all_goals first
        | exact blind_bind (blind_world fun _ => rfl) fun _ => blind_pure _
        | exact blind_throw _
  · exact blind_throw _

theorem blind_marshalOut (h : Host σ ε) (member : String) (v : Value) (m : NullableMarshal) :
    Blind (marshalOut h.watched member v m) := by
  unfold marshalOut
  split
  · exact blind_throw _
  · split
    · exact blind_pure _
    · refine blind_bind (blind_look _) fun _ => ?_
      split
      · exact blind_bind (blind_world fun _ => rfl) fun _ => blind_pure _
      · exact blind_pure _

theorem blind_convertArguments {γ : Type} {f : Nat → Value → γ → Call (σ × List (Resolution ε)) ε Value}
    (hf : ∀ i v c, Blind (f i v c)) (i : Nat) (vs : List Value) (cs : List (Option γ)) :
    Blind (convertArguments f i vs cs) := by
  induction vs generalizing i cs with
  | nil => exact blind_pure _
  | cons v vs ih =>
    cases cs with
    | nil => exact blind_pure _
    | cons c cs =>
      have hrest : ∀ w, Blind (do let ws ← convertArguments f (i + 1) vs cs; pure (w :: ws)) :=
        fun w => blind_bind (ih (i + 1) cs) fun _ => blind_pure _
      cases c with
      | some c =>
        rw [convertArguments.eq_1]
        exact blind_bind (hf i v c) hrest
      | none =>
        rw [convertArguments.eq_2, pure_bind]
        exact hrest v

section

variable (h : Host σ ε) {sym member : String} {i : Nat} {inner : List Value → Call (σ × List (Resolution ε)) ε Value}

theorem uses_lowerThrough {reg : Registry (σ × List (Resolution ε)) ε} (hreg : reg.Blind h) (name : String)
    (decl : MemberDecl) (params : List (Option String)) (ret : Option String)
    (hinner : ∀ args, Uses sym member i (inner args)) (args : List Value) :
    Uses sym member i (lowerThrough h.watched reg name decl params ret inner args) := by
  unfold lowerThrough
  refine uses_activation h ?_
  dsimp only
  refine blind_bind_uses (blind_convertArguments (fun i v key => ?_) 0 args params) fun lowered =>
    uses_bind (hinner lowered) fun result => blind_bind (blind_scratch _) fun _ => ?_
  · -- the transformer is looked up, then lowers the argument
    split
    · rename_i tr htr
      rw [pure_bind]
      exact (hreg key tr htr _ v).1
    · exact blind_throw_bind _ _
  · split
    · rename_i key
      split
      · rename_i tr htr
        rw [pure_bind]
        exact (hreg key tr htr _ result).2
      · exact blind_throw_bind _ _
    · exact blind_pure _

theorem uses_marshalThrough (name : String) (decl : MemberDecl) (params : List (Option NullableMarshal))
    (ret : Option NullableMarshal) (hinner : ∀ args, Uses sym member i (inner args)) (args : List Value) :
    Uses sym member i (marshalThrough h.watched name decl params ret inner args) := by
  unfold marshalThrough
  refine uses_activation h ?_
  refine blind_bind_uses (blind_convertArguments (fun i v mar => blind_marshalIn h _ _ v mar) 0 args params)
    fun marshalled => uses_bind (hinner marshalled) fun result => blind_bind (blind_scratch _) fun _ => ?_
  split
  · exact blind_marshalOut h _ _ _
  · exact blind_pure _

end

end Call

namespace Placed

open Call Stage

variable {input : GenerationInput} {b : Binding ε} (h : Host σ ε) {reg : Registry (σ × List (Resolution ε)) ε}
  (hreg : reg.Blind h)
include hreg

theorem execute_uses {L : List Stage} {w : WorkUnit} (hp : Placed b.type input L w) {sl : SlotDef}
    (hsl : slotOf input L w = some sl) {m : MemberDecl} (hm : b.type.interface.members[w.memberIndex]? = some m)
    (args : List Value) : Uses sl.symbol sl.member w.memberIndex (execute h.watched reg b w.method args) := by
  induction L, w, hp using Placed.induction generalizing args with
  | direct rest w hp happ =>
    rw [execute_native (hp.getElem?_method happ) hm rfl]
    exact uses_callSlot h (hp.slot.trans hsl) _ _ _
  | forward s rest w v hp happ hv ih =>
    obtain ⟨hidx, -, -, -, hvm, -⟩ := helper_fields hv
    have hmd := hp.getElem?_method happ
    -- the helper's method, right after this one, serves the same member through the same slot
    have hnext : ∀ args, Uses sl.symbol sl.member w.memberIndex (execute h.watched reg b (w.method + 1) args) := by
      intro args
      rw [← hvm, ← hidx]
      exact ih (by rwa [← slotOf_of_helper happ hv]) (by rwa [hidx]) args
    cases s with
    | disposalGuard =>
      rw [execute_guard hmd hm rfl]
      split
      · exact uses_throw _
      · exact hnext args
    | lowered => rw [execute_lowered hmd hm rfl]; exact uses_lowerThrough h hreg _ _ _ _ hnext args
    | nullable => rw [execute_nullable hmd hm rfl]; exact uses_marshalThrough h _ _ _ _ hnext args
    | directCall => simp [Stage.helper] at hv
  | skip s rest w hp happ ih => exact ih (by rwa [← slotOf_of_not_applies happ]) hm args

theorem guarded_uses {L : List Stage} {w : WorkUnit} (hp : Placed b.type input L w) {k : Nat}
    (hg : b.type.methods[w.method]?.map MethodDef.body = some (.guard k)) {sl : SlotDef}
    (hsl : slotOf input L w = some sl) {m : MemberDecl} (hm : b.type.interface.members[w.memberIndex]? = some m)
    (args : List Value) : Uses sl.symbol sl.member w.memberIndex (execute h.watched reg b k args) := by
  induction L, w, hp using Placed.induction with
  | direct rest w hp happ => simp [hp.getElem?_method happ, WorkUnit.finished, Stage.body] at hg
  | forward s rest w v hp happ hv ih =>
    obtain ⟨hidx, -, -, -, hvm, -⟩ := helper_fields hv
    -- only the guard stage emits a guard, and it guards the helper's method
    cases s with
    | disposalGuard =>
      obtain rfl : k = v.method := by simpa [hp.getElem?_method happ, WorkUnit.finished, Stage.body, hvm] using hg.symm
      rw [← hidx]
      exact execute_uses h hreg (hp.helper happ hv) (by rwa [← slotOf_of_helper happ hv]) (by rwa [hidx]) args
    | lowered | nullable => simp [hp.getElem?_method happ, WorkUnit.finished, Stage.body] at hg
    | directCall => simp [Stage.helper] at hv
  | skip s rest w hp happ ih => exact ih hg (by rwa [← slotOf_of_not_applies happ]) hm

end Placed

theorem InterfaceDecl.find?_eq_some {d : InterfaceDecl} {name : String} {i : Nat} {m : MemberDecl}
    (h : d.find? name = some (i, m)) : d.members[i]? = some m ∧ m.name = name := by
  obtain ⟨⟨m', i'⟩, hfind, heq⟩ := Option.map_eq_some_iff.1 h
  cases heq
  exact ⟨List.mem_zipIdx_iff_getElem?.1 (List.mem_of_find?_eq_some hfind), by simpa using List.find?_some hfind⟩

theorem BindingType.interface_of_generate {L : List Stage} {input : GenerationInput} {I : InterfaceDecl}
    {t : BindingType} (h : BindingType.generate L input I = .ok t) : t.interface = I := by
  obtain ⟨_, -, h⟩ := bind_eq_ok h
  obtain ⟨⟨entries, g⟩, -, h⟩ := bind_eq_ok h
  obtain ⟨⟨methods, slots⟩, -, h⟩ := bind_eq_ok h
  cases h
  rfl

section Members

open Call Stage

variable {L : List Stage} {input : GenerationInput} {I : InterfaceDecl} {t : BindingType} {b : Binding ε}
  (h : Host σ ε) {reg : Registry (σ × List (Resolution ε)) ε} (hreg : reg.Blind h)
  (hgen : BindingType.generate L input I = .ok t) (hb : b.type = t)
include hreg hgen hb

theorem Binding.invoke_uses {i : Nat} {m : MemberDecl} (hm : I.members[i]? = some m) {sl : SlotDef}
    (hsl : t.slots[i]? = some sl) (args : List Value) :
    Uses sl.symbol sl.member i (b.invoke h.watched reg m.name args) := by
  subst hb
  obtain ⟨-, -, e, he, hp⟩ := BindingType.generate_layout hgen hm
  obtain ⟨hmi, hfind⟩ := BindingType.find?_of_generate hgen hm
  have hslot : slotOf input L (WorkUnit.entry m i i e) = some sl := hp.slot.symm.trans hsl
  simp only [Binding.invoke, hfind]
  -- a guard at the entry checks the flag first, then passes on
  by_cases hg : ∃ k, b.type.methods[e]?.map MethodDef.body = some (.guard k)
  · obtain ⟨k, hk⟩ := hg
    rw [Binding.invokeIndex_of_guard hmi he hk]
    split
    · exact uses_throw _
    · exact uses_checked _ _ (hp.guarded_uses h hreg hk hslot hmi args)
  · rw [Binding.invokeIndex_of_not_guard hmi he fun k hk => hg ⟨k, hk⟩]
    exact uses_checked _ _ (hp.execute_uses h hreg hslot hmi args)

theorem Binding.invoke_slots (name : String) (args : List Value) (s : CallState (σ × List (Resolution ε)) ε) :
    ∃ i' c, (∀ i m, I.members[i]? = some m → m.name ≠ name → i' ≠ i) ∧
      (exec (b.invoke h.watched reg name args) s).2.slots = s.slots.set i' c := by
  have hI : b.type.interface = I := hb ▸ BindingType.interface_of_generate hgen
  cases hfind : b.type.interface.find? name with
  | none =>
    -- no member has the name: the call fails at once
    have hx : b.invoke h.watched reg name args = throw (.unknownMember b.type.interface.name name) := by
      simp only [Binding.invoke, hfind]
    refine ⟨I.members.length, s.slots[I.members.length]?.join, fun i m hm _ => ?_, ?_⟩
    · exact Nat.ne_of_gt (List.getElem?_eq_some_iff.1 hm).1
    · rw [hx, List.set_join_getElem?]
      rfl
  | some p =>
    obtain ⟨i', m'⟩ := p
    obtain ⟨hm', rfl⟩ := InterfaceDecl.find?_eq_some (hI ▸ hfind)
    obtain ⟨-, -, e', -, hp'⟩ := BindingType.generate_layout hgen hm'
    obtain ⟨sl', hsl', -⟩ := hp'.native
    obtain ⟨δ, c, -, hslots, -⟩ := Binding.invoke_uses h hreg hgen hb hm' (hp'.slot.trans hsl') args s
    refine ⟨i', c, fun i m hm hname => ?_, hslots⟩
    rintro rfl
    exact hname (by rw [Option.some.inj (hm.symm.trans hm')])

end Members

namespace Stage

variable {input : GenerationInput}

theorem slotOf_eq_some {L : List Stage} {u : WorkUnit} {sl : SlotDef} (h : slotOf input L u = some sl) :
    ∃ sig, sl = ⟨u.symbolName, u.baseName, sig, input.config.lazyBinding⟩ := by
  induction L generalizing u with
  | nil => simp [slotOf, route] at h
  | cons s rest ih =>
    cases happ : s.applies input u
    · rw [slotOf_of_not_applies happ] at h
      exact ih h
    · cases hv : s.helper input u with
      | none =>
        obtain rfl := helper_eq_none hv
        rw [slotOf_directCall happ] at h
        exact ⟨_, (Option.some.inj h).symm⟩
      | some v =>
        obtain ⟨-, hsym, hbase, -⟩ := helper_fields hv
        rw [slotOf_of_helper happ hv] at h
        rw [← hsym, ← hbase]
        exact ih h

end Stage

theorem BindingType.generate_slot {L : List Stage} {input : GenerationInput} {I : InterfaceDecl}
    {t : BindingType} (hgen : generate L input I = .ok t) {i : Nat} {m : MemberDecl} (hm : I.members[i]? = some m) :
    ∃ sig, t.slots[i]? = some ⟨m.symbolName, m.name, sig, input.config.lazyBinding⟩ := by
  obtain ⟨-, -, e, -, hp⟩ := generate_layout hgen hm
  obtain ⟨sl, hsl, -⟩ := hp.native
  obtain ⟨sig, rfl⟩ := Stage.slotOf_eq_some hsl
  exact ⟨sig, hp.slot.trans hsl⟩

/-- What activation asks of the resolver for a list of slots, and the entries it gives them:
lazy slots are skipped, eager ones are looked up in order, and the first missing symbol fails
the activation naming that slot's symbol and member. -/
inductive Activates : List SlotDef → List (Resolution ε) → Except Error (List (Option ε)) → Prop
  | nil : Activates [] [] (.ok [])
  | lazy {sl : SlotDef} {ss δ r} : sl.lazy = true → Activates ss δ r → Activates (sl :: ss) δ (r.map (none :: ·))
  | found {sl : SlotDef} {ss δ r} {e : ε} : sl.lazy = false → Activates ss δ r →
      Activates (sl :: ss) (.lookup sl.symbol (.ok e) :: δ) (r.map (some e :: ·))
  | missing {sl : SlotDef} {ss reason} : sl.lazy = false →
      Activates (sl :: ss) [.lookup sl.symbol (.error reason)] (.error (.symbolNotFound sl.symbol sl.member reason))

namespace Activates

variable {ss : List SlotDef} {δ : List (Resolution ε)} {r : Except Error (List (Option ε))}

theorem of_lazy (h : Activates ss δ r) (hlazy : ∀ sl ∈ ss, sl.lazy = true) :
    δ = [] ∧ r = .ok (ss.map fun _ => none) := by
  induction h with
  | nil => exact ⟨rfl, rfl⟩
  | lazy _ _ ih =>
    obtain ⟨rfl, rfl⟩ := ih fun sl hsl => hlazy sl (List.mem_cons_of_mem _ hsl)
    exact ⟨rfl, rfl⟩
  | found hl _ _ | missing hl => simp [hlazy _ List.mem_cons_self] at hl

theorem cells {cells : List (Option ε)} (h : Activates ss δ (.ok cells)) :
    cells.length = ss.length ∧ ∀ (i : Nat) (sl : SlotDef), ss[i]? = some sl → ((cells[i]?.join).isSome ↔ sl.lazy = false) := by
  generalize hr : (Except.ok cells : Except Error (List (Option ε))) = r at h
  induction h generalizing cells with
  | nil =>
    cases hr
    simp
  -- an empty cell for a lazy slot, a found entry for an eager one; the rest by induction
  | @lazy sl ss δ r hl _ ih | @found sl ss δ r e hl _ ih =>
    cases r with
    | error => cases hr
    | ok cs =>
      cases hr
      obtain ⟨hlen, hcell⟩ := ih rfl
      refine ⟨by simp [hlen], fun i sl' hsl' => ?_⟩
      cases i with
      | zero => cases hsl'; simp [hl]
      | succ i => exact hcell i sl' hsl'
  | missing => cases hr

end Activates

namespace Call

theorem exec_bind_pure {σ : Type} (x : Call σ ε β) (f : β → α) (s : CallState σ ε) :
    exec (x >>= fun b => pure (f b)) s = ((exec x s).1.map f, (exec x s).2) := by
  cases hr : exec x s with
  | mk r s' =>
    cases r with
    | error e => rw [exec_bind_error hr]; rfl
    | ok b => rw [exec_bind_ok hr]; rfl

theorem exec_activate (h : Host σ ε) (ss : List SlotDef) (s : CallState (σ × List (Resolution ε)) ε) :
    ∃ δ, (exec (SlotDef.activate h.watched ss) s).2.world.2 = s.world.2 ++ δ ∧
      (exec (SlotDef.activate h.watched ss) s).2.slots = s.slots ∧
      Activates ss δ (exec (SlotDef.activate h.watched ss) s).1 := by
  induction ss generalizing s with
  | nil => exact ⟨[], by simp [SlotDef.activate], rfl, .nil⟩
  | cons sl ss ih =>
    cases hl : sl.lazy
    · -- an eager slot is looked up, and a missing symbol ends the activation
      have hrun : SlotDef.activate h.watched (sl :: ss) =
          sl.resolve h.watched >>= fun e => SlotDef.activate h.watched ss >>= fun es => pure (some e :: es) := by
        simp [SlotDef.activate, hl, bind_map_left]
      rw [hrun]
      cases hr : h.resolve sl.symbol s.world.1 with
      | mk r w =>
        cases r with
        | error reason =>
          rw [exec_bind_error (exec_resolve_error _ _ (Host.watched_resolve_eq hr))]
          exact ⟨_, rfl, rfl, .missing hl⟩
        | ok e =>
          rw [exec_bind_ok (exec_resolve_ok _ _ (Host.watched_resolve_eq hr)), exec_bind_pure]
          obtain ⟨δ, h₁, h₂, hact⟩ := ih _
          exact ⟨.lookup sl.symbol (.ok e) :: δ, by rw [h₁]; simp, h₂, .found hl hact⟩
    · -- a lazy slot is skipped
      have hrun : SlotDef.activate h.watched (sl :: ss) =
          SlotDef.activate h.watched ss >>= fun es => pure (none :: es) := by
        simp [SlotDef.activate, hl]
      rw [hrun, exec_bind_pure]
      obtain ⟨δ, h₁, h₂, hact⟩ := ih s
      exact ⟨δ, h₁, h₂, .lazy hl hact⟩

end Call

/-- The lookups and calls a slot sees over a run: failed lookups of its symbol while it is
empty, then at most one successful lookup, after which only the entry found is called. -/
inductive SlotLife (sym : String) : Option ε → List (Resolution ε) → Option ε → Prop
  | empty : SlotLife sym none [] none
  | retry {reason evs c} : SlotLife sym none evs c → SlotLife sym none (.lookup sym (.error reason) :: evs) c
  | found {e evs} : SlotLife sym (some e) evs (some e) → SlotLife sym none (.lookup sym (.ok e) :: evs) (some e)
  | held {e evs} : (∀ x ∈ evs, x = .enter e) → SlotLife sym (some e) evs (some e)

inductive SlotUses {ε' α : Type} (sym : String) (fail : String → ε') :
    Option ε → List (List (Resolution ε) × Except ε' α) → Option ε → Prop
  | nil {c} : SlotUses sym fail c [] c
  | cons {c c' c'' δ r calls} :
      SlotUse sym fail c δ c' r → SlotUses sym fail c' calls c'' → SlotUses sym fail c ((δ, r) :: calls) c''

namespace SlotLife

variable {sym : String} {c c' : Option ε} {evs : List (Resolution ε)}

theorem of_held {e : ε} (h : SlotLife sym (some e) evs c') : c' = some e ∧ ∀ x ∈ evs, x = .enter e := by
  cases h with
  | held hevs => exact ⟨rfl, hevs⟩

theorem nil : ∀ c : Option ε, SlotLife sym c [] c
  | none => .empty
  | some _ => .held (by simp)

theorem of_use {ε' α : Type} {fail : String → ε'} {c₀ : Option ε} {δ : List (Resolution ε)} {r : Except ε' α}
    (hu : SlotUse sym fail c₀ δ c r) (h : SlotLife sym c evs c') : SlotLife sym c₀ (δ ++ evs) c' := by
  cases hu with
  | idle => exact h
  | held =>
    obtain ⟨rfl, hevs⟩ := h.of_held
    exact .held (by simpa using hevs)
  | failed => exact .retry h
  | found =>
    obtain ⟨rfl, hevs⟩ := h.of_held
    exact .found (.held (by simpa using hevs))
  | unfit =>
    obtain ⟨rfl, hevs⟩ := h.of_held
    exact .found (.held hevs)

theorem isSome_iff (h : SlotLife sym c evs c') : c'.isSome ↔ c.isSome ∨ ∃ e, .lookup sym (.ok e) ∈ evs := by
  induction h with
  | empty => simp
  | retry _ ih => simp [ih]
  | found _ _ | held _ => simp

end SlotLife

theorem SlotUses.life {ε' α : Type} {sym : String} {fail : String → ε'} {c c' : Option ε}
    {calls : List (List (Resolution ε) × Except ε' α)} (h : SlotUses sym fail c calls c') :
    SlotLife sym c (calls.flatMap (·.1)) c' := by
  induction h with
  | nil => exact SlotLife.nil _
  | cons hu _ ih => exact ih.of_use hu

namespace Pool

def logged (h : Host σ ε) (reg : Registry (σ × List (Resolution ε)) ε) (p : Pool (σ × List (Resolution ε)) ε) :
    List Request → List (Request × Except SessionFault Outcome × List (Resolution ε))
  | [] => []
  | r :: rs =>
    (r, (p.step h.watched reg r).1, (p.step h.watched reg r).2.world.2.drop p.world.2.length) ::
      (p.step h.watched reg r).2.logged h reg rs

def callOf (j : Nat) (name : String) :
    Request × Except SessionFault Outcome × List (Resolution ε) → Option (List (Resolution ε) × Except SessionFault Outcome)
  | (.invoke k n _, o, δ) => if k = j ∧ n = name then some (δ, o) else none
  | _ => none

def callsOf (h : Host σ ε) (reg : Registry (σ × List (Resolution ε)) ε) (p : Pool (σ × List (Resolution ε)) ε)
    (rs : List Request) (j : Nat) (name : String) : List (List (Resolution ε) × Except SessionFault Outcome) :=
  (p.logged h reg rs).filterMap (callOf j name)

variable {σ' : Type} {host : Host σ' ε} {reg' : Registry σ' ε} {p' : Pool σ' ε} {j : Nat} {b : Binding ε}

theorem step_invoke (hj : p'.instances[j]? = some b) (name : String) (args : List Value) :
    (p'.step host reg' (.invoke j name args)).2 =
      { world := (exec (b.invoke host reg' name args) ⟨p'.world, {}, b.slots⟩).2.world,
        instances := p'.instances.set j
          { b with slots := (exec (b.invoke host reg' name args) ⟨p'.world, {}, b.slots⟩).2.slots } } := by
  simp only [Pool.step, hj]
  rfl

theorem step_invoke_error (hj : p'.instances[j]? = some b) {name : String} {args : List Value} {e : Error}
    (he : (exec (b.invoke host reg' name args) ⟨p'.world, {}, b.slots⟩).1 = .error e) :
    (p'.step host reg' (.invoke j name args)).1 = .error (.error e) := by
  unfold Call.exec at he
  simp only [Pool.step, hj, Call.run]
  generalize (ExceptT.run (b.invoke host reg' name args)).run { world := p'.world, slots := b.slots } = res at he ⊢
  obtain ⟨r, s⟩ := res
  cases he
  rfl

theorem step_invoke_getElem?_of_ne {k : Nat} (hk : k ≠ j) (name : String) (args : List Value) :
    (p'.step host reg' (.invoke k name args)).2.instances[j]? = p'.instances[j]? := by
  simp only [Pool.step]
  split
  · rfl
  · exact List.getElem?_set_ne hk

end Pool

section Run

open Call

variable {L : List Stage} {input : GenerationInput} {I : InterfaceDecl} {t : BindingType}
  (h : Host σ ε) {reg : Registry (σ × List (Resolution ε)) ε} (hreg : reg.Blind h)
  (hgen : BindingType.generate L input I = .ok t) {p : Pool (σ × List (Resolution ε)) ε} {j : Nat} {b : Binding ε}
include hreg hgen

theorem Pool.step_keeps (hj : p.instances[j]? = some b) (hb : b.type = t) (hlen : b.slots.length = t.slots.length)
    (r : Request) :
    ∃ b', (p.step h.watched reg r).2.instances[j]? = some b' ∧ b'.type = t ∧ b'.slots.length = t.slots.length ∧
      ∀ (i : Nat) (m : MemberDecl), I.members[i]? = some m →
        Pool.callOf j m.name (r, (p.step h.watched reg r).1, (p.step h.watched reg r).2.world.2.drop p.world.2.length) = none →
        b'.slots[i]? = b.slots[i]? := by
  cases r with
  | dispose k =>
    -- a disposal changes at most the flag
    refine ⟨if k = j then b.dispose.2 else b, by rw [Pool.step_dispose_getElem?, hj]; rfl, ?_, ?_, ?_⟩ <;>
      split <;> simp [Binding.dispose, hb, hlen]
  | invoke k name args =>
    by_cases hk : k = j
    · subst hk
      obtain ⟨i', c, hother, hslots⟩ := Binding.invoke_slots h hreg hgen hb name args ⟨p.world, {}, b.slots⟩
      rw [Pool.step_invoke hj]
      refine ⟨_, List.getElem?_set_self (List.getElem?_eq_some_iff.1 hj).1, hb, ?_, fun i m hm hr => ?_⟩
      · simp only [hslots, List.length_set, hlen]
      · have hname : name ≠ m.name := by
          intro hn
          simp [Pool.callOf, hn] at hr
        simp only [hslots]
        exact List.getElem?_set_ne (hother i m hm hname.symm)
    · exact ⟨b, by rw [Pool.step_invoke_getElem?_of_ne hk, hj], hb, hlen, fun _ _ _ _ => rfl⟩

theorem Pool.after_keeps (hj : p.instances[j]? = some b) (hb : b.type = t) (hlen : b.slots.length = t.slots.length)
    (rs : List Request) :
    ∃ b', (p.after h.watched reg rs).instances[j]? = some b' ∧ b'.type = t ∧ b'.slots.length = t.slots.length := by
  induction rs generalizing p b with
  | nil => exact ⟨b, hj, hb, hlen⟩
  | cons r rs ih =>
    obtain ⟨b₁, hj₁, hb₁, hlen₁, -⟩ := Pool.step_keeps h hreg hgen hj hb hlen r
    exact ih hj₁ hb₁ hlen₁

theorem Pool.step_call {i : Nat} {m : MemberDecl} (hm : I.members[i]? = some m) (hj : p.instances[j]? = some b)
    (hb : b.type = t) (hlen : b.slots.length = t.slots.length) (args : List Value) :
    ∃ b', (p.step h.watched reg (.invoke j m.name args)).2.instances[j]? = some b' ∧ b'.type = t ∧
      b'.slots.length = t.slots.length ∧
      SlotUse m.symbolName (fun reason => SessionFault.error (.symbolNotFound m.symbolName m.name reason))
        (b.slots[i]?.join) ((p.step h.watched reg (.invoke j m.name args)).2.world.2.drop p.world.2.length)
        (b'.slots[i]?.join) (p.step h.watched reg (.invoke j m.name args)).1 := by
  obtain ⟨sig, hsl⟩ := BindingType.generate_slot hgen hm
  obtain ⟨δ, c, h₁, h₂, hu⟩ := Binding.invoke_uses h hreg hgen hb hm hsl args ⟨p.world, {}, b.slots⟩
  have hi : i < b.slots.length := by rw [hlen]; exact (List.getElem?_eq_some_iff.1 hsl).1
  have hjl : j < p.instances.length := (List.getElem?_eq_some_iff.1 hj).1
  rw [Pool.step_invoke hj]
  refine ⟨_, List.getElem?_set_self hjl, hb, by simp only [h₂, List.length_set, hlen], ?_⟩
  simp only [h₁, List.drop_left, h₂, List.getElem?_set_self hi, Option.join_some]
  exact hu.mono SessionFault.error fun err hr => Pool.step_invoke_error hj hr

theorem Pool.after_slotUses {i : Nat} {m : MemberDecl} (hm : I.members[i]? = some m) (hj : p.instances[j]? = some b)
    (hb : b.type = t) (hlen : b.slots.length = t.slots.length) (rs : List Request) :
    ∃ b', (p.after h.watched reg rs).instances[j]? = some b' ∧
      SlotUses m.symbolName (fun reason => SessionFault.error (.symbolNotFound m.symbolName m.name reason))
        (b.slots[i]?.join) (p.callsOf h reg rs j m.name) (b'.slots[i]?.join) := by
  unfold Pool.callsOf
  induction rs generalizing p b with
  | nil => exact ⟨b, hj, .nil⟩
  | cons r rs ih =>
    simp only [Pool.after, Pool.logged, List.filterMap_cons]
    by_cases hcall : ∃ args, r = .invoke j m.name args
    · obtain ⟨args, rfl⟩ := hcall
      obtain ⟨b₁, hj₁, hb₁, hlen₁, hu⟩ := Pool.step_call h hreg hgen hm hj hb hlen args
      obtain ⟨b', hj', hus⟩ := ih hj₁ hb₁ hlen₁
      refine ⟨b', hj', ?_⟩
      simp only [Pool.callOf, and_self, ↓reduceIte]
      exact .cons hu hus
    · -- the request is not a call of the member on this instance
      have hnone : ∀ o (δ : List (Resolution ε)), Pool.callOf j m.name (r, o, δ) = none := by
        intro o δ
        cases r with
        | dispose k => rfl
        | invoke k name args =>
          simp only [Pool.callOf]
          split
          · rename_i hkn
            obtain ⟨rfl, rfl⟩ := hkn
            exact absurd ⟨args, rfl⟩ hcall
          · rfl
      obtain ⟨b₁, hj₁, hb₁, hlen₁, hcell⟩ := Pool.step_keeps h hreg hgen hj hb hlen r
      obtain ⟨b', hj', hus⟩ := ih hj₁ hb₁ hlen₁
      refine ⟨b', hj', ?_⟩
      rw [hnone, ← hcell i m hm (hnone _ _)]
      exact hus

end Run

section Transformers

open Call

variable (h : Host σ ε)

theorem Transformer.string_blind : (Transformer.string : Transformer (σ × List (Resolution ε)) ε).Blind h := by
  intro ctx v
  constructor
  · unfold Transformer.string
    dsimp only
    split
    · split
      · exact blind_throw_bind _ _
      · exact blind_bind (blind_allocate h ctx _) fun _ => blind_bind (blind_world fun _ => rfl) fun _ => blind_pure _
    · exact blind_throw _
  · unfold Transformer.string
    dsimp only
    split
    · split
      · exact blind_throw_bind _ _
      · refine blind_bind (blind_look _) fun _ => ?_
        -- a result the caller owns is released, then the text is decoded
        split
        · refine blind_bind (blind_scratch _) fun _ => ?_
          split
          · exact blind_pure _
          · exact blind_throw _
        · split
          · exact blind_pure _
          · exact blind_throw _
    · exact blind_throw _

theorem Registry.withDefaults_blind : (Registry.withDefaults : Registry (σ × List (Resolution ε)) ε).Blind h := by
  intro key tr hk
  unfold Registry.withDefaults Registry.get? at hk
  simp only [List.lookup_cons, List.lookup_nil] at hk
  split at hk
  · cases hk
    exact Transformer.string_blind h
  · cases hk

end Transformers

theorem Binding.isFullyResolved_iff {b : Binding ε} {I : InterfaceDecl} (hlen : b.slots.length = I.members.length) :
    b.isFullyResolved = true ↔ ∀ (i : Nat) (m : MemberDecl), I.members[i]? = some m → (b.slots[i]?.join).isSome := by
  unfold Binding.isFullyResolved
  rw [List.all_eq_true]
  constructor
  · intro hall i m hm
    have hi : i < b.slots.length := by rw [hlen]; exact (List.getElem?_eq_some_iff.1 hm).1
    rw [List.getElem?_eq_getElem hi]
    simpa using hall _ (List.getElem_mem hi)
  · intro hall x hx
    obtain ⟨i, hi, rfl⟩ := List.getElem_of_mem hx
    have hm : I.members[i]? = some I.members[i] := List.getElem?_eq_getElem (hlen ▸ hi)
    simpa [List.getElem?_eq_getElem hi] using hall i _ hm

theorem Call.exec_instantiate {σ : Type} (host : Host σ ε) (t : BindingType) (s : CallState σ ε) :
    exec (t.instantiate host) s =
      ((exec (SlotDef.activate host t.slots) s).1.map (fun cells => ⟨t, cells, false⟩),
        (exec (SlotDef.activate host t.slots) s).2) :=
  exec_bind_pure _ _ s

/-- How the instances of type `t` of interface `I` treat the symbols of their slots, with host
`h` and transformers `reg`, each slot lazy or not as `lazy` says. -/
structure BindingType.Resolves (h : Host σ ε) (reg : Registry (σ × List (Resolution ε)) ε) (I : InterfaceDecl)
    (lazy : Bool) (t : BindingType) : Prop where
  slot : ∀ (i : Nat) (m : MemberDecl), I.members[i]? = some m → ∃ sig, t.slots[i]? = some ⟨m.symbolName, m.name, sig, lazy⟩
  activate : ∀ s, ∃ δ, (Call.exec (t.instantiate h.watched) s).2.world.2 = s.world.2 ++ δ ∧
    Activates t.slots δ ((Call.exec (t.instantiate h.watched) s).1.map (·.slots)) ∧ (lazy = true → δ = [])
  run : ∀ s b, (Call.exec (t.instantiate h.watched) s).1 = .ok b →
    ∀ (p : Pool (σ × List (Resolution ε)) ε) j, p.instances[j]? = some b → ∀ rs,
      ∃ b', (p.after h.watched reg rs).instances[j]? = some b' ∧
        (∀ (i : Nat) (m : MemberDecl), I.members[i]? = some m →
          SlotUses m.symbolName (fun reason => SessionFault.error (.symbolNotFound m.symbolName m.name reason))
            (b.slots[i]?.join) (p.callsOf h reg rs j m.name) (b'.slots[i]?.join)) ∧
        (b'.isFullyResolved = true ↔ ∀ (i : Nat) (m : MemberDecl), I.members[i]? = some m →
          lazy = false ∨ ∃ e, .lookup m.symbolName (.ok e) ∈ (p.callsOf h reg rs j m.name).flatMap (·.1))

section Generated

variable {L : List Stage} {input : GenerationInput} {I : InterfaceDecl} {t : BindingType}

theorem BindingType.generate_lazy (hgen : generate L input I = .ok t) : ∀ sl ∈ t.slots, sl.lazy = input.config.lazyBinding := by
  intro sl hsl
  obtain ⟨i, hi, rfl⟩ := List.getElem_of_mem hsl
  have hi' : i < I.members.length := by rw [← (generate_spans hgen).1]; exact hi
  have hm : I.members[i]? = some I.members[i] := List.getElem?_eq_getElem hi'
  obtain ⟨sig, hslot⟩ := generate_slot hgen hm
  rw [List.getElem?_eq_getElem hi, Option.some.injEq] at hslot
  rw [hslot]

/-- Symbol resolution over the life of an instance of a generated type, for any resolver (an
arbitrary function of the process, which may answer differently each time) and any transformers
that ask nothing of the resolver or of native code. -/
theorem BindingType.generate_resolves (hgen : generate L input I = .ok t) {h : Host σ ε}
    {reg : Registry (σ × List (Resolution ε)) ε} (hreg : reg.Blind h) : t.Resolves h reg I input.config.lazyBinding where
  slot _ _ hm := generate_slot hgen hm
  activate s := by
    obtain ⟨δ, h₁, -, hact⟩ := Call.exec_activate h t.slots s
    rw [Call.exec_instantiate]
    refine ⟨δ, h₁, ?_, fun hlazy => (hact.of_lazy fun sl hsl => (generate_lazy hgen sl hsl).trans hlazy).1⟩
    cases hr : (Call.exec (SlotDef.activate h.watched t.slots) s).1 <;> rw [hr] at hact <;> exact hact
  run s b hb p j hj rs := by
    obtain ⟨δ, -, -, hact⟩ := Call.exec_activate h t.slots s
    rw [Call.exec_instantiate] at hb
    -- the activated instance holds an entry in exactly its eager slots
    obtain ⟨cells, hcells, rfl⟩ : ∃ cells, (Call.exec (SlotDef.activate h.watched t.slots) s).1 = .ok cells ∧
        b = ⟨t, cells, false⟩ := by
      cases hr : (Call.exec (SlotDef.activate h.watched t.slots) s).1 with
      | error e => rw [hr] at hb; cases hb
      | ok cells => rw [hr] at hb; cases hb; exact ⟨cells, rfl, rfl⟩
    rw [hcells] at hact
    obtain ⟨hlen, heager⟩ := hact.cells
    obtain ⟨b', hj', -, hlen'⟩ := Pool.after_keeps h hreg hgen hj rfl hlen rs
    have huses : ∀ (i : Nat) (m : MemberDecl), I.members[i]? = some m →
        SlotUses m.symbolName (fun reason => SessionFault.error (.symbolNotFound m.symbolName m.name reason))
          (cells[i]?.join) (p.callsOf h reg rs j m.name) (b'.slots[i]?.join) := by
      intro i m hm
      obtain ⟨b'', hj'', hus⟩ := Pool.after_slotUses h hreg hgen hm hj rfl hlen rs
      obtain rfl : b'' = b' := Option.some.inj (hj''.symm.trans hj')
      exact hus
    refine ⟨b', hj', huses, ?_⟩
    rw [Binding.isFullyResolved_iff (hlen'.trans (generate_spans hgen).1)]
    -- member by member: an entry at the end is one from activation or one found by a call
    refine forall_congr' fun i => forall_congr' fun m => imp_congr_right fun hm => ?_
    obtain ⟨sig, hsl⟩ := generate_slot hgen hm
    rw [(huses i m hm).life.isSome_iff, heager i _ hsl]

end Generated

theorem mixed_generate_resolves :
    let I : InterfaceDecl := ⟨"Mixed",
      [{ name := "greet", params := [⟨"who", .named "string", .nativeFrees⟩], ret := ⟨.nullable .i32, .callerFrees⟩ },
       { name := "add", params := [⟨"a", .native .i32, .nativeFrees⟩, ⟨"b", .native .i32, .nativeFrees⟩],
         ret := ⟨.native .i32, .nativeFrees⟩ }]⟩
    let L := [Stage.nullable, .disposalGuard, .lowered, .lowered, .nullable, .directCall]
    let input := ({} : Factory Native.State Native.NativeFunction).input {}
    ∃ t, BindingType.generate L input I = .ok t ∧
      (Registry.withDefaults : Registry (Native.State × List (Resolution Native.NativeFunction)) Native.NativeFunction).Blind
        Native.host ∧
      t.Resolves Native.host Registry.withDefaults I input.config.lazyBinding := by
  intro I L input
  obtain ⟨t, ht⟩ : ∃ t, BindingType.generate L input I = .ok t := ⟨_, rfl⟩
  exact ⟨t, ht, Registry.withDefaults_blind _, BindingType.generate_resolves ht (Registry.withDefaults_blind _)⟩

end NativeBridge
