import NativeBridge.Binding

/-!
What a call can fail with.

`Call.Spec ok err x` says that from every state `x` returns a value that satisfies `ok` or fails
with an error that satisfies `err`. Every primitive of a call meets it, and it is closed under
binds and activations, so the lemma for a step of a call is assembled from the lemmas of the
steps it runs, never by running it.

With `err` saying that the error does not report a disposed binding, this gives `Undisposed`:
the argument checks, slot lookups, marshalling and lowering steps never report disposal, given
transformers that do not either; the built-in `string` transformer is one.
-/

namespace NativeBridge

variable {σ ε α β : Type}

/-- From every state, `x` returns a value that satisfies `ok` or fails with an error that
satisfies `err`. -/
def Call.Spec (ok : α → Prop) (err : Error → Prop) (x : Call σ ε α) : Prop :=
  ∀ s, match ((ExceptT.run x).run s).1 with
    | .ok a => ok a
    | .error e => err e

namespace Call

variable {ok : α → Prop} {err : Error → Prop}

theorem spec_pure {a : α} (h : ok a) : Spec ok err (pure a : Call σ ε α) := fun _ => h

theorem spec_throw {e : Error} (h : err e) : Spec ok err (throw e : Call σ ε α) := fun _ => h

theorem spec_throw_bind {e : Error} (h : err e) (f : β → Call σ ε α) : Spec ok err (throw e >>= f) := fun _ => h

theorem spec_bind {P : β → Prop} {x : Call σ ε β} {f : β → Call σ ε α} (hx : Spec P err x)
    (hf : ∀ b, P b → Spec ok err (f b)) : Spec ok err (x >>= f) := by
  intro s
  have h := hx s
  simp only [ExceptT.run_bind, StateT.run_bind]
  cases hr : (ExceptT.run x).run s with
  | mk r s' =>
    rw [hr] at h
    cases r with
    | ok b => exact hf b h s'
    | error e => exact h

theorem spec_of_ok {x : Call σ ε α} (h : ∀ s, ∃ a, ((ExceptT.run x).run s).1 = .ok a ∧ ok a) : Spec ok err x := by
  intro s
  obtain ⟨a, hs, ha⟩ := h s
  simp only [hs]
  exact ha

theorem spec_get : Spec (fun _ => True) err (get : Call σ ε (CallState σ ε)) :=
  spec_of_ok fun _ => ⟨_, rfl, trivial⟩

theorem spec_modify (f : CallState σ ε → CallState σ ε) : Spec (fun _ => True) err (modify f : Call σ ε Unit) :=
  spec_of_ok fun _ => ⟨_, rfl, trivial⟩

theorem spec_world (f : σ → σ) : Spec (fun _ => True) err (Call.world f : Call σ ε Unit) :=
  spec_of_ok fun _ => ⟨_, rfl, trivial⟩

theorem spec_ask {γ : Type} (f : σ → γ × σ) : Spec (fun _ => True) err (Call.ask f : Call σ ε γ) :=
  spec_of_ok fun _ => ⟨_, rfl, trivial⟩

theorem spec_look {γ : Type} (f : σ → γ) : Spec (fun _ => True) err (Call.look f : Call σ ε γ) :=
  spec_of_ok fun _ => ⟨_, rfl, trivial⟩

theorem spec_scratch (f : Scratch → Scratch) : Spec (fun _ => True) err (Call.scratch f : Call σ ε Unit) :=
  spec_of_ok fun _ => ⟨_, rfl, trivial⟩

theorem spec_releaseAll (host : Host σ ε) (ps : List UInt64) :
    Spec (fun _ => True) err (Call.releaseAll host ps) := by
  induction ps with
  | nil => exact spec_pure trivial
  | cons p ps ih => exact spec_bind (spec_world _) fun _ _ => ih

theorem spec_capture {body : Call σ ε α} (h : Spec ok err body) (err' : Error → Prop) :
    Spec (fun r : Except Error α => match r with | .ok a => ok a | .error e => err e) err'
      (tryCatch (Except.ok <$> body) (fun e => pure (.error e))) := by
  intro s
  have := h s
  simp only [ExceptT.run_tryCatch, ExceptT.run_map, StateT.run_bind, StateT.run_map]
  cases hr : (ExceptT.run body).run s with
  | mk r s' =>
    rw [hr] at this
    cases r <;> exact this

theorem spec_activation {body : Call σ ε α} (h : Spec ok err body) (host : Host σ ε) :
    Spec ok err (Call.activation host body) := by
  unfold Call.activation
  refine spec_bind spec_get fun _ _ => spec_bind (spec_modify _) fun _ _ => spec_bind (spec_capture h err) fun r hr =>
    spec_bind spec_get fun _ _ => spec_bind (spec_releaseAll host _) fun _ _ => spec_bind (spec_modify _) fun _ _ => ?_
  cases r with
  | ok a => exact spec_pure hr
  | error e => exact spec_throw hr

end Call


theorem MemberDecl.checkArguments_error {d : MemberDecl} {args : List Value} {e : Error}
    (h : d.checkArguments args = .error e) : ∃ msg, e = .argumentMismatch d.name msg := by
  unfold MemberDecl.checkArguments at h
  split at h
  · exact ⟨_, (Except.error.inj h).symm⟩
  · generalize d.params.zip args = ps at h
    induction ps with
    | nil => cases h
    | cons p ps ih =>
      obtain ⟨q, v⟩ := p
      dsimp only at h ih
      rw [List.forIn_cons] at h
      cases hc : v.conformsTo q.ty
      · simp only [hc, Bool.not_false, ↓reduceIte] at h
        exact ⟨_, (Except.error.inj h).symm⟩
      · simp only [hc, Bool.not_true, Bool.false_eq_true, ↓reduceIte] at h
        exact ih h

theorem NativeSignature.check_error {s : NativeSignature} {member : String} {args : List Value} {e : Error}
    (h : s.check member args = .error e) : ∃ msg, e = .argumentMismatch member msg := by
  unfold NativeSignature.check at h
  split at h
  · exact ⟨_, (Except.error.inj h).symm⟩
  · split at h
    · exact ⟨_, (Except.error.inj h).symm⟩
    · cases h


def Error.isDisposedAccess : Error → Bool
  | .disposedAccess .. => true
  | _ => false

/-- A call that never fails reporting a disposed binding. -/
abbrev Call.Undisposed (x : Call σ ε α) : Prop :=
  Call.Spec (fun _ => True) (fun e => e.isDisposedAccess = false) x

def Transformer.Undisposed (tr : Transformer σ ε) : Prop :=
  ∀ host ctx v, (tr.lower host ctx v).Undisposed ∧ (tr.raise host ctx v).Undisposed

def Registry.Undisposed (reg : Registry σ ε) : Prop :=
  ∀ key tr, reg.get? key = some tr → tr.Undisposed

section

open Call

variable {host : Host σ ε}

theorem MarshalContext.allocate_undisposed (ctx : MarshalContext) (size : Nat) :
    (ctx.allocate host size).Undisposed := by
  unfold MarshalContext.allocate
  refine spec_bind (spec_ask _) fun p _ => ?_
  dsimp only
  split
  · exact spec_throw_bind (by rfl) _
  · split <;> exact spec_bind (spec_scratch _) fun _ _ => spec_pure trivial

theorem MemberDecl.checked_undisposed (d : MemberDecl) (args : List Value) {k : Call σ ε α}
    (hk : k.Undisposed) : (d.checked args k).Undisposed := by
  unfold MemberDecl.checked
  split
  · rename_i e he
    obtain ⟨msg, rfl⟩ := MemberDecl.checkArguments_error he
    exact spec_throw rfl
  · exact hk

theorem callEntry_undisposed (member : String) (e : ε) (sig : NativeSignature) (args : List Value) :
    (callEntry host member e sig args).Undisposed := by
  unfold callEntry
  split
  · rename_i err he
    obtain ⟨msg, rfl⟩ := NativeSignature.check_error he
    exact spec_throw rfl
  · exact spec_ask _

theorem SlotDef.resolve_undisposed (s : SlotDef) : (s.resolve host).Undisposed := by
  unfold SlotDef.resolve
  refine spec_bind (spec_ask _) fun r _ => ?_
  split
  · exact spec_pure trivial
  · exact spec_throw rfl

theorem SlotDef.entry_undisposed (i : Nat) (s : SlotDef) : (s.entry host i).Undisposed := by
  unfold SlotDef.entry
  refine spec_bind spec_get fun st _ => ?_
  split
  · exact spec_pure trivial
  · exact spec_bind s.resolve_undisposed fun _ _ => spec_bind (spec_modify _) fun _ _ => spec_pure trivial

theorem slotEntry_undisposed (t : BindingType) (slot : Nat) : (slotEntry host t slot).Undisposed := by
  unfold slotEntry
  split
  · exact SlotDef.entry_undisposed _ _
  · refine spec_bind spec_get fun st _ => ?_
    split
    · exact spec_pure trivial
    · exact spec_throw rfl

theorem callSlot_undisposed (t : BindingType) (member : String) (slot : Nat) (sig : NativeSignature)
    (args : List Value) : (callSlot host t member slot sig args).Undisposed :=
  spec_bind (slotEntry_undisposed t slot) fun e _ => callEntry_undisposed member e sig args

theorem marshalIn_undisposed (member name : String) (v : Value) (m : NullableMarshal) :
    (marshalIn host member name v m).Undisposed := by
  unfold marshalIn
  split
  · exact spec_pure trivial
  · rename_i inner
    refine spec_bind (spec_ask _) fun buf _ => ?_
    dsimp only
    split
    · exact spec_throw_bind (by rfl) _
    · -- the buffer is tracked or handed over, then written if the value fits its type
      split <;> refine spec_bind (spec_scratch _) fun _ _ => ?_ <;> split
      all_goals first
        | exact spec_bind (spec_world _) fun _ _ => spec_pure trivial
        | exact spec_throw rfl
  · exact spec_throw rfl

theorem marshalOut_undisposed (member : String) (v : Value) (m : NullableMarshal) :
    (marshalOut host member v m).Undisposed := by
  unfold marshalOut
  split
  · exact spec_throw rfl
  · split
    · exact spec_pure trivial
    · refine spec_bind (spec_look _) fun _ _ => ?_
      split
      · exact spec_bind (spec_world _) fun _ _ => spec_pure trivial
      · exact spec_pure trivial

theorem convertArguments_undisposed {γ : Type} {f : Nat → Value → γ → Call σ ε Value}
    (hf : ∀ i v c, (f i v c).Undisposed) (i : Nat) (vs : List Value) (cs : List (Option γ)) :
    (convertArguments f i vs cs).Undisposed := by
  induction vs generalizing i cs with
  | nil => exact spec_pure trivial
  | cons v vs ih =>
    cases cs with
    | nil => exact spec_pure trivial
    | cons c cs =>
      have hrest : ∀ w, (do let ws ← convertArguments f (i + 1) vs cs; pure (w :: ws)).Undisposed :=
        fun w => spec_bind (ih (i + 1) cs) fun _ _ => spec_pure trivial
      cases c with
      | some c =>
        rw [convertArguments.eq_1]
        exact spec_bind (hf i v c) fun w _ => hrest w
      | none =>
        rw [convertArguments.eq_2, pure_bind]
        exact hrest v

theorem Registry.lookup_undisposed {reg : Registry σ ε} (hreg : reg.Undisposed) {key : String} {e : Error}
    (he : e.isDisposedAccess = false) {k : Transformer σ ε → Call σ ε α}
    (hk : ∀ tr, tr.Undisposed → (k tr).Undisposed) :
    ((match reg.get? key with | some tr => pure tr | none => throw e) >>= k).Undisposed := by
  split
  · rename_i tr htr
    rw [pure_bind]
    exact hk tr (hreg key tr htr)
  · exact spec_throw_bind he k

theorem lowerThrough_undisposed {reg : Registry σ ε} (hreg : reg.Undisposed) (member : String)
    (decl : MemberDecl) (params : List (Option String)) (ret : Option String)
    {inner : List Value → Call σ ε Value} (hinner : ∀ args, (inner args).Undisposed) (args : List Value) :
    (lowerThrough host reg member decl params ret inner args).Undisposed := by
  unfold lowerThrough
  refine spec_activation ?_ host
  dsimp only
  refine spec_bind (convertArguments_undisposed (fun i v key => ?_) 0 args params) fun lowered _ =>
    spec_bind (hinner lowered) fun result _ => spec_bind (spec_scratch _) fun _ _ => ?_
  · exact reg.lookup_undisposed hreg rfl fun tr htr => (htr host _ v).1
  · split
    · exact reg.lookup_undisposed hreg rfl fun tr htr => (htr host _ result).2
    · exact spec_pure trivial

theorem marshalThrough_undisposed (member : String) (decl : MemberDecl) (params : List (Option NullableMarshal))
    (ret : Option NullableMarshal) {inner : List Value → Call σ ε Value}
    (hinner : ∀ args, (inner args).Undisposed) (args : List Value) :
    (marshalThrough host member decl params ret inner args).Undisposed := by
  unfold marshalThrough
  refine spec_activation ?_ host
  refine spec_bind (convertArguments_undisposed (fun i v mar => marshalIn_undisposed _ _ v mar) 0 args params)
    fun marshalled _ => spec_bind (hinner marshalled) fun result _ => spec_bind (spec_scratch _) fun _ _ => ?_
  split
  · exact marshalOut_undisposed _ _ _
  · exact spec_pure trivial

theorem Transformer.string_undisposed : (Transformer.string : Transformer σ ε).Undisposed := by
  intro host ctx v
  constructor
  · unfold Transformer.string
    dsimp only
    split
    · split
      · exact spec_throw_bind (by rfl) _
      · exact spec_bind (ctx.allocate_undisposed _) fun _ _ => spec_bind (spec_world _) fun _ _ => spec_pure trivial
    · exact spec_throw rfl
  · unfold Transformer.string
    dsimp only
    split
    · split
      · exact spec_throw_bind (by rfl) _
      · refine spec_bind (spec_look _) fun _ _ => ?_
        -- a result the caller owns is released, then the text is decoded
        split
        · refine spec_bind (spec_scratch _) fun _ _ => ?_
          split
          · exact spec_pure trivial
          · exact spec_throw rfl
        · split
          · exact spec_pure trivial
          · exact spec_throw rfl
    · exact spec_throw rfl

theorem Registry.withDefaults_undisposed : (Registry.withDefaults : Registry σ ε).Undisposed := by
  intro key tr h
  unfold Registry.withDefaults Registry.get? at h
  simp only [List.lookup_cons, List.lookup_nil] at h
  split at h
  · cases h
    exact Transformer.string_undisposed
  · cases h

end

end NativeBridge
