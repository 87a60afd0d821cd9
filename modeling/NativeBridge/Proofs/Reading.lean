import NativeBridge.Proofs.JsonText

/-!
What the readers of expected shapes read from a text of a document.

`ReadsJson x j a` says that `x` reads every text of `j`, with blanks before it, as `a`. The readers
of strings, options, variants, arrays and records each get such a statement from the statements of
the readers they are built from (`ReadsJson.list`, `ReadsJson.record`), and a whole text with
blanks around it is then read by `Scan.run` (`Scan.run_of_layout`).

A reader that looks at a byte it does not take, such as the close of an array that ends the
loop over its elements, is described by `Scan.Sees`: it reads a piece after looking at the bytes
that follow it.
-/

namespace NativeBridge.Json

variable {α β γ : Type}

/-- Reader `x` reads every text of `j`, with blanks before it, as `a`. -/
def ReadsJson (x : Scan α) (j : Json) (a : α) : Prop := ∀ g p, Gap g → Text j p → Scan.Reads x (g ++ p) a

def Leads (j : Json) : Prop := ∃ b, (∀ p, Text j p → ∃ q, p = b :: q) ∧ isBlank b = false ∧ b ≠ 93

theorem leads_obj (fs : List (String × Json)) : Leads (.obj fs) :=
  ⟨123, fun _ hp => Text.obj_head hp, by decide, by decide⟩

namespace Record

variable {m : Type → Type} {σ : Type} {reads : ∀ {β : Type}, m β → Json → β → Prop} {r : Record m σ α}

/-- How the fields `fs` of an object are read as the record `a`, where `reads x j b` says that `x`
reads document `j` as `b`: each key names a field of `r`, whose reader puts the value into the state
as `set` does, and `set` gives `a` once every field is in. The keys are distinct, and setting them
in any order gives the same state. -/
structure Fills (reads : ∀ {β : Type}, m β → Json → β → Prop) (r : Record m σ α) (set : String → σ → σ)
    (fs : List (String × Json)) (a : α) : Prop where
  nodup : (fs.map Prod.fst).Nodup
  field : ∀ f ∈ fs, ∃ i, r.fields.idxOf? f.1 = some i ∧ r.given i r.start = false ∧
    (∀ k, k ≠ f.1 → ∀ s, r.given i (set k s) = r.given i s) ∧ ∀ s, reads (r.field i s) f.2 (set f.1 s)
  comm : ∀ k k' s, set k (set k' s) = set k' (set k s)
  finish : r.finish (fs.foldl (fun s f => set f.1 s) r.start) = .ok a

def Fresh (r : Record m σ α) (gs : List (String × Json)) (s : σ) : Prop :=
  ∀ f ∈ gs, ∀ i, r.fields.idxOf? f.1 = some i → r.given i s = false

namespace Fills

variable {set : String → σ → σ} {fs gs : List (String × Json)} {a : α}

theorem fresh_start (hr : r.Fills reads set fs a) (hgs : ∀ f ∈ gs, f ∈ fs) : r.Fresh gs r.start := by
  intro f hf i hi
  obtain ⟨i', hi', hstart, -⟩ := hr.field f (hgs f hf)
  rw [hi] at hi'
  cases hi'
  exact hstart

theorem fresh_cons (hr : r.Fills reads set fs a) {k : String} {v : Json} {s : σ} (hgs : ∀ f ∈ (k, v) :: gs, f ∈ fs)
    (hnodup : (((k, v) :: gs).map Prod.fst).Nodup) (h : r.Fresh ((k, v) :: gs) s) : r.Fresh gs (set k s) := by
  simp only [List.map_cons, List.nodup_cons] at hnodup
  intro f hf i hi
  obtain ⟨i', hi', -, hkeep, -⟩ := hr.field f (hgs f (List.mem_cons_of_mem _ hf))
  rw [hi] at hi'
  cases hi'
  have hne : f.1 ≠ k := fun heq => hnodup.1 (heq ▸ List.mem_map_of_mem hf)
  rw [hkeep k hne.symm s]
  exact h f (List.mem_cons_of_mem _ hf) i hi

end Fills

end Record

namespace Scan

/-- Reader `x` reads `piece` as `a` after looking at the bytes `ahead`, which it leaves. -/
def Sees (x : Scan α) (piece ahead : List UInt8) (a : α) : Prop :=
  ∀ pre post : List UInt8,
    exec x (pre ++ (piece ++ (ahead ++ post))).toByteArray pre.length = (.ok a, pre.length + piece.length)

theorem Reads.sees {x : Scan α} {p : List UInt8} {a : α} (h : Reads x p a) (q : List UInt8) : Sees x p q a :=
  fun pre post => h pre (q ++ post)

namespace Sees

variable {x : Scan α} {p q r g : List UInt8} {a : α} {b : UInt8}

theorem reads (h : Sees x p [] a) : Reads x p a := h

theorem bind {f : α → Scan β} {c : β} (hx : Sees x p (q ++ r) a) (hf : Sees (f a) q r c) :
    Sees (x >>= f) (p ++ q) r c := by
  intro pre post
  have hx' := hx pre post
  have hf' := hf (pre ++ p) post
  simp only [List.append_assoc, List.length_append] at hx' hf' ⊢
  rw [exec_bind_ok hx', hf', Nat.add_assoc]

theorem append (h : Sees x p q a) (r : List UInt8) : Sees x p (q ++ r) a := by
  intro pre post
  have h' := h pre (r ++ post)
  simp only [List.append_assoc] at h' ⊢
  exact h'

protected theorem pure (a : α) (q : List UInt8) : Sees (pure a) [] q a := fun pre _ => by
  simp only [List.nil_append, List.length_nil, Nat.add_zero]
  rfl

theorem enclosed {body : Scan α} {close : Scan Unit} (hb : Sees body p q a) (hc : Reads close q ()) :
    Reads (Scan.enclosed body close) (p ++ q) a := by
  intro pre post
  have hb' := hb pre post
  have hc' := hc (pre ++ p) post
  simp only [List.append_assoc, List.length_append] at hb' hc' ⊢
  rw [exec_enclosed hb' hc', Nat.add_assoc]

theorem peek_at {f : Option UInt8 → Scan α} (hg : Gap g) (hb : isBlank b = false)
    (h : Sees (f (some b)) (b :: q) r a) : Sees (peekToken >>= f) (g ++ b :: q) r a := by
  intro pre post
  have h' := h (pre ++ g) post
  simp only [List.append_assoc, List.cons_append, List.length_append, List.length_cons] at h' ⊢
  rw [exec_peek_bind hg hb, h', Nat.add_assoc]

theorem peek_ahead {f : Option UInt8 → Scan α} (hg : Gap g) (hb : isBlank b = false)
    (h : Sees (f (some b)) [] (b :: r) a) : Sees (peekToken >>= f) g (b :: r) a := by
  intro pre post
  have h' := h (pre ++ g) post
  simp only [List.append_assoc, List.cons_append, List.nil_append, List.length_append, List.length_nil,
    Nat.add_zero] at h' ⊢
  rw [exec_peek_bind hg hb, h']

end Sees

theorem Reads.text_bind {f : ByteArray → Scan α} {p : List UInt8} {a : α}
    (h : ∀ t : ByteArray, p.length ≤ t.size → Reads (f t) p a) : Reads (text >>= f) p a := by
  intro pre post
  rw [exec_text_bind]
  exact h _ (by simp only [List.size_toByteArray, List.length_append]; omega) pre post

section Tokens

variable {g g' : List UInt8} {b : UInt8}

theorem Reads.colon (hg : Gap g) : Reads colon (g ++ [58]) () := Reads.peek hg (by decide) (Reads.bump 58)

theorem Reads.closeObject (hg : Gap g) : Reads closeObject (g ++ [125]) () :=
  Reads.peek hg (by decide) (Reads.bump 125)

theorem Reads.closeArray (hg : Gap g) : Reads closeArray (g ++ [93]) () := Reads.peek hg (by decide) (Reads.bump 93)

theorem Sees.nextElement_close (hg : Gap g) (first : Bool) : Sees (nextElement first) g [93] false :=
  Sees.peek_ahead hg (by decide) (Sees.pure false _)

theorem Sees.nextElement_first (hg : Gap g) (hb : isBlank b = false) (h93 : b ≠ 93) :
    Sees (nextElement true) g [b] true := by
  refine Sees.peek_ahead hg hb ?_
  -- the byte is not looked at by value, so each arm of the match on it is taken apart
  split <;> rename_i heq
  · simp only [Option.some.injEq] at heq
    exact absurd heq h93
  · exact Sees.pure true _
  · simp only [Option.some.injEq] at heq
    subst heq
    simp only [if_pos]
    refine Sees.bind (p := []) (Sees.pure _ _) ?_
    split <;> rename_i heq'
    · simp only [Option.some.injEq] at heq'
      exact absurd heq' h93
    · exact Sees.pure true _
    · cases heq'
  · cases heq

theorem Sees.nextElement_comma (hg' : Gap g') (hg : Gap g) (hb : isBlank b = false) (h93 : b ≠ 93) :
    Sees (nextElement false) (g' ++ 44 :: g) [b] true := by
  refine Sees.peek_at hg' (by decide) ?_
  split <;> rename_i heq
  · simp at heq
  · simp only [Bool.false_eq_true, if_false]
    refine Sees.bind (p := [44]) ((Reads.bump 44).sees _) ?_
    refine Sees.peek_ahead hg hb ?_
    split <;> rename_i heq'
    · simp only [Option.some.injEq] at heq'
      exact absurd heq' h93
    · exact Sees.pure true _
    · cases heq'
  · rename_i _ h44
    simp only [Option.some.injEq] at heq
    exact absurd heq.symm h44
  · cases heq

theorem Sees.nextKey_close (hg : Gap g) (first : Bool) : Sees (nextKey first) g [125] none :=
  Sees.peek_ahead hg (by decide) (Sees.pure none _)

theorem Reads.nextKey_first (hg : Gap g) (k : String) :
    Reads (nextKey true) (g ++ bytesOf (quote k)) (some k) := by
  obtain ⟨q, hq⟩ : ∃ q, bytesOf (quote k) = 34 :: q := ⟨_, bytesOf_quote k⟩
  rw [hq]
  refine Sees.reads (Sees.peek_at hg (by decide) ?_)
  show Sees (pure (some 34) >>= _) _ _ _
  refine Sees.bind (p := []) (Sees.pure _ _) ?_
  rw [← hq]
  exact (Reads.map (Reads.quoted k) some).sees []

theorem Reads.nextKey_comma (hg' : Gap g') (hg : Gap g) (k : String) :
    Reads (nextKey false) (g' ++ 44 :: (g ++ bytesOf (quote k))) (some k) := by
  obtain ⟨q, hq⟩ : ∃ q, bytesOf (quote k) = 34 :: q := ⟨_, bytesOf_quote k⟩
  refine Sees.reads (Sees.peek_at hg' (by decide) ?_)
  show Sees (Scan.bump >>= fun _ => peekToken >>= _) _ _ _
  refine Sees.bind (p := [44]) ((Reads.bump 44).sees _) ?_
  rw [hq]
  refine Sees.peek_at hg (by decide) ?_
  rw [← hq]
  exact (Reads.map (Reads.quoted k) some).sees []

theorem Reads.stringWith (hg : Gap g) {visit : String → Except Fault α} {s : String} {a : α}
    (hv : visit s = .ok a) (e : String) : Reads (stringWith e visit) (g ++ bytesOf (quote s)) a := by
  obtain ⟨q, hq⟩ : ∃ q, bytesOf (quote s) = 34 :: q := ⟨_, bytesOf_quote s⟩
  refine Reads.fix ?_
  rw [hq]
  refine Reads.peek hg (by decide) ?_
  rw [← hq, ← List.append_nil (bytesOf (quote s))]
  refine Reads.bind (Reads.quoted s) ?_
  rw [hv]
  exact Reads.pure a

theorem Reads.option_some {inner : Scan α} {q : List UInt8} {a : α} (hg : Gap g) (hb : isBlank b = false)
    (hn : b ≠ 110) (h : Reads inner (b :: q) a) : Reads (option inner) (g ++ b :: q) (some a) := by
  refine Reads.peek hg hb ?_
  split <;> rename_i heq
  · simp only [Option.some.injEq] at heq
    exact absurd heq hn
  · exact Reads.map h some

theorem exec_finishText (hg : Gap g) (pre : List UInt8) :
    exec finishText (pre ++ g).toByteArray pre.length = (.ok (), pre.length + g.length) := by
  unfold finishText
  rw [exec_bind_ok (exec_peekToken_end hg)]
  rfl

section Enum

variable {variant : String → Except Fault β} {bare withData : β → Scan α} {s : String} {tag : β} {a : α}

theorem Reads.enum_bare (hg : Gap g) (hv : variant s = .ok tag) (hbare : Reads (bare tag) [] a) :
    Reads (enum variant bare withData) (g ++ bytesOf (quote s)) a := by
  obtain ⟨q, hq⟩ : ∃ q, bytesOf (quote s) = 34 :: q := ⟨_, bytesOf_quote s⟩
  rw [hq]
  refine Reads.peek hg (by decide) ?_
  rw [← hq, ← List.append_nil (bytesOf (quote s)), ← List.nil_append (bytesOf (quote s))]
  exact Reads.bind (Reads.stringWith Gap.nil hv _) hbare

theorem Reads.enum_obj {g₁ g₂ g₄ d : List UInt8} (hg : Gap g) (hg₁ : Gap g₁) (hg₂ : Gap g₂)
    (hv : variant s = .ok tag) (hd : Reads (withData tag) d a) (hg₄ : Gap g₄) :
    Reads (enum variant bare withData)
      (g ++ 123 :: (g₁ ++ (bytesOf (quote s) ++ (g₂ ++ 58 :: (d ++ (g₄ ++ [125])))))) a := by
  refine Reads.peek hg (by decide) ?_
  have hpiece : 123 :: (g₁ ++ (bytesOf (quote s) ++ (g₂ ++ 58 :: (d ++ (g₄ ++ [125]))))) =
      [123] ++ ((g₁ ++ bytesOf (quote s)) ++ ((g₂ ++ [58]) ++ (d ++ (g₄ ++ [125])))) := by
    simp only [List.append_assoc, List.cons_append, List.nil_append]
  rw [hpiece]
  refine Reads.seq (Reads.bump 123) (Reads.bind (Reads.stringWith hg₁ hv _) (Reads.seq (Reads.colon hg₂)
    (Reads.bind hd ?_)))
  refine Reads.peek hg₄ (by decide) ?_
  rw [← List.append_nil [125]]
  exact Reads.seq (Reads.bump 125) (Reads.pure a)

end Enum

end Tokens

section Elements

variable {elem : Scan α} {enc : α → Json}

theorem Sees.elements_item {first : Bool} {L q T : List UInt8} {b : UInt8} {a : α} {acc res : List α} {f : Nat}
    (hnext : Sees (nextElement first) L [b] true) (helem : Sees elem (b :: q) (T ++ [93]) a)
    (hrest : Sees (elements elem f false (a :: acc)) T [93] res) :
    Sees (elements elem (f + 1) first acc) (L ++ (b :: q ++ T)) [93] res := by
  have hnext' : Sees (nextElement first) L ((b :: q ++ T) ++ [93]) true := by
    have := hnext.append (q ++ T ++ [93])
    simpa only [List.cons_append, List.nil_append, List.append_assoc] using this
  rw [elements]
  exact Sees.bind hnext' (Sees.bind helem hrest)

theorem Sees.elements_tail (items : List α) (h : ∀ a ∈ items, ReadsJson elem (enc a) a)
    (hlead : ∀ a ∈ items, Leads (enc a)) :
    ∀ t, ItemTail (items.map enc) t → ∀ f, items.length ≤ f → ∀ acc,
      Sees (elements elem (f + 1) false acc) t [93] (acc.reverse ++ items) := by
  induction items with
  | nil =>
    intro t ht f _ acc
    cases ht with
    | last hg =>
      rw [elements, List.append_nil, ← List.append_nil t]
      exact Sees.bind (Sees.nextElement_close hg false) (Sees.pure _ _)
  | cons a items ih =>
    intro t ht f hf acc
    obtain ⟨f, rfl⟩ : ∃ f', f = f' + 1 := ⟨f - 1, by simp at hf; omega⟩
    cases ht with
    | @more _ _ g' g p t' hg' hg hx ht' =>
      obtain ⟨b, hb, hblank, h93⟩ := hlead a List.mem_cons_self
      obtain ⟨q, rfl⟩ := hb _ hx
      have hrest := ih (fun a' ha' => h a' (List.mem_cons_of_mem _ ha'))
        (fun a' ha' => hlead a' (List.mem_cons_of_mem _ ha')) _ ht' f (by simp at hf; omega) (a :: acc)
      have helem := (h a List.mem_cons_self [] _ Gap.nil hx).sees (t' ++ [93])
      have hval : acc.reverse ++ a :: items = (a :: acc).reverse ++ items := by simp
      rw [hval, show g' ++ 44 :: (g ++ (b :: q ++ t')) = (g' ++ 44 :: g) ++ (b :: q ++ t') by simp]
      exact Sees.elements_item (Sees.nextElement_comma hg' hg hblank h93) helem hrest

theorem Sees.elements_first (items : List α) (h : ∀ a ∈ items, ReadsJson elem (enc a) a)
    (hlead : ∀ a ∈ items, Leads (enc a)) {rest : List UInt8} (hp : Text (.arr (items.map enc)) (91 :: rest)) :
    ∃ body, rest = body ++ [93] ∧
      ∀ f, items.length ≤ f → Sees (elements elem (f + 1) true []) body [93] items := by
  cases items with
  | nil =>
    obtain ⟨g, hg, rfl⟩ := Text.arr_nil_inv hp
    refine ⟨g, rfl, fun f _ => ?_⟩
    rw [elements, ← List.append_nil g]
    exact Sees.bind (Sees.nextElement_close hg true) (Sees.pure _ _)
  | cons a items =>
    obtain ⟨g, p, t, hg, hx, ht, rfl⟩ := Text.arr_cons_inv hp
    obtain ⟨b, hb, hblank, h93⟩ := hlead a List.mem_cons_self
    obtain ⟨q, rfl⟩ := hb _ hx
    refine ⟨g ++ (b :: q ++ t), by simp, fun f hf => ?_⟩
    obtain ⟨f, rfl⟩ : ∃ f', f = f' + 1 := ⟨f - 1, by simp at hf; omega⟩
    have hrest := Sees.elements_tail items (fun a' ha' => h a' (List.mem_cons_of_mem _ ha'))
      (fun a' ha' => hlead a' (List.mem_cons_of_mem _ ha')) t ht f (by simp at hf; omega) [a]
    have helem := (h a List.mem_cons_self [] _ Gap.nil hx).sees (t ++ [93])
    exact Sees.elements_item (Sees.nextElement_first hg hblank h93) helem hrest

end Elements

section Record

variable {σ : Type} {r : Record Scan σ α}


theorem Sees.recordFields_field {set : String → σ → σ} {fs : List (String × Json)} {a : α}
    (hr : r.Fills ReadsJson set fs a) {first : Bool} {K T g₂ g₃ p : List UInt8} {k : String} {v : Json} {f : Nat}
    {s res : σ} (hkv : (k, v) ∈ fs) (hfresh : r.Fresh [(k, v)] s) (hkey : Reads (nextKey first) K (some k))
    (hg₂ : Gap g₂) (hg₃ : Gap g₃) (hv : Text v p) (hnext : Sees (recordFields r f false (set k s)) T [125] res) :
    Sees (recordFields r (f + 1) first s) (K ++ (g₂ ++ 58 :: (g₃ ++ (p ++ T)))) [125] res := by
  obtain ⟨i, hi, -, -, hread⟩ := hr.field (k, v) hkv
  rw [recordFields]
  refine Sees.bind (hkey.sees _) ?_
  dsimp only
  rw [hi]
  dsimp only
  rw [hfresh _ List.mem_cons_self i hi]
  simp only [Bool.false_eq_true, if_false]
  rw [show g₂ ++ 58 :: (g₃ ++ (p ++ T)) = (g₂ ++ [58]) ++ ((g₃ ++ p) ++ T) by simp]
  exact Sees.bind ((Reads.colon hg₂).sees _) (Sees.bind ((hread s g₃ p hg₃ hv).sees _) hnext)

theorem Sees.recordFields_tail {set : String → σ → σ} {fs : List (String × Json)} {a : α} (hr : r.Fills ReadsJson set fs a)
    {gs : List (String × Json)} {t : List UInt8} (ht : FieldTail gs t) (hgs : ∀ f ∈ gs, f ∈ fs)
    (hnodup : (gs.map Prod.fst).Nodup) :
    ∀ s, r.Fresh gs s → ∀ f, gs.length ≤ f →
      Sees (recordFields r (f + 1) false s) t [125] (gs.foldl (fun s f => set f.1 s) s) := by
  induction ht with
  | @last g hg =>
    intro s _ f _
    rw [recordFields, ← List.append_nil g]
    exact Sees.bind (Sees.nextKey_close hg false) (Sees.pure _ _)
  | @more k v gs g₄ g₁ g₂ g₃ p t hg₄ hg₁ hg₂ hg₃ hv _ ih =>
    intro s hfresh f hf
    obtain ⟨f, rfl⟩ : ∃ f', f = f' + 1 := ⟨f - 1, by simp at hf; omega⟩
    have hrest := ih (fun f hf => hgs f (List.mem_cons_of_mem _ hf)) (List.nodup_cons.1 hnodup).2 (set k s)
      (hr.fresh_cons hgs hnodup hfresh) f (by simp at hf; omega)
    rw [show g₄ ++ 44 :: (g₁ ++ (bytesOf (quote k) ++ (g₂ ++ 58 :: (g₃ ++ (p ++ t))))) =
      (g₄ ++ 44 :: (g₁ ++ bytesOf (quote k))) ++ (g₂ ++ 58 :: (g₃ ++ (p ++ t))) by simp]
    exact Sees.recordFields_field hr (hgs _ List.mem_cons_self) (fun f hf => hfresh f (by simp_all))
      (Reads.nextKey_comma hg₄ hg₁ k) hg₂ hg₃ hv hrest

theorem Sees.recordFields_body {set : String → σ → σ} {fs : List (String × Json)} {a : α} (hr : r.Fills ReadsJson set fs a)
    {gs : List (String × Json)} {rest : List UInt8} (hb : ObjectBody gs rest) (hgs : ∀ f ∈ gs, f ∈ fs)
    (hnodup : (gs.map Prod.fst).Nodup) :
    ∃ body, rest = body ++ [125] ∧ ∀ f, gs.length ≤ f →
      Sees (recordFields r (f + 1) true r.start) body [125] (gs.foldl (fun s f => set f.1 s) r.start) := by
  cases hb with
  | @nil g hg =>
    refine ⟨g, rfl, fun f _ => ?_⟩
    rw [recordFields, ← List.append_nil g]
    exact Sees.bind (Sees.nextKey_close hg true) (Sees.pure _ _)
  | @cons k v gs g₁ g₂ g₃ p t hg₁ hg₂ hg₃ hv ht =>
    refine ⟨g₁ ++ (bytesOf (quote k) ++ (g₂ ++ 58 :: (g₃ ++ (p ++ t)))), by simp, fun f hf => ?_⟩
    obtain ⟨f, rfl⟩ : ∃ f', f = f' + 1 := ⟨f - 1, by simp at hf; omega⟩
    have hfresh := hr.fresh_start hgs
    have hrest := Sees.recordFields_tail hr ht (fun f hf => hgs f (List.mem_cons_of_mem _ hf))
      (List.nodup_cons.1 hnodup).2 (set k r.start) (hr.fresh_cons hgs hnodup hfresh) f (by simp at hf; omega)
    rw [← List.append_assoc]
    exact Sees.recordFields_field hr (hgs _ List.mem_cons_self) (fun f hf => hfresh f (by simp_all))
      (Reads.nextKey_first hg₁ k) hg₂ hg₃ hv hrest

end Record

end Scan

namespace ReadsJson

variable {x : Scan α} {j : Json} {a : α}

theorem stringWith {visit : String → Except Fault α} {s : String} (hv : visit s = .ok a) (e : String) :
    ReadsJson (Scan.stringWith e visit) (.str s) a := by
  intro g p hg hp
  rw [hp.str_inv]
  exact Scan.Reads.stringWith hg hv e

theorem string (s : String) : ReadsJson Scan.string (.str s) s := stringWith rfl _

theorem map (h : ReadsJson x j a) (f : α → β) : ReadsJson (f <$> x) j (f a) := fun g p hg hp =>
  (h g p hg hp).map f

theorem bind_pure (h : ReadsJson x j a) (f : α → β) : ReadsJson (x >>= fun a => pure (f a)) j (f a) := by
  intro g p hg hp
  rw [← List.append_nil (g ++ p)]
  exact Scan.Reads.bind (h g p hg hp) (Scan.Reads.pure (f a))

theorem option_some {b : UInt8} (h : ReadsJson x j a) (hopen : ∀ p, Text j p → ∃ q, p = b :: q)
    (hb : isBlank b = false) (hn : b ≠ 110) : ReadsJson (Scan.option x) j (some a) := by
  intro g p hg hp
  obtain ⟨q, rfl⟩ := hopen p hp
  exact Scan.Reads.option_some hg hb hn (h [] _ Gap.nil hp)

section Enum

variable {variant : String → Except Fault γ} {bare withData : γ → Scan α} {s : String} {tag : γ}

theorem enum_bare (hv : variant s = .ok tag) (hbare : Scan.Reads (bare tag) [] a) :
    ReadsJson (Scan.enum variant bare withData) (.str s) a := by
  intro g p hg hp
  rw [hp.str_inv]
  exact Scan.Reads.enum_bare hg hv hbare

theorem enum_obj {v : Json} (hv : variant s = .ok tag) (hd : ReadsJson (withData tag) v a) :
    ReadsJson (Scan.enum variant bare withData) (.obj [(s, v)]) a := by
  intro g p hg hp
  obtain ⟨rest, rfl⟩ := Text.obj_head hp
  obtain ⟨gs, hperm, hb⟩ := Text.obj_inv hp
  rw [List.singleton_perm] at hperm
  subst hperm
  cases hb with
  | cons hg₁ hg₂ hg₃ hp' ht =>
    cases ht with
    | last hg₄ =>
      have h : Scan.Reads (Scan.enum variant bare withData) _ a := Scan.Reads.enum_obj hg hg₁ hg₂ hv (hd _ _ hg₃ hp') hg₄
      simpa only [List.append_assoc] using h

end Enum

section Elements

variable {elem : Scan α} {enc : α → Json}

theorem list (items : List α) (h : ∀ a ∈ items, ReadsJson elem (enc a) a) (hlead : ∀ a ∈ items, Leads (enc a)) :
    ReadsJson (Scan.list elem) (.arr (items.map enc)) items := by
  intro g p hg hp
  obtain ⟨rest, rfl⟩ := Text.arr_head hp
  have hlen := Text.length_arr hp
  obtain ⟨body, rfl, hbody⟩ := Scan.Sees.elements_first items h hlead hp
  refine Scan.Reads.fix (Scan.Reads.peek hg (by decide) ?_)
  rw [← List.singleton_append]
  refine Scan.Reads.seq (Scan.Reads.bump 91) ?_
  refine Scan.Reads.text_bind fun t ht => ?_
  have hfuel : items.length ≤ t.size := by
    simp only [List.length_map, List.length_cons, List.length_append, List.length_nil] at hlen ht
    omega
  -- stated before it is used: elaborated against the goal, the unifier unfolds the reader instead
  have henc := Scan.Sees.enclosed (hbody _ hfuel) (Scan.Reads.closeArray Gap.nil)
  exact henc

end Elements

section Record

variable {σ : Type} {r : Record Scan σ α}

theorem record {set : String → σ → σ} {fs : List (String × Json)} (hr : r.Fills ReadsJson set fs a) :
    ReadsJson (Scan.record r) (.obj fs) a := by
  intro g p hg hp
  obtain ⟨rest, rfl⟩ := Text.obj_head hp
  have hlen := Text.length_obj hp
  obtain ⟨gs, hperm, hb⟩ := Text.obj_inv hp
  have hgs : ∀ f ∈ gs, f ∈ fs := fun f hf => hperm.mem_iff.2 hf
  have hnodup : (gs.map Prod.fst).Nodup := (hperm.map Prod.fst).nodup_iff.1 hr.nodup
  -- the fields are set in the order written, which gives the state of the declared order
  have hfold : gs.foldl (fun s f => set f.1 s) r.start = fs.foldl (fun s f => set f.1 s) r.start :=
    hperm.symm.foldl_eq' (fun x _ y _ z => hr.comm y.1 x.1 z) r.start
  obtain ⟨body, rfl, hbody⟩ := Scan.Sees.recordFields_body hr hb hgs hnodup
  refine Scan.Reads.fix (Scan.Reads.text_bind fun t ht => Scan.Reads.peek hg (by decide) ?_)
  have hfuel : gs.length ≤ t.size := by
    rw [← hperm.length_eq]
    simp only [List.length_append, List.length_cons] at hlen ht
    omega
  have hfin : Scan.Sees (Scan.ofExcept (r.finish (gs.foldl (fun s f => set f.1 s) r.start))) [] [125] a := by
    rw [hfold, hr.finish]
    exact Scan.Sees.pure a _
  have henc := Scan.Sees.enclosed (Scan.Sees.bind (f := fun s => Scan.ofExcept (r.finish s)) (hbody _ hfuel) hfin)
    (Scan.Reads.closeObject Gap.nil)
  rw [← List.singleton_append, show body ++ [125] = (body ++ []) ++ [125] by simp]
  -- only the object form is met: the text opens with a brace
  split <;> rename_i heq
  · exact Scan.Reads.seq (Scan.Reads.bump 123) henc
  · simp at heq
  · rename_i h123 _
    simp only [Option.some.injEq] at heq
    exact absurd heq.symm h123
  · cases heq

end Record

end ReadsJson

theorem Scan.exec_seqLeft_ok {x : Scan α} {y : Scan β} {t : ByteArray} {i j k : Nat} {a : α} {b : β}
    (hx : exec x t i = (.ok a, j)) (hy : exec y t j = (.ok b, k)) : exec (x <* y) t i = (.ok a, k) := by
  rw [seqLeft_eq_bind, exec_bind_ok hx, exec_bind_ok hy]
  rfl

theorem Scan.run_of_layout {x : Scan α} {j : Json} {a : α} {s : String} (h : ReadsJson x j a)
    (hl : Layout j s) : Scan.run x s = .ok a := by
  obtain ⟨g₁, p, g₂, hg₁, hp, hg₂, hs⟩ := hl
  have hx := h g₁ p hg₁ hp [] g₂
  have hfin := exec_finishText hg₂ (g₁ ++ p)
  simp only [List.nil_append, List.length_nil, Nat.zero_add] at hx
  show (exec (x <* finishText) s.toUTF8 0).1 = _
  rw [toUTF8_eq_toByteArray, hs, ← List.append_assoc, Scan.exec_seqLeft_ok hx hfin]

end NativeBridge.Json
