import NativeBridge.Json.Writer
import NativeBridge.Proofs.Quoting

/-!
The texts of a document.

`Text j p` says that the bytes `p` are a JSON text of the document `j`: its tokens in order, any
blanks between them, and the fields of each object in any order. Arrays and objects are built
element by element, so that the relation needs no nested induction: the rest of a bracket after
a comma is itself the text of a shorter array or object. A reader walks a bracket from the
front, so the lemmas here also take a text apart that way (`ItemTail`, `FieldTail`).

Both writers give such texts (`Json.text_pretty`), and `Json.Layout j s` names a whole string
that holds one, with blanks around it.
-/

namespace NativeBridge.Json

/-- The bytes `p` are a JSON text of `j`, with any blanks between tokens and the fields of each
object in any order. -/
inductive Text : Json → List UInt8 → Prop
  | null : Text .null (bytesOf "null")
  | bool (b : Bool) : Text (.bool b) (bytesOf (toString b))
  | num (n : Number) : Text (.num n) (bytesOf n.render)
  | str (s : String) : Text (.str s) (bytesOf (quote s))
  | arrNil {g : List UInt8} : Gap g → Text (.arr []) (91 :: (g ++ [93]))
  | arrOne {x : Json} {g p g' : List UInt8} : Gap g → Text x p → Gap g' →
      Text (.arr [x]) (91 :: (g ++ (p ++ (g' ++ [93]))))
  | arrCons {x : Json} {xs : List Json} {g p g' rest : List UInt8} : Gap g → Text x p → Gap g' →
      Text (.arr xs) (91 :: rest) → xs ≠ [] → Text (.arr (x :: xs)) (91 :: (g ++ (p ++ (g' ++ 44 :: rest))))
  | objNil {g : List UInt8} : Gap g → Text (.obj []) (123 :: (g ++ [125]))
  | objOne {k : String} {v : Json} {g₁ g₂ g₃ p g₄ : List UInt8} : Gap g₁ → Gap g₂ → Gap g₃ → Text v p →
      Gap g₄ → Text (.obj [(k, v)]) (123 :: (g₁ ++ (bytesOf (quote k) ++ (g₂ ++ 58 :: (g₃ ++ (p ++ (g₄ ++ [125])))))))
  | objCons {k : String} {v : Json} {fs : List (String × Json)} {g₁ g₂ g₃ p g₄ rest : List UInt8} : Gap g₁ →
      Gap g₂ → Gap g₃ → Text v p → Gap g₄ → Text (.obj fs) (123 :: rest) → fs ≠ [] →
      Text (.obj ((k, v) :: fs)) (123 :: (g₁ ++ (bytesOf (quote k) ++ (g₂ ++ 58 :: (g₃ ++ (p ++ (g₄ ++ 44 :: rest)))))))
  | perm {fs gs : List (String × Json)} {p : List UInt8} : fs.Perm gs → Text (.obj gs) p → Text (.obj fs) p

inductive ItemTail : List Json → List UInt8 → Prop
  | last {g : List UInt8} : Gap g → ItemTail [] g
  | more {x : Json} {xs : List Json} {g' g p t : List UInt8} : Gap g' → Gap g → Text x p → ItemTail xs t →
      ItemTail (x :: xs) (g' ++ 44 :: (g ++ (p ++ t)))

inductive FieldTail : List (String × Json) → List UInt8 → Prop
  | last {g : List UInt8} : Gap g → FieldTail [] g
  | more {k : String} {v : Json} {fs : List (String × Json)} {g₄ g₁ g₂ g₃ p t : List UInt8} : Gap g₄ → Gap g₁ →
      Gap g₂ → Gap g₃ → Text v p → FieldTail fs t →
      FieldTail ((k, v) :: fs) (g₄ ++ 44 :: (g₁ ++ (bytesOf (quote k) ++ (g₂ ++ 58 :: (g₃ ++ (p ++ t))))))

inductive ObjectBody : List (String × Json) → List UInt8 → Prop
  | nil {g : List UInt8} : Gap g → ObjectBody [] (g ++ [125])
  | cons {k : String} {v : Json} {fs : List (String × Json)} {g₁ g₂ g₃ p t : List UInt8} : Gap g₁ → Gap g₂ →
      Gap g₃ → Text v p → FieldTail fs t →
      ObjectBody ((k, v) :: fs) (g₁ ++ (bytesOf (quote k) ++ (g₂ ++ 58 :: (g₃ ++ (p ++ (t ++ [125]))))))

namespace Text

variable {p : List UInt8}

theorem str_inv {s : String} (h : Text (.str s) p) : p = bytesOf (quote s) := by
  cases h
  rfl

theorem str_head {s : String} (h : Text (.str s) p) : ∃ q, p = 34 :: q :=
  ⟨_, by rw [h.str_inv, bytesOf_quote]; rfl⟩

theorem obj_head {fs : List (String × Json)} (h : Text (.obj fs) p) : ∃ rest, p = 123 :: rest := by
  generalize hj : Json.obj fs = j at h
  induction h generalizing fs with
  | objNil | objOne | objCons => exact ⟨_, rfl⟩
  | perm _ _ ih => exact ih rfl
  | _ => cases hj

theorem arr_head {xs : List Json} (h : Text (.arr xs) p) : ∃ rest, p = 91 :: rest := by
  cases h <;> exact ⟨_, rfl⟩

theorem length_obj {fs : List (String × Json)} (h : Text (.obj fs) p) : fs.length < p.length := by
  generalize hj : Json.obj fs = j at h
  induction h generalizing fs with
  | objNil => cases hj; simp
  | objOne =>
    cases hj
    simp only [List.length_cons, List.length_append]
    omega
  | objCons _ _ _ _ _ _ _ _ ih =>
    cases hj
    have := ih rfl
    simp only [List.length_cons, List.length_append] at this ⊢
    omega
  | perm hp _ ih =>
    cases hj
    rw [hp.length_eq]
    exact ih rfl
  | _ => cases hj

theorem length_arr {xs : List Json} (h : Text (.arr xs) p) : xs.length < p.length := by
  generalize hj : Json.arr xs = j at h
  induction h generalizing xs with
  | arrNil => cases hj; simp
  | arrOne =>
    cases hj
    simp only [List.length_cons, List.length_append]
    omega
  | arrCons _ _ _ _ _ _ ih =>
    cases hj
    have := ih rfl
    simp only [List.length_cons, List.length_append] at this ⊢
    omega
  | _ => cases hj

theorem arr_cons_inv {x : Json} {xs : List Json} {rest : List UInt8} (h : Text (.arr (x :: xs)) (91 :: rest)) :
    ∃ g p t, Gap g ∧ Text x p ∧ ItemTail xs t ∧ rest = g ++ (p ++ (t ++ [93])) := by
  induction xs generalizing x rest with
  | nil =>
    cases h with
    | arrOne hg hx hg' => exact ⟨_, _, _, hg, hx, .last hg', rfl⟩
    | arrCons _ _ _ _ hne => exact absurd rfl hne
  | cons y ys ih =>
    cases h with
    | arrCons hg hx hg' hrest _ =>
      obtain ⟨g₂, p₂, t₂, hg₂, hy, ht₂, rfl⟩ := ih hrest
      refine ⟨_, _, _, hg, hx, .more hg' hg₂ hy ht₂, ?_⟩
      simp only [List.append_assoc, List.cons_append]

theorem arr_nil_inv {rest : List UInt8} (h : Text (.arr []) (91 :: rest)) : ∃ g, Gap g ∧ rest = g ++ [93] := by
  cases h with
  | arrNil hg => exact ⟨_, hg, rfl⟩

theorem obj_inv {fs : List (String × Json)} {rest : List UInt8} (h : Text (.obj fs) (123 :: rest)) :
    ∃ gs, fs.Perm gs ∧ ObjectBody gs rest := by
  generalize hj : Json.obj fs = j at h
  generalize hq : 123 :: rest = q at h
  induction h generalizing fs rest with
  | objNil hg =>
    cases hj; cases hq
    exact ⟨[], .refl _, .nil hg⟩
  | objOne hg₁ hg₂ hg₃ hv hg₄ =>
    cases hj; cases hq
    exact ⟨_, .refl _, .cons hg₁ hg₂ hg₃ hv (.last hg₄)⟩
  | @objCons k v _ _ _ _ _ _ _ hg₁ hg₂ hg₃ hv hg₄ _ hne _ ih =>
    cases hj; cases hq
    -- the rest after this field's comma is a nonempty object's body, so its first field joins the tail
    obtain ⟨gs, hp, hb⟩ := ih rfl rfl
    cases hb with
    | nil _ => exact absurd hp.eq_nil hne
    | @cons k' _ _ _ _ _ _ _ hg₁' hg₂' hg₃' hv' ht' =>
      refine ⟨_, hp.cons _, ?_⟩
      have h := ObjectBody.cons (k := k) hg₁ hg₂ hg₃ hv (FieldTail.more (k := k') hg₄ hg₁' hg₂' hg₃' hv' ht')
      simpa only [List.append_assoc, List.cons_append] using h
  | perm hp _ ih =>
    cases hj; cases hq
    obtain ⟨gs, hp', hb⟩ := ih rfl rfl
    exact ⟨gs, hp.trans hp', hb⟩
  | _ => cases hj

section Separated

variable {g g₂ g₃ g' : List UInt8} (w : Json → List UInt8)

theorem arr_sep (hg : Gap g) (hg' : Gap g') :
    ∀ (x : Json) (xs : List Json), (∀ y ∈ x :: xs, Text y (w y)) →
      Text (.arr (x :: xs)) (91 :: (g ++ (w x ++ ((xs.flatMap fun y => 44 :: (g ++ w y)) ++ (g' ++ [93]))))) := by
  intro x xs hw
  induction xs generalizing x with
  | nil => exact arrOne hg (hw x List.mem_cons_self) hg'
  | cons y ys ih =>
    have htail := ih y fun z hz => hw z (List.mem_cons_of_mem _ hz)
    have h := arrCons hg (hw x List.mem_cons_self) Gap.nil htail (List.cons_ne_nil _ _)
    simpa only [List.flatMap_cons, List.nil_append, List.cons_append, List.append_assoc] using h

theorem obj_sep (hg : Gap g) (hg₂ : Gap g₂) (hg₃ : Gap g₃) (hg' : Gap g') :
    ∀ (kv : String × Json) (fs : List (String × Json)), (∀ f ∈ kv :: fs, Text f.2 (w f.2)) →
      Text (.obj (kv :: fs)) (123 :: (g ++ (bytesOf (quote kv.1) ++ (g₂ ++ 58 :: (g₃ ++ (w kv.2 ++
        ((fs.flatMap fun f => 44 :: (g ++ (bytesOf (quote f.1) ++ (g₂ ++ 58 :: (g₃ ++ w f.2)))))
          ++ (g' ++ [125])))))))) := by
  intro kv fs hw
  induction fs generalizing kv with
  | nil => exact objOne hg hg₂ hg₃ (hw kv List.mem_cons_self) hg'
  | cons f fs ih =>
    have htail := ih f fun z hz => hw z (List.mem_cons_of_mem _ hz)
    have h := objCons (k := kv.1) hg hg₂ hg₃ (hw kv List.mem_cons_self) Gap.nil htail (List.cons_ne_nil _ _)
    simpa only [List.flatMap_cons, List.nil_append, List.cons_append, List.append_assoc] using h

end Separated

end Text

/-- A whole text of `j`: one text of it with blanks before and after. -/
def Layout (j : Json) (s : String) : Prop :=
  ∃ g₁ p g₂, Gap g₁ ∧ Text j p ∧ Gap g₂ ∧ bytesOf s = g₁ ++ (p ++ g₂)

theorem bytesOf_intercalate (sep a : String) (l : List String) :
    bytesOf (sep.intercalate (a :: l)) = bytesOf a ++ l.flatMap fun b => bytesOf sep ++ bytesOf b := by
  induction l generalizing a with
  | nil => simp
  | cons b l ih => rw [String.intercalate_cons_cons, bytesOf_append, bytesOf_append, ih]; simp

theorem gap_pushn (s : String) (hs : Gap (bytesOf s)) (n : Nat) : Gap (bytesOf (s.pushn ' ' n)) := by
  induction n with
  | zero => exact hs
  | succ n ih =>
    rw [String.pushn, Nat.repeat, ← String.pushn, String.push_eq_append, bytesOf_append, bytesOf_singleton]
    exact ih.append fun b hb => by rw [List.mem_singleton.1 hb]; rfl

theorem gap_indent (level : Nat) : Gap (10 :: bytesOf (indent level)) :=
  Gap.append (g := [10]) (fun b hb => by rw [List.mem_singleton.1 hb]; rfl)
    (gap_pushn "" (fun _ hb => absurd hb List.not_mem_nil) (2 * level))

theorem bytesOf_pretty_arr (level : Nat) (x : Json) (xs : List Json) :
    bytesOf (pretty level (.arr (x :: xs))) =
      91 :: ((10 :: bytesOf (indent (level + 1))) ++ (bytesOf (pretty (level + 1) x) ++
        ((xs.flatMap fun y => 44 :: ((10 :: bytesOf (indent (level + 1))) ++ bytesOf (pretty (level + 1) y))) ++
          ((10 :: bytesOf (indent level)) ++ [93])))) := by
  rw [pretty.eq_3 _ _ (List.cons_ne_nil _ _)]
  simp only [bytesOf_append, List.map_attach_eq_pmap, List.pmap_eq_map, List.map_cons, bytesOf_intercalate,
    List.flatMap_map]
  rw [show bytesOf "[\n" = [91, 10] from rfl, show bytesOf ",\n" = [44, 10] from rfl,
    show bytesOf "\n" = [10] from rfl, show bytesOf "]" = [93] from rfl]
  simp only [List.append_assoc, List.cons_append, List.nil_append]

theorem bytesOf_pretty_obj (level : Nat) (kv : String × Json) (fs : List (String × Json)) :
    bytesOf (pretty level (.obj (kv :: fs))) =
      123 :: ((10 :: bytesOf (indent (level + 1))) ++ (bytesOf (quote kv.1) ++ ([] ++ 58 :: ([32] ++
        (bytesOf (pretty (level + 1) kv.2) ++ ((fs.flatMap fun f => 44 :: ((10 :: bytesOf (indent (level + 1))) ++
          (bytesOf (quote f.1) ++ ([] ++ 58 :: ([32] ++ bytesOf (pretty (level + 1) f.2)))))) ++
            ((10 :: bytesOf (indent level)) ++ [125]))))))) := by
  rw [pretty.eq_4 _ _ (List.cons_ne_nil _ _)]
  simp only [bytesOf_append, List.map_attach_eq_pmap, List.pmap_eq_map, List.map_cons, bytesOf_intercalate,
    List.flatMap_map]
  rw [show bytesOf "\x7b\n" = [123, 10] from rfl, show bytesOf ",\n" = [44, 10] from rfl,
    show bytesOf "\n" = [10] from rfl, show bytesOf "\x7d" = [125] from rfl, show bytesOf ": " = [58, 32] from rfl]
  simp only [List.append_assoc, List.cons_append, List.nil_append]

theorem sizeOf_lt_arr {y : Json} {xs : List Json} (h : y ∈ xs) : sizeOf y < sizeOf (Json.arr xs) := by
  have := List.sizeOf_lt_of_mem h
  simp only [arr.sizeOf_spec]
  omega

theorem sizeOf_lt_obj {f : String × Json} {fs : List (String × Json)} (h : f ∈ fs) :
    sizeOf f.2 < sizeOf (Json.obj fs) := by
  have := List.sizeOf_lt_of_mem h
  obtain ⟨k, v⟩ := f
  simp only [obj.sizeOf_spec, Prod.mk.sizeOf_spec] at this ⊢
  omega

theorem pretty_eq_render {j : Json} (harr : ∀ items, j ≠ .arr items) (hobj : ∀ fields, j ≠ .obj fields)
    (level : Nat) : pretty level j = render j :=
  pretty.eq_5 level j (harr []) (hobj []) harr hobj

theorem text_pretty (j : Json) (level : Nat) : Text j (bytesOf (pretty level j)) := by
  -- by induction on the size of the document: an element or a field's value is smaller
  refine (measure (sizeOf : Json → Nat)).wf.induction (C := fun j => ∀ level, Text j (bytesOf (pretty level j)))
    j ?_ level
  intro j ih level
  cases j with
  | null =>
    rw [pretty_eq_render (by simp) (by simp), render]
    exact .null
  | bool b =>
    rw [pretty_eq_render (by simp) (by simp), render]
    exact .bool b
  | num n =>
    rw [pretty_eq_render (by simp) (by simp), render]
    exact .num n
  | str s =>
    rw [pretty_eq_render (by simp) (by simp), render]
    exact .str s
  | arr items =>
    cases items with
    | nil =>
      rw [pretty.eq_1]
      exact .arrNil (g := []) Gap.nil
    | cons x xs =>
      -- every element is written one level deeper, after a newline and its indent
      rw [bytesOf_pretty_arr]
      exact Text.arr_sep (fun y => bytesOf (pretty (level + 1) y)) (gap_indent _) (gap_indent _) x xs
        fun y hy => ih y (sizeOf_lt_arr hy) (level + 1)
  | obj fields =>
    cases fields with
    | nil =>
      rw [pretty.eq_2]
      exact .objNil (g := []) Gap.nil
    | cons kv fs =>
      rw [bytesOf_pretty_obj]
      exact Text.obj_sep (fun v => bytesOf (pretty (level + 1) v)) (gap_indent _) Gap.nil
        (fun b hb => by rw [List.mem_singleton.1 hb]; rfl) (gap_indent _) kv fs
        fun f hf => ih f.2 (sizeOf_lt_obj hf) (level + 1)

theorem layout_renderPretty (j : Json) : Layout j j.renderPretty :=
  ⟨[], _, [], Gap.nil, Json.text_pretty j 0, Gap.nil, by simp [Json.renderPretty]⟩

end NativeBridge.Json
