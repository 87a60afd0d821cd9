import NativeBridge.Json.Scan

/-!
What the reader does over a text it accepts.

`Scan.Reads x piece a` says that `x`, started at the first byte of `piece` wherever `piece`
stands in a text, gives `a` and stops right after it. Each reader of tokens gets such a
statement for the bytes of its token with the blanks before it, and the readers built from them
get theirs by `Reads.bind`; the end of an array or an object, which the reader sees before it
reads the closing bracket, has statements of its own.
-/

namespace NativeBridge.Json

variable {α β : Type}

def bytesOf (s : String) : List UInt8 := s.toUTF8.data.toList

theorem bytesOf_append (s s' : String) : bytesOf (s ++ s') = bytesOf s ++ bytesOf s' := by
  simp [bytesOf, String.toByteArray_append, ByteArray.data_append]

theorem toUTF8_eq_toByteArray (s : String) : s.toUTF8 = (bytesOf s).toByteArray := by
  apply ByteArray.ext
  simp [bytesOf, List.data_toByteArray]

def Gap (g : List UInt8) : Prop := ∀ b ∈ g, isBlank b = true

theorem Gap.nil : Gap [] := fun _ h => nomatch h

theorem Gap.append {g g' : List UInt8} (h : Gap g) (h' : Gap g') : Gap (g ++ g') := by
  intro b hb
  rcases List.mem_append.1 hb with hb | hb
  · exact h b hb
  · exact h' b hb

theorem size_toByteArray_at (pre rest : List UInt8) (b : UInt8) :
    pre.length < (pre ++ b :: rest).toByteArray.size := by
  simp only [List.size_toByteArray, List.length_append, List.length_cons]
  omega

theorem getElem_toByteArray_at (pre rest : List UInt8) (b : UInt8)
    (h : pre.length < (pre ++ b :: rest).toByteArray.size) : (pre ++ b :: rest).toByteArray[pre.length] = b := by
  rw [List.getElem_toByteArray]
  simp

theorem byteAt_at (pre rest : List UInt8) (b : UInt8) : byteAt (pre ++ b :: rest).toByteArray pre.length = b := by
  rw [byteAt, dif_pos (size_toByteArray_at pre rest b), getElem_toByteArray_at]

theorem byteAt_append (pre rest : List UInt8) (k : Nat) (hk : k < rest.length) :
    byteAt (pre ++ rest).toByteArray (pre.length + k) = rest[k] := by
  rw [byteAt, dif_pos (by simp [List.size_toByteArray]; omega), List.getElem_toByteArray]
  simp [List.getElem_append_right]

theorem skipBlank_blank {c : UInt8} (hc : isBlank c = true) (pre rest : List UInt8) :
    skipBlank (pre ++ c :: rest).toByteArray pre.length = skipBlank (pre ++ c :: rest).toByteArray (pre.length + 1) := by
  rw [skipBlank, dif_pos (size_toByteArray_at _ _ c), getElem_toByteArray_at, hc, if_pos rfl]

theorem skipBlank_of_gap {g : List UInt8} (hg : Gap g) (pre rest : List UInt8) :
    skipBlank (pre ++ (g ++ rest)).toByteArray pre.length =
      skipBlank (pre ++ (g ++ rest)).toByteArray (pre.length + g.length) := by
  induction g generalizing pre with
  | nil => rfl
  | cons c g ih =>
    have hstep := skipBlank_blank (hg c List.mem_cons_self) pre (g ++ rest)
    have hrest := ih (fun x hx => hg x (List.mem_cons_of_mem _ hx)) (pre ++ [c])
    simp only [List.append_assoc, List.cons_append, List.nil_append, List.length_append, List.length_cons,
      List.length_nil] at hrest
    rw [List.cons_append, hstep, hrest, List.length_cons, Nat.add_assoc, Nat.add_comm 1]

theorem skipBlank_gap {g : List UInt8} (hg : Gap g) {b : UInt8} (hb : isBlank b = false) (pre rest : List UInt8) :
    skipBlank (pre ++ (g ++ b :: rest)).toByteArray pre.length = pre.length + g.length := by
  rw [skipBlank_of_gap hg, skipBlank]
  have h := size_toByteArray_at (pre ++ g) rest b
  simp only [List.append_assoc, List.length_append] at h
  rw [dif_pos h]
  have hb' : (pre ++ (g ++ b :: rest)).toByteArray[pre.length + g.length] = b := by
    have := getElem_toByteArray_at (pre ++ g) rest b (by simp only [List.append_assoc, List.length_append]; exact h)
    simpa only [List.append_assoc, List.length_append] using this
  rw [hb', hb]
  rfl

theorem skipBlank_gap_end {g : List UInt8} (hg : Gap g) (pre : List UInt8) :
    skipBlank (pre ++ g).toByteArray pre.length = pre.length + g.length := by
  have h := skipBlank_of_gap hg pre []
  rw [List.append_nil] at h
  rw [h, skipBlank, dif_neg (by simp [List.size_toByteArray])]

namespace Scan

def exec (x : Scan α) (t : ByteArray) (i : Nat) : Except Error α × Nat := (ExceptT.run (x t)).run i

section Exec

variable {t : ByteArray} {i j k : Nat} {a : α}

theorem exec_bind_ok {x : Scan α} (h : exec x t i = (.ok a, j)) (f : α → Scan β) :
    exec (x >>= f) t i = exec (f a) t j := by
  unfold exec at *
  show (ExceptT.run (x t >>= fun a => f a t)).run i = _
  rw [ExceptT.run_bind, StateT.run_bind, h]
  rfl

theorem exec_tryCatch_ok {x : Scan α} (h : exec x t i = (.ok a, j)) (handler : Error → Scan α) :
    exec (tryCatch x handler) t i = (.ok a, j) := by
  unfold exec at *
  show (ExceptT.run (ExceptT.tryCatch (x t) fun e => handler e t)).run i = _
  have h' : StateT.run (x t) i = (.ok a, j) := h
  simp only [ExceptT.tryCatch, ExceptT.run_mk, StateT.run_bind]
  rw [h']
  rfl

theorem exec_map_ok {x : Scan α} (h : exec x t i = (.ok a, j)) (f : α → β) : exec (f <$> x) t i = (.ok (f a), j) := by
  rw [map_eq_pure_bind, exec_bind_ok h]
  rfl

theorem exec_text_bind (f : ByteArray → Scan α) : exec (text >>= f) t i = exec (f t) t i := rfl

theorem exec_index_bind (f : Nat → Scan α) : exec (index >>= f) t i = exec (f i) t i := rfl

theorem exec_peekToken :
    exec peekToken t i = (.ok (if h : skipBlank t i < t.size then some t[skipBlank t i] else none), skipBlank t i) :=
  rfl

theorem exec_bump : exec bump t i = (.ok (), i + 1) := rfl

theorem exec_lexSkip {f : ByteArray → Nat → Except (SyntaxFault × Nat) Nat} (h : f t i = .ok j) :
    exec (lexSkip f) t i = (.ok (), j) := by
  unfold lexSkip
  rw [exec_text_bind, exec_index_bind]
  simp only [h]
  rfl

theorem exec_lex {f : ByteArray → Nat → Lexed α} (h : f t i = .ok (a, j)) : exec (lex f) t i = (.ok a, j) := by
  unfold lex
  rw [exec_text_bind, exec_index_bind]
  simp only [h]
  rfl

theorem exec_fix {x : Scan α} (h : exec x t i = (.ok a, j)) : exec (fix x) t i = (.ok a, j) :=
  exec_tryCatch_ok h _

theorem exec_observe {x : Scan α} (h : exec x t i = (.ok a, j)) : exec (observe x) t i = (.ok (.ok a), j) :=
  exec_tryCatch_ok (exec_map_ok h _) _

theorem exec_enclosed {body : Scan α} {close : Scan Unit} (hb : exec body t i = (.ok a, j))
    (hc : exec close t j = (.ok (), k)) : exec (enclosed body close) t i = (.ok a, k) := by
  unfold enclosed
  rw [exec_bind_ok (exec_observe hb), exec_bind_ok (exec_observe hc)]
  rfl

end Exec

section Peek

variable {g : List UInt8} {b : UInt8} {pre rest : List UInt8}

theorem exec_peekToken_at (hg : Gap g) (hb : isBlank b = false) :
    exec peekToken (pre ++ (g ++ b :: rest)).toByteArray pre.length = (.ok (some b), pre.length + g.length) := by
  rw [exec_peekToken, skipBlank_gap hg hb]
  have h := size_toByteArray_at (pre ++ g) rest b
  simp only [List.append_assoc, List.length_append] at h
  rw [dif_pos h]
  have hb' : (pre ++ (g ++ b :: rest)).toByteArray[pre.length + g.length] = b := by
    have := getElem_toByteArray_at (pre ++ g) rest b (by simp only [List.append_assoc, List.length_append]; exact h)
    simpa only [List.append_assoc, List.length_append] using this
  rw [hb']

theorem exec_peekToken_end (hg : Gap g) :
    exec peekToken (pre ++ g).toByteArray pre.length = (.ok none, pre.length + g.length) := by
  rw [exec_peekToken, skipBlank_gap_end hg, dif_neg (by simp [List.size_toByteArray])]

theorem exec_peek_bind (hg : Gap g) (hb : isBlank b = false) (f : Option UInt8 → Scan α) :
    exec (peekToken >>= f) (pre ++ (g ++ b :: rest)).toByteArray pre.length =
      exec (f (some b)) (pre ++ (g ++ b :: rest)).toByteArray (pre.length + g.length) :=
  exec_bind_ok (exec_peekToken_at hg hb) f

end Peek

/-- Reader `x` reads `piece` as `a`: started at the first byte of `piece`, wherever it
stands in a text, it gives `a` and stops right after it. -/
def Reads (x : Scan α) (piece : List UInt8) (a : α) : Prop :=
  ∀ pre post : List UInt8, exec x (pre ++ (piece ++ post)).toByteArray pre.length = (.ok a, pre.length + piece.length)

namespace Reads

variable {x : Scan α} {p q : List UInt8} {a : α}

theorem bind {f : α → Scan β} {b : β} (hx : Reads x p a) (hf : Reads (f a) q b) : Reads (x >>= f) (p ++ q) b := by
  intro pre post
  have h := hf (pre ++ p) post
  simp only [List.append_assoc, List.length_append] at h
  rw [List.append_assoc, exec_bind_ok (hx pre (q ++ post)), h, List.length_append, Nat.add_assoc]

theorem seq {y : Scan β} {b : β} (hx : Reads x p a) (hy : Reads y q b) : Reads (x >>= fun _ => y) (p ++ q) b :=
  bind hx hy

protected theorem pure (a : α) : Reads (pure a) [] a := fun pre _ => by
  simp only [List.nil_append, List.length_nil, Nat.add_zero]
  rfl

theorem map (h : Reads x p a) (f : α → β) : Reads (f <$> x) p (f a) := fun pre post =>
  exec_map_ok (h pre post) f

theorem fix (h : Reads x p a) : Reads (Scan.fix x) p a := fun pre post => exec_fix (h pre post)

theorem enclosed {close : Scan Unit} (hb : Reads x p a) (hc : Reads close q ()) :
    Reads (Scan.enclosed x close) (p ++ q) a := by
  intro pre post
  have h := hc (pre ++ p) post
  simp only [List.append_assoc, List.length_append] at h
  rw [List.append_assoc, exec_enclosed (hb pre (q ++ post)) h, List.length_append, Nat.add_assoc]

theorem bump (b : UInt8) : Reads Scan.bump [b] () := fun _ _ => exec_bump

theorem peek {g : List UInt8} (hg : Gap g) {b : UInt8} (hb : isBlank b = false) {f : Option UInt8 → Scan α}
    (h : Reads (f (some b)) (b :: q) a) : Reads (peekToken >>= f) (g ++ b :: q) a := by
  intro pre post
  have h' := h (pre ++ g) post
  simp only [List.append_assoc, List.cons_append, List.length_append, List.length_cons] at h' ⊢
  rw [exec_peek_bind hg hb, h', Nat.add_assoc]

end Reads

end Scan

end NativeBridge.Json
