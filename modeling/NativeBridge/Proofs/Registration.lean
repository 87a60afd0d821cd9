import NativeBridge.Transform
import Mathlib.Data.List.Nodup

/-!
A transformer registry over any run of registrations.

Registration refuses a key already present and a transformer that lowers to a complex type, and a
refused registration keeps the registry as it was. From the empty registry, or the one holding the
built-in `string` transformer, every run keeps the registry well formed (`WellFormed`): its keys are
distinct and each of its transformers lowers to a native or optional type. So each key has exactly
one transformer, the one `get?` finds, and `canLower`, `contains` and `get?` agree on every key.
-/

namespace NativeBridge

namespace Registry

variable {σ ε : Type}

def serve (r : Registry σ ε) (key : String) (t : Transformer σ ε) : Except Error Unit × Registry σ ε :=
  match r.register key t with
  | .ok r' => (.ok (), r')
  | .error e => (.error e, r)

def run (r : Registry σ ε) : List (String × Transformer σ ε) → List (Except Error Unit) × Registry σ ε
  | [] => ([], r)
  | (key, t) :: rest => ((r.serve key t).1 :: ((r.serve key t).2.run rest).1, ((r.serve key t).2.run rest).2)

/-- The keys are distinct and every transformer lowers to a native or optional type. -/
structure WellFormed (r : Registry σ ε) : Prop where
  nodup : (r.entries.map (·.1)).Nodup
  lowered : ∀ e ∈ r.entries, e.2.lowered.isNamed = false

theorem contains_eq_false_iff {r : Registry σ ε} {key : String} :
    r.contains key = false ↔ key ∉ r.entries.map (·.1) := by
  simp only [contains, List.any_eq_false, beq_iff_eq, List.mem_map, not_exists, not_and]

theorem lookup_eq_some_iff_mem {β : Type} {l : List (String × β)} (hnd : (l.map (·.1)).Nodup) {k : String} {b : β} :
    l.lookup k = some b ↔ (k, b) ∈ l := by
  rw [List.lookup_eq_some_iff]
  constructor
  · rintro ⟨l₁, l₂, rfl, -⟩
    simp
  · intro hm
    obtain ⟨l₁, l₂, rfl⟩ := List.append_of_mem hm
    refine ⟨l₁, l₂, rfl, fun p hp => ?_⟩
    -- the key occurs once, after the keys of `l₁`
    have hk : k ∉ l₁.map (·.1) := by
      simp only [List.map_append, List.map_cons] at hnd
      exact (List.nodup_middle.1 hnd |> List.nodup_cons.1).1 ∘ fun h => List.mem_append_left _ h
    have : k ≠ p.1 := fun h => hk (List.mem_map.2 ⟨p, hp, h.symm⟩)
    simpa using this

section Serve

variable {r : Registry σ ε} {key : String} {t : Transformer σ ε}

theorem serve_of_contains (h : r.contains key = true) :
    r.serve key t = (.error (.configuration key
      ("a transformer for `" ++ key ++ "` is already registered; lookup would be ambiguous")), r) := by
  simp [serve, register_of_contains h]

theorem serve_of_named (h : r.contains key = false) {lowered : String} (hl : t.lowered = .named lowered) :
    r.serve key t = (.error (.configuration key ("transformer for `" ++ key ++ "` lowers to `" ++ lowered
      ++ "`, which is not a native or nullable type")), r) := by
  simp [serve, register, h, hl]

theorem serve_cases (r : Registry σ ε) (key : String) (t : Transformer σ ε) :
    ((r.contains key = true ∨ t.lowered.isNamed = true) ∧
      ∃ msg, r.serve key t = (.error (.configuration key msg), r)) ∨
    (r.contains key = false ∧ t.lowered.isNamed = false ∧ r.serve key t = (.ok (), ⟨r.entries ++ [(key, t)]⟩)) := by
  cases hc : r.contains key with
  | true => exact .inl ⟨.inl rfl, _, serve_of_contains hc⟩
  | false =>
    cases hlow : t.lowered with
    | named lowered => exact .inl ⟨.inr rfl, _, serve_of_named hc hlow⟩
    | native n | nullable n => exact .inr ⟨rfl, rfl, by simp [serve, register, hc, hlow]⟩

theorem serve_ok_iff : (r.serve key t).1 = .ok () ↔ r.contains key = false ∧ t.lowered.isNamed = false := by
  rcases serve_cases r key t with ⟨hbad, msg, hs⟩ | ⟨hc, hl, hs⟩
  · rw [hs]
    rcases hbad with hbad | hbad <;> simp [hbad]
  · simp [hs, hc, hl]

theorem serve_error {e : Error} (h : (r.serve key t).1 = .error e) :
    (∃ msg, e = .configuration key msg) ∧ (r.serve key t).2 = r := by
  rcases serve_cases r key t with ⟨-, msg, hs⟩ | ⟨-, -, hs⟩
  · rw [hs] at h ⊢
    cases h
    exact ⟨⟨msg, rfl⟩, rfl⟩
  · rw [hs] at h
    cases h

theorem WellFormed.serve (h : r.WellFormed) (key : String) (t : Transformer σ ε) : (r.serve key t).2.WellFormed := by
  rcases serve_cases r key t with ⟨-, msg, hs⟩ | ⟨hc, hl, hs⟩
  · rw [hs]
    exact h
  · rw [hs]
    refine ⟨?_, ?_⟩
    · -- the new key is not among the old ones
      have hkeys : (r.entries ++ [(key, t)]).map (·.1) = r.entries.map (·.1) ++ [key] := by simp
      show ((r.entries ++ [(key, t)]).map (·.1)).Nodup
      rw [hkeys, List.nodup_append_comm]
      exact List.nodup_cons.2 ⟨contains_eq_false_iff.1 hc, h.nodup⟩
    · intro e he
      rcases List.mem_append.1 he with he | he
      · exact h.lowered e he
      · rw [List.mem_singleton.1 he]
        exact hl

end Serve

section Run

variable {r : Registry σ ε} {calls : List (String × Transformer σ ε)} {k : Nat} {key : String}
  {t : Transformer σ ε}

theorem run_getElem? (h : calls[k]? = some (key, t)) :
    (r.run calls).1[k]? = some ((r.run (calls.take k)).2.serve key t).1 := by
  induction calls generalizing r k with
  | nil => simp at h
  | cons c cs ih =>
    obtain ⟨key', t'⟩ := c
    cases k with
    | zero =>
      simp only [List.getElem?_cons_zero, Option.some.injEq, Prod.mk.injEq] at h
      obtain ⟨rfl, rfl⟩ := h
      simp [run]
    | succ k => simpa [run] using ih h

theorem run_take_succ (h : calls[k]? = some (key, t)) :
    (r.run (calls.take (k + 1))).2 = ((r.run (calls.take k)).2.serve key t).2 := by
  induction calls generalizing r k with
  | nil => simp at h
  | cons c cs ih =>
    obtain ⟨key', t'⟩ := c
    cases k with
    | zero =>
      simp only [List.getElem?_cons_zero, Option.some.injEq, Prod.mk.injEq] at h
      obtain ⟨rfl, rfl⟩ := h
      simp [run]
    | succ k => simpa [run] using ih h

theorem WellFormed.run (h : r.WellFormed) (calls : List (String × Transformer σ ε)) : (r.run calls).2.WellFormed := by
  induction calls generalizing r with
  | nil => exact h
  | cons c cs ih =>
    obtain ⟨key, t⟩ := c
    exact ih (h.serve key t)

end Run

theorem wellFormed_empty : ({} : Registry σ ε).WellFormed :=
  ⟨List.nodup_nil, by simp⟩

theorem wellFormed_withDefaults : (withDefaults : Registry σ ε).WellFormed :=
  ⟨by simp [withDefaults], by simp [withDefaults, Transformer.string, TypeRef.isNamed]⟩

namespace WellFormed

variable {r : Registry σ ε} (h : r.WellFormed)
include h

theorem get?_eq_some_iff {key : String} {t : Transformer σ ε} : r.get? key = some t ↔ (key, t) ∈ r.entries :=
  lookup_eq_some_iff_mem h.nodup

theorem lowered_of_get? {key : String} {t : Transformer σ ε} (hg : r.get? key = some t) :
    (∃ n, t.lowered = .native n) ∨ ∃ n, t.lowered = .nullable n := by
  have := h.lowered _ (h.get?_eq_some_iff.1 hg)
  cases hl : t.lowered with
  | native n => exact .inl ⟨n, rfl⟩
  | nullable n => exact .inr ⟨n, rfl⟩
  | named k => simp [hl, TypeRef.isNamed] at this

end WellFormed

/-- Every run of registrations from the empty registry, or from the one with the built-in `string`
transformer, keeps the registry's contract. Each registration succeeds exactly when its key is not
yet present and its transformer lowers to a native or optional type; a refused one is a
configuration error naming its key and leaves the registry as it was. Afterwards the keys are
distinct, each key's transformer is the one `get?` finds and lowers to a native or optional type,
`canLower`, `contains` and `get?` agree on every key, and every native or optional type can be
lowered. -/
theorem registrations_follow_contract (defaults : Bool) (calls : List (String × Transformer σ ε)) :
    let r₀ : Registry σ ε := if defaults then withDefaults else {}
    let r := (r₀.run calls).2
    (∀ k key t, calls[k]? = some (key, t) → ∃ reply, (r₀.run calls).1[k]? = some reply ∧
      (reply = .ok () ↔ (r₀.run (calls.take k)).2.contains key = false ∧ t.lowered.isNamed = false) ∧
      ∀ e, reply = .error e →
        (∃ msg, e = .configuration key msg) ∧ (r₀.run (calls.take (k + 1))).2 = (r₀.run (calls.take k)).2) ∧
    (r.entries.map (·.1)).Nodup ∧
    (∀ key t, r.get? key = some t ↔ (key, t) ∈ r.entries) ∧
    (∀ key t, r.get? key = some t → (∃ n, t.lowered = .native n) ∨ ∃ n, t.lowered = .nullable n) ∧
    (∀ key, r.canLower (.named key) = r.contains key ∧ r.contains key = (r.get? key).isSome) ∧
    ∀ n, r.canLower (.native n) = true ∧ r.canLower (.nullable n) = true := by
  intro r₀ r
  have h₀ : r₀.WellFormed := by
    cases defaults
    · exact wellFormed_empty
    · exact wellFormed_withDefaults
  have hr : r.WellFormed := h₀.run calls
  refine ⟨fun k key t hk => ⟨_, run_getElem? hk, serve_ok_iff, fun e he => ?_⟩, hr.nodup,
    fun _ _ => hr.get?_eq_some_iff, fun _ _ => hr.lowered_of_get?,
    fun key => ⟨rfl, contains_eq_isSome_get? r key⟩, fun _ => ⟨rfl, rfl⟩⟩
  obtain ⟨hname, hkeep⟩ := serve_error he
  exact ⟨hname, (run_take_succ hk).trans hkeep⟩

end Registry

end NativeBridge
