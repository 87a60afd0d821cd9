import NativeBridge.Session
import NativeBridge.Proofs.Resolution

/-!
The factory caches one binding type per interface and configuration until its cache is emptied.

A factory is driven by requests: generating a type, clearing the cache, or changing the stages.
Serving the generations between two emptyings keeps an invariant (`Remembers`): the cache holds
each key that succeeded once, in the order it first succeeded, with the answer every success for
it got. From it: a key is generated again only when it never succeeded, equal keys are answered
one type, a failure caches nothing, and the cache counts the distinct keys that succeeded.
A session asks its factory only by such requests, and an activation makes a new instance of the
answered type that no later step on another instance touches.
-/

namespace NativeBridge

namespace Factory

variable {σ ε : Type} {f : Factory σ ε} {d : InterfaceDecl} {c : BindingConfig}

theorem generate_of_cached {e : Nat × BindingType} (h : f.cache.lookup (d, c) = some e) :
    f.generate d c = .ok (e, f) := by
  simp [generate, h]

theorem generate_of_uncached (h : f.cache.lookup (d, c) = none) :
    f.generate d c =
      match BindingType.generate f.stages (f.input c) d with
      | .ok t => .ok ((f.generated, t), { f with cache := f.cache ++ [((d, c), (f.generated, t))], generated := f.generated + 1 })
      | .error err => .error err := by
  simp only [generate, h]
  cases BindingType.generate f.stages (f.input c) d <;> rfl

inductive Request where
  | generate (d : InterfaceDecl) (config : BindingConfig)
  | clearCache
  | withPipeline (stages : List Stage)

def Request.empties : Request → Bool
  | .generate .. => false
  | _ => true

def serve (f : Factory σ ε) : Request → Option (Except Error (Nat × BindingType)) × Factory σ ε
  | .generate d c =>
    match f.generate d c with
    | .ok (e, f') => (some (.ok e), f')
    | .error err => (some (.error err), f)
  | .clearCache => (none, f.clearCache)
  | .withPipeline stages => (none, f.withPipeline stages)

def after (f : Factory σ ε) : List Request → Factory σ ε
  | [] => f
  | r :: rs => (f.serve r).2.after rs

def success : Request → Option (Except Error (Nat × BindingType)) → List ((InterfaceDecl × BindingConfig) × Nat × BindingType)
  | .generate d c, some (.ok e) => [((d, c), e)]
  | _, _ => []

def successes (f : Factory σ ε) : List Request → List ((InterfaceDecl × BindingConfig) × Nat × BindingType)
  | [] => []
  | r :: rs => success r (f.serve r).1 ++ (f.serve r).2.successes rs

/-- The cache remembers the successful generations `hist`: it holds each of their keys once, in
the order they first succeeded, and every success for a key was answered what the cache holds. -/
structure Remembers (f : Factory σ ε) (hist : List ((InterfaceDecl × BindingConfig) × Nat × BindingType)) : Prop where
  keys : f.cache.map (·.1) = (hist.map (·.1)).eraseDups
  answered : ∀ k e, (k, e) ∈ hist → f.cache.lookup k = some e

theorem remembers_nil (h : f.cache = []) : f.Remembers [] :=
  ⟨by simp [h], by simp⟩

theorem lookup_eq_none_iff_not_mem {α β : Type} [BEq α] [LawfulBEq α] {l : List (α × β)} {k : α} :
    l.lookup k = none ↔ k ∉ l.map (·.1) := by
  simp only [List.lookup_eq_none_iff, bne_iff_ne, ne_eq, List.mem_map, not_exists, not_and]
  exact ⟨fun h p hp heq => h p hp heq.symm, fun h p hp heq => h p hp heq.symm⟩

theorem Remembers.lookup_eq_none_iff {hist} (h : f.Remembers hist) {k : InterfaceDecl × BindingConfig} :
    f.cache.lookup k = none ↔ k ∉ hist.map (·.1) := by
  rw [lookup_eq_none_iff_not_mem, h.keys, List.mem_eraseDups]

theorem serve_of_cached {e : Nat × BindingType} (h : f.cache.lookup (d, c) = some e) :
    f.serve (.generate d c) = (some (.ok e), f) := by
  simp only [serve, generate_of_cached h]

theorem serve_of_uncached (h : f.cache.lookup (d, c) = none) :
    f.serve (.generate d c) =
      match BindingType.generate f.stages (f.input c) d with
      | .ok t => (some (.ok (f.generated, t)),
          { f with cache := f.cache ++ [((d, c), (f.generated, t))], generated := f.generated + 1 })
      | .error err => (some (.error err), f) := by
  simp only [serve, generate_of_uncached h]
  cases BindingType.generate f.stages (f.input c) d <;> rfl

theorem Remembers.serve {hist} (h : f.Remembers hist) {r : Request} (hr : r.empties = false) :
    (f.serve r).2.Remembers (hist ++ success r (f.serve r).1) := by
  cases r with
  | clearCache | withPipeline => cases hr
  | generate d c =>
    cases hl : f.cache.lookup (d, c) with
    | some e =>
      -- a hit: the key is remembered already, and is answered what the cache holds
      have hmem : (d, c) ∈ hist.map (·.1) := Classical.byContradiction fun hn => by
        rw [← h.lookup_eq_none_iff, hl] at hn
        cases hn
      rw [serve_of_cached hl]
      refine ⟨?_, ?_⟩
      · simp [success, h.keys, List.eraseDups_append, List.removeAll, hmem]
      · intro k e' hk
        simp only [success, List.mem_append, List.mem_singleton, Prod.mk.injEq] at hk
        rcases hk with hk | ⟨rfl, rfl⟩
        · exact h.answered k e' hk
        · exact hl
    | none =>
      have hnot : (d, c) ∉ hist.map (·.1) := h.lookup_eq_none_iff.1 hl
      rw [serve_of_uncached hl]
      cases hg : BindingType.generate f.stages (f.input c) d with
      | error err => simpa [success] using h
      | ok t =>
        -- a miss that succeeds: the key is new, and is cached with the answer
        refine ⟨?_, ?_⟩
        · simp [success, h.keys, List.eraseDups_append, List.eraseDups_cons, List.removeAll, hnot]
        · intro k e' hk
          simp only [success, List.mem_append, List.mem_singleton, Prod.mk.injEq] at hk
          rcases hk with hk | ⟨rfl, rfl⟩
          · simp [List.lookup_append, h.answered k e' hk]
          · simp [List.lookup_append, hl]

theorem Remembers.after {hist} (h : f.Remembers hist) {rs : List Request} (hrs : ∀ r ∈ rs, r.empties = false) :
    (f.after rs).Remembers (hist ++ f.successes rs) := by
  induction rs generalizing f hist with
  | nil => simpa [after, successes] using h
  | cons r rs ih =>
    have hstep := h.serve (hrs r (List.mem_cons_self ..))
    have := ih hstep (fun r' hr' => hrs r' (List.mem_cons_of_mem r hr'))
    simpa [after, successes, List.append_assoc] using this

theorem Remembers.cachedTypes {hist} (h : f.Remembers hist) : f.cachedTypes = (hist.map (·.1)).eraseDups.length := by
  rw [Factory.cachedTypes, ← h.keys, List.length_map]

end Factory

def Step.request (interface : InterfaceDecl) (config : BindingConfig) : Step → Option Factory.Request
  | .activate d c | .generate d c => some (.generate (d.getD interface) (c.getD config))
  | .clearCache => some .clearCache
  | _ => none

def Step.instance? : Step → Option Nat
  | .invoke _ _ i | .invokeIndex _ _ i | .call _ _ _ i | .dispose i | .state i => some i
  | _ => none

namespace Session

variable (s : Session) (d : Option InterfaceDecl) (c : Option BindingConfig)

theorem prepare_snd :
    (s.prepare d c).2 = { s with factory := (s.factory.serve (.generate (d.getD s.interface) (c.getD s.config))).2 } := by
  simp only [prepare, Factory.serve]
  cases s.factory.generate (d.getD s.interface) (c.getD s.config) with
  | error e => rfl
  | ok r =>
    dsimp only
    split <;> rfl

theorem prepare_factory :
    (s.prepare d c).2.factory = (s.factory.serve (.generate (d.getD s.interface) (c.getD s.config))).2 := by
  rw [prepare_snd]

theorem prepare_instances : (s.prepare d c).2.instances = s.instances := by
  rw [prepare_snd]

theorem prepare_ok {identity : Nat} {t : BindingType} (h : (s.prepare d c).1 = .ok (identity, t)) :
    (s.factory.serve (.generate (d.getD s.interface) (c.getD s.config))).1 = some (.ok (identity, t)) := by
  simp only [prepare] at h
  simp only [Factory.serve]
  revert h
  cases s.factory.generate (d.getD s.interface) (c.getD s.config) with
  | error e => intro h; cases h
  | ok r =>
    dsimp only
    split
    · intro h; cases h
    · intro h; cases h; rfl

theorem typeIndex_factory (identity : Nat) (t : BindingType) : (s.typeIndex identity t).2.factory = s.factory := by
  unfold typeIndex
  split <;> rfl

theorem typeIndex_instances (identity : Nat) (t : BindingType) :
    (s.typeIndex identity t).2.instances = s.instances := by
  unfold typeIndex
  split <;> rfl

theorem onInstance_factory (i : Nat) (g : Instance → Call Native.State Native.NativeFunction Value) :
    (s.onInstance i g).2.factory = s.factory := by
  unfold onInstance
  split
  · rfl
  · split
    split <;> rfl

theorem step_factory (st : Step) :
    (s.step st).2.factory = ((st.request s.interface s.config).map fun r => (s.factory.serve r).2).getD s.factory := by
  cases st with
  | activate d c =>
    have hp := prepare_factory { s with process := { s.process with trace := [] } } d c
    simp only [step]
    split
    · rename_i heq
      rw [heq] at hp
      exact hp
    · rename_i heq
      rw [heq] at hp
      split
      · exact hp
      · simp only [typeIndex_factory]
        exact hp
  | generate d c =>
    have hp := prepare_factory { s with process := { s.process with trace := [] } } d c
    simp only [step]
    split
    · rename_i heq
      rw [heq] at hp
      exact hp
    · rename_i heq
      rw [heq] at hp
      simp only [typeIndex_factory]
      exact hp
  | clearCache => rfl
  | invoke member args i | invokeIndex index args i => exact onInstance_factory _ i _
  | call member args as i =>
    simp only [step]
    exact onInstance_factory _ i _
  | dispose i | state i =>
    simp only [step]
    split <;> rfl
  | publish symbol fn =>
    simp only [step]
    split
    · rfl
    · split
      · rfl
      · split <;> rfl
  | unpublish symbol =>
    simp only [step]
    split <;> rfl

theorem instantiate_ok {t : BindingType} {w : Native.State} {b : Instance}
    (h : (Call.run (t.instantiate Native.host) w).1 = .ok b) : b.type = t ∧ b.disposed = false := by
  have he := Call.exec_instantiate Native.host t { world := w }
  have hr : (Call.run (t.instantiate Native.host) w).1 = (Call.exec (t.instantiate Native.host) { world := w }).1 := rfl
  rw [hr, he] at h
  cases hs : (Call.exec (SlotDef.activate Native.host t.slots) { world := w }).1 with
  | error e => rw [hs] at h; cases h
  | ok cells =>
    rw [hs] at h
    cases h
    exact ⟨rfl, rfl⟩

theorem step_activate {d : Option InterfaceDecl} {c : Option BindingConfig} {i k : Nat} {res : Bool}
    (h : (s.step (.activate d c)).1 = .ok (.activated i k res)) :
    ∃ identity t b, (s.factory.serve (.generate (d.getD s.interface) (c.getD s.config))).1 = some (.ok (identity, t)) ∧
      b.type = t ∧ b.disposed = false ∧ i = s.instances.length ∧
      (s.step (.activate d c)).2.instances = s.instances ++ [b] := by
  simp only [step] at h ⊢
  split at h
  · cases h
  · rename_i identity t s' heq
    have hserve := prepare_ok { s with process := { s.process with trace := [] } } d c (by rw [heq])
    have hinst : s'.instances = s.instances := by
      have := prepare_instances { s with process := { s.process with trace := [] } } d c
      rw [heq] at this
      exact this
    split at h
    · cases h
    · rename_i b hb
      obtain ⟨hbt, hbd⟩ := instantiate_ok hb
      simp only [Except.ok.injEq, Outcome.activated.injEq] at h
      refine ⟨identity, t, b, hserve, hbt, hbd, ?_, ?_⟩
      · rw [← h.1, typeIndex_instances, hinst]
      · simp only [typeIndex_instances, hinst]

theorem onInstance_getElem? {i j : Nat} (hij : i ≠ j) (g : Instance → Call Native.State Native.NativeFunction Value) :
    (s.onInstance i g).2.instances[j]? = s.instances[j]? := by
  unfold onInstance
  split
  · rfl
  · split
    split <;> exact List.getElem?_set_ne hij

theorem step_getElem?_of_ne (st : Step) {j : Nat} (hj : j < s.instances.length) (hst : st.instance? ≠ some j) :
    (s.step st).2.instances[j]? = s.instances[j]? := by
  cases st with
  | activate d c =>
    have hp : ({ s with process := { s.process with trace := [] } }.prepare d c).2.instances = s.instances :=
      prepare_instances _ d c
    simp only [step]
    split
    · rename_i heq
      rw [heq] at hp
      exact congrArg (·[j]?) hp
    · rename_i s' heq
      rw [heq] at hp
      replace hp : s'.instances = s.instances := hp
      split
      · exact congrArg (·[j]?) hp
      · simp only [typeIndex_instances]
        rw [List.getElem?_append_left (by rw [hp]; exact hj), hp]
  | generate d c =>
    have hp : ({ s with process := { s.process with trace := [] } }.prepare d c).2.instances = s.instances :=
      prepare_instances _ d c
    simp only [step]
    split
    · rename_i heq
      rw [heq] at hp
      exact congrArg (·[j]?) hp
    · rename_i s' heq
      rw [heq] at hp
      replace hp : s'.instances = s.instances := hp
      simp only [typeIndex_instances, hp]
  | clearCache => rfl
  | invoke member args i | invokeIndex index args i =>
    exact onInstance_getElem? _ (fun h => hst (by simp [Step.instance?, h])) _
  | call member args as i =>
    simp only [step]
    exact onInstance_getElem? _ (fun h => hst (by simp [Step.instance?, h])) _
  | dispose i =>
    simp only [step]
    split
    · rfl
    · exact List.getElem?_set_ne (fun h => hst (by simp [Step.instance?, h]))
  | state i =>
    simp only [step]
    split <;> rfl
  | publish symbol fn =>
    simp only [step]
    split
    · rfl
    · split
      · rfl
      · split <;> rfl
  | unpublish symbol =>
    simp only [step]
    split <;> rfl

end Session

open Factory in
/-- Binding types are cached per interface and configuration between two emptyings of the cache.
After requests since the cache was emptied: a key is uncached exactly when no generation of it
succeeded; a cached key is answered, without running the stages and changing nothing, the number
and type every success for it got; an uncached key is answered the stages' result under the next
number, cached if it succeeded and forgotten if it failed; the cache counts the keys that
succeeded; clearing it or changing the stages empties it. A session asks its factory only this way:
activating and generating request the type of their key. An activation that succeeds adds one
instance, of the type answered for its key and not disposed, and a step changes no instance but the
one it names. -/
theorem Factory.cache_per_key :
    (∀ (f : Factory σ ε) (rs : List Factory.Request), f.cache = [] → (∀ r ∈ rs, r.empties = false) →
      (∀ d c, (f.after rs).cache.lookup (d, c) = none ↔ (d, c) ∉ (f.successes rs).map (·.1)) ∧
      (∀ d c e, ((d, c), e) ∈ f.successes rs → (f.after rs).serve (.generate d c) = (some (.ok e), f.after rs)) ∧
      (∀ d c, (d, c) ∉ (f.successes rs).map (·.1) →
        (f.after rs).serve (.generate d c) =
          match BindingType.generate (f.after rs).stages ((f.after rs).input c) d with
          | .ok t => (some (.ok ((f.after rs).generated, t)),
              { f.after rs with cache := (f.after rs).cache ++ [((d, c), ((f.after rs).generated, t))],
                                generated := (f.after rs).generated + 1 })
          | .error err => (some (.error err), f.after rs)) ∧
      (f.after rs).cachedTypes = ((f.successes rs).map (·.1)).eraseDups.length ∧
      ((f.after rs).serve .clearCache).2.cachedTypes = 0 ∧
      ∀ stages, ((f.after rs).serve (.withPipeline stages)).2.cachedTypes = 0) ∧
    (∀ (s : Session) (st : Step),
      (s.step st).2.factory = ((st.request s.interface s.config).map fun r => (s.factory.serve r).2).getD s.factory) ∧
    (∀ (s : Session) d c i k res, (s.step (.activate d c)).1 = .ok (.activated i k res) →
      ∃ identity t b, (s.factory.serve (.generate (d.getD s.interface) (c.getD s.config))).1 = some (.ok (identity, t)) ∧
        b.type = t ∧ b.disposed = false ∧ i = s.instances.length ∧
        (s.step (.activate d c)).2.instances = s.instances ++ [b]) ∧
    (∀ (s : Session) (st : Step) j, j < s.instances.length → st.instance? ≠ some j →
      (s.step st).2.instances[j]? = s.instances[j]?) := by
  refine ⟨fun f rs hf hrs => ?_, Session.step_factory, fun s d c i k res h => Session.step_activate s h,
    fun s st j hj hst => Session.step_getElem?_of_ne s st hj hst⟩
  have h := (remembers_nil hf).after hrs
  rw [List.nil_append] at h
  refine ⟨fun d c => h.lookup_eq_none_iff, fun d c e he => serve_of_cached (h.answered _ e he),
    fun d c hn => serve_of_uncached (h.lookup_eq_none_iff.2 hn), h.cachedTypes, rfl, fun _ => rfl⟩

theorem calc_type_reused :
    ∃ t, ({} : Factory Native.State Native.NativeFunction).successes
          [.generate ⟨"Calc", []⟩ {}, .generate ⟨"Calc", []⟩ {}] =
        [((⟨"Calc", []⟩, {}), (0, t)), ((⟨"Calc", []⟩, {}), (0, t))] ∧
      (({} : Factory Native.State Native.NativeFunction).after
          [.generate ⟨"Calc", []⟩ {}, .generate ⟨"Calc", []⟩ {}]).serve (.generate ⟨"Calc", []⟩ {}) =
        (some (.ok (0, t)), ({} : Factory Native.State Native.NativeFunction).after
          [.generate ⟨"Calc", []⟩ {}, .generate ⟨"Calc", []⟩ {}]) ∧
      (({} : Factory Native.State Native.NativeFunction).after
          [.generate ⟨"Calc", []⟩ {}, .generate ⟨"Calc", []⟩ {}]).cachedTypes = 1 := by
  obtain ⟨t, ht⟩ : ∃ t, ({} : Factory Native.State Native.NativeFunction).successes
        [.generate ⟨"Calc", []⟩ {}, .generate ⟨"Calc", []⟩ {}] =
      [((⟨"Calc", []⟩, {}), (0, t)), ((⟨"Calc", []⟩, {}), (0, t))] := ⟨_, rfl⟩
  have h := Factory.cache_per_key.1 ({} : Factory Native.State Native.NativeFunction)
    [.generate ⟨"Calc", []⟩ {}, .generate ⟨"Calc", []⟩ {}] rfl (by decide)
  refine ⟨t, ht, h.2.1 _ _ _ (by rw [ht]; exact List.mem_cons_self ..), ?_⟩
  rw [h.2.2.2.1, ht]
  rfl

end NativeBridge
