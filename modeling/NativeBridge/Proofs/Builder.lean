import NativeBridge.Proofs.Layout
import Mathlib.Data.List.Forall2

/-!
A type builder over any run of calls.

A builder is held by one mutable reference while a type is generated; each call gives its reply
and leaves the builder as `declare`, `define` or `addSlot` leave it, whether it succeeds or not.
A refused declaration leaves the builder as it was because the name it refuses is already in the
set of names, and a refused definition changes nothing before it fails (`serve_failed`).
A run from the empty builder keeps a record of its history (`Records`): its methods are the
successful declarations in call order, numbered by position, each holding the body of its one
successful definition, its set of names holds the names declared, and its slots are those added,
in order. From it: the set of names agrees with the declared methods, a name is declared only
while no earlier declaration holds it, declarations are numbered 0, 1, 2, ... in call order, a
method is defined only once and only after it is declared, a slot's number is its position, and
finishing succeeds exactly when every declared method is defined, giving the methods and slots in
the order of the history.
-/

namespace NativeBridge

namespace TypeBuilder

inductive Call where
  | declare (name : String) (member : Nat)
  | define (id : Nat) (decl : MemberDecl) (body : AdapterBody)
  | addSlot (slot : SlotDef)

inductive Reply where
  | method (id : Nat)
  | defined
  | slot (id : Nat)
  | failed (e : Error)

def Reply.of (f : α → Reply) : Except Error α → Reply
  | .ok a => f a
  | .error e => .failed e

/-- Serve a call on a builder held by a mutable reference: the call's reply, and the builder the
call leaves behind, whether it succeeded or not. -/
def serve (b : TypeBuilder) : Call → Reply × TypeBuilder
  | .declare name member => (Reply.of .method (b.declare name member).1, (b.declare name member).2)
  | .define id decl body => (Reply.of (fun _ => .defined) (b.define id decl body).1, (b.define id decl body).2)
  | .addSlot slot => (.slot (b.addSlot slot).1, (b.addSlot slot).2)

def run (b : TypeBuilder) : List Call → List (Call × Reply) × TypeBuilder
  | [] => ([], b)
  | c :: cs => ((c, (b.serve c).1) :: ((b.serve c).2.run cs).1, ((b.serve c).2.run cs).2)

theorem Reply.of_eq_failed {f : α → Reply} {r : Except Error α} {e : Error} (hf : ∀ a, f a ≠ .failed e)
    (h : Reply.of f r = .failed e) : r = .error e := by
  cases r with
  | ok a => exact absurd h (hf a)
  | error e' => simpa [Reply.of] using h

theorem declare_failed {b : TypeBuilder} {name : String} {member : Nat} {e : Error}
    (h : (b.declare name member).1 = .error e) : (b.declare name member).2 = b := by
  by_cases hn : name ∈ b.names
  · simp [declare_of_mem hn]
  · simp [declare_of_not_mem hn] at h

theorem define_failed {b : TypeBuilder} {id : Nat} {decl : MemberDecl} {body : AdapterBody} {e : Error}
    (h : (b.define id decl body).1 = .error e) : (b.define id decl body).2 = b := by
  unfold define at h ⊢
  cases hm : b.methods[id]? with
  | none => rfl
  | some m =>
    by_cases hd : m.definition.isSome
    · simp [hd]
    · simp [hm, hd] at h

theorem serve_failed {b : TypeBuilder} {c : Call} {e : Error} (h : (b.serve c).1 = .failed e) :
    (b.serve c).2 = b := by
  cases c with
  | declare name member => exact declare_failed (Reply.of_eq_failed (fun _ => Reply.noConfusion) h)
  | define id decl body => exact define_failed (Reply.of_eq_failed (fun _ => Reply.noConfusion) h)
  | addSlot slot => cases h

structure Declared where
  name : String
  member : Nat
  id : Nat

def Declared.pending (defs : List (Nat × MemberDecl × AdapterBody)) (e : Declared) : PendingMethod :=
  ⟨e.name, e.member, defs.lookup e.id⟩

def declared? : Call × Reply → Option Declared
  | (.declare name member, .method id) => some ⟨name, member, id⟩
  | _ => none

def defined? : Call × Reply → Option (Nat × MemberDecl × AdapterBody)
  | (.define id decl body, .defined) => some (id, decl, body)
  | _ => none

def slot? : Call × Reply → Option SlotDef
  | (.addSlot slot, .slot _) => some slot
  | _ => none

variable (log : List (Call × Reply))

def declarations : List Declared := log.filterMap declared?

def definitions : List (Nat × MemberDecl × AdapterBody) := log.filterMap defined?

def slotsAdded : List SlotDef := log.filterMap slot?

def declaredNames : List String := (declarations log).map (·.name)

def declaredIds : List Nat := (declarations log).map (·.id)

def definedIds : List Nat := (definitions log).map (·.1)

/-- What the builder promises a call after the calls of `log`: a new name is declared under the
next number and a repeated one collides; a definition succeeds on a declared method not yet
defined; a slot is numbered by its position. -/
def Answers : Call → Reply → Prop
  | .declare name _, r =>
    if name ∈ declaredNames log then r = .failed (collision name) else r = .method (declarations log).length
  | .define id _ _, r =>
    if id ∈ declaredIds log ∧ id ∉ definedIds log then r = .defined else ∃ e, r = .failed e
  | .addSlot _, r => r = .slot (slotsAdded log).length

def Finished (e : Declared) (m : MethodDef) : Prop :=
  m.name = e.name ∧ m.member = e.member ∧ (definitions log).lookup e.id = some (m.decl, m.body)

/-- The builder holds what the history `log` did: the declared methods in order, each numbered by
its position and holding the body of its definition, the set of the names declared, and the slots
added, in order. -/
structure Records (b : TypeBuilder) : Prop where
  methods : b.methods = (declarations log).map (Declared.pending (definitions log))
  names : b.names = declaredNames log
  numbered : declaredIds log = List.range (declarations log).length
  defined : ∀ id ∈ definedIds log, id < (declarations log).length
  slots : b.slots = slotsAdded log

section Records

variable {log : List (Call × Reply)} {b : TypeBuilder}

theorem lookup_isSome_iff_mem {β : Type} (l : List (Nat × β)) (k : Nat) :
    (l.lookup k).isSome ↔ k ∈ l.map (·.1) := by
  rw [List.lookup_isSome_iff]
  simp only [beq_iff_eq, List.mem_map]
  exact ⟨fun ⟨p, hp, hk⟩ => ⟨p, hp, hk.symm⟩, fun ⟨p, hp, hk⟩ => ⟨p, hp, hk.symm⟩⟩

theorem mem_definedIds_iff {id : Nat} : id ∈ definedIds log ↔ ((definitions log).lookup id).isSome := by
  rw [definedIds, lookup_isSome_iff_mem]

theorem filterMap_append_one {β : Type} (f : Call × Reply → Option β) (x : Call × Reply) :
    (log ++ [x]).filterMap f = log.filterMap f ++ (f x).toList := by
  cases hx : f x <;> simp [List.filterMap_append, hx]

theorem declarations_append (x : Call × Reply) :
    declarations (log ++ [x]) = declarations log ++ (declared? x).toList :=
  filterMap_append_one declared? x

theorem definitions_append (x : Call × Reply) :
    definitions (log ++ [x]) = definitions log ++ (defined? x).toList :=
  filterMap_append_one defined? x

theorem slotsAdded_append (x : Call × Reply) :
    slotsAdded (log ++ [x]) = slotsAdded log ++ (slot? x).toList :=
  filterMap_append_one slot? x

theorem Declared.pending_append_of_ne (defs : List (Nat × MemberDecl × AdapterBody)) {e : Declared} {id : Nat}
    (x : MemberDecl × AdapterBody) (h : e.id ≠ id) : e.pending (defs ++ [(id, x)]) = e.pending defs := by
  have hne : (e.id == id) = false := by simpa using h
  have : ([(id, x)] : List (Nat × MemberDecl × AdapterBody)).lookup e.id = none := by
    simp [List.lookup_cons, List.lookup_nil, hne]
  simp [Declared.pending, List.lookup_append, this]

theorem Declared.pending_append_self {defs : List (Nat × MemberDecl × AdapterBody)} {e : Declared}
    (h : defs.lookup e.id = none) (x : MemberDecl × AdapterBody) :
    e.pending (defs ++ [(e.id, x)]) = { e.pending defs with definition := some x } := by
  simp [Declared.pending, List.lookup_append, h, List.lookup_cons_self]

theorem records_empty : ({} : TypeBuilder).Records [] :=
  ⟨rfl, rfl, rfl, by simp [definedIds, definitions], rfl⟩

namespace Records

variable (h : b.Records log)
include h

theorem length_methods : b.methods.length = (declarations log).length := by
  simp [h.methods]

theorem names_agree : b.names = b.methods.map (·.name) := by
  simp [h.names, h.methods, declaredNames, Declared.pending]

theorem mem_declaredIds {id : Nat} : id ∈ declaredIds log ↔ id < (declarations log).length := by
  rw [h.numbered, List.mem_range]

theorem id_eq {j : Nat} {e : Declared} (he : (declarations log)[j]? = some e) : e.id = j := by
  have hj : j < (declarations log).length := (List.getElem?_eq_some_iff.1 he).1
  have hid : (declaredIds log)[j]? = some e.id := by simp [declaredIds, he]
  rw [h.numbered, List.getElem?_range hj] at hid
  exact (Option.some.inj hid).symm

theorem lookup_eq_none {id : Nat} (hid : (declarations log).length ≤ id) :
    (definitions log).lookup id = none := by
  rw [← Option.not_isSome_iff_eq_none, ← mem_definedIds_iff]
  intro hmem
  have := h.defined id hmem
  omega

theorem getElem?_methods (id : Nat) :
    b.methods[id]? = ((declarations log)[id]?).map (Declared.pending (definitions log)) := by
  rw [h.methods, List.getElem?_map]

theorem methods_set {id : Nat} {e : Declared} (he : (declarations log)[id]? = some e)
    (hl : (definitions log).lookup id = none) (x : MemberDecl × AdapterBody) :
    b.methods.set id { e.pending (definitions log) with definition := some x } =
      (declarations log).map (Declared.pending (definitions log ++ [(id, x)])) := by
  have hei : e.id = id := h.id_eq he
  rw [h.methods]
  apply List.ext_getElem (by simp)
  intro j hj _
  have hj' : j < (declarations log).length := by simpa using hj
  simp only [List.getElem_set, List.getElem_map]
  split
  · rename_i hij
    subst hij
    have : (declarations log)[id] = e := by simpa [hj'] using he
    rw [this, ← hei, Declared.pending_append_self (by rw [hei]; exact hl)]
  · rename_i hij
    have hjid : (declarations log)[j].id = j := h.id_eq (List.getElem?_eq_getElem hj')
    rw [Declared.pending_append_of_ne _ _ (by rw [hjid]; exact Ne.symm hij)]

theorem keep {x : Call × Reply} (hx : declared? x = none) {b' : TypeBuilder}
    (hm : b'.methods = (declarations log).map (Declared.pending (definitions (log ++ [x]))))
    (hdef : ∀ id ∈ definedIds (log ++ [x]), id < (declarations log).length) (hn : b'.names = b.names)
    (hs : b'.slots = slotsAdded (log ++ [x])) : b'.Records (log ++ [x]) := by
  have hd : declarations (log ++ [x]) = declarations log := by simp [declarations_append, hx]
  exact ⟨by rw [hd]; exact hm, by rw [declaredNames, hd, hn]; exact h.names,
    by rw [declaredIds, hd]; exact h.numbered, by rw [hd]; exact hdef, hs⟩

theorem failed (c : Call) (e : Error) : b.Records (log ++ [(c, .failed e)]) := by
  -- a failure is no declaration, definition or slot, whatever the call
  have hf : definitions (log ++ [(c, .failed e)]) = definitions log := by
    cases c <;> simp [definitions_append, defined?]
  have hs : slotsAdded (log ++ [(c, .failed e)]) = slotsAdded log := by
    cases c <;> simp [slotsAdded_append, slot?]
  exact h.keep (by cases c <;> rfl) (by rw [hf, h.methods]) (by rw [definedIds, hf]; exact h.defined) rfl
    (by rw [hs, h.slots])

theorem serve_declare (name : String) (member : Nat) :
    (b.serve (.declare name member)).2.Records (log ++ [(.declare name member, (b.serve (.declare name member)).1)]) ∧
      Answers log (.declare name member) (b.serve (.declare name member)).1 := by
  by_cases hn : name ∈ declaredNames log
  · -- a name declared before collides
    have hs : b.serve (.declare name member) = (.failed (collision name), b) := by
      simp [serve, Reply.of, declare_of_mem (h.names ▸ hn : name ∈ b.names), collision]
    rw [hs]
    exact ⟨h.failed _ _, by simp [Answers, hn]⟩
  · -- a new name takes the next number, and no definition holds that number yet
    have hs : b.serve (.declare name member) =
        (.method (declarations log).length,
          { b with methods := b.methods ++ [{ name, member }], names := b.names ++ [name] }) := by
      simp [serve, Reply.of, declare_of_not_mem (h.names ▸ hn : name ∉ b.names), h.length_methods]
    have hfree := h.lookup_eq_none (Nat.le_refl _)
    rw [hs]
    have hd : declarations (log ++ [(.declare name member, .method (declarations log).length)]) =
        declarations log ++ [⟨name, member, (declarations log).length⟩] := by
      simp [declarations_append, declared?]
    have hf : definitions (log ++ [(.declare name member, .method (declarations log).length)]) = definitions log := by
      simp [definitions_append, defined?]
    have hs' : slotsAdded (log ++ [(.declare name member, .method (declarations log).length)]) = slotsAdded log := by
      simp [slotsAdded_append, slot?]
    refine ⟨⟨?_, ?_, ?_, ?_, ?_⟩, by simp [Answers, hn]⟩
    · simp [hd, hf, h.methods, Declared.pending, hfree]
    · simp [declaredNames, hd, h.names]
    · rw [declaredIds, hd, List.map_append, ← declaredIds, h.numbered]
      simp [List.range_succ]
    · intro id hid
      rw [definedIds, hf] at hid
      have := h.defined id hid
      simp [hd]
      omega
    · simp [hs', h.slots]

theorem serve_define (id : Nat) (decl : MemberDecl) (body : AdapterBody) :
    (b.serve (.define id decl body)).2.Records (log ++ [(.define id decl body, (b.serve (.define id decl body)).1)]) ∧
      Answers log (.define id decl body) (b.serve (.define id decl body)).1 := by
  cases he : (declarations log)[id]? with
  | none =>
    -- no declaration answered this number
    have hid : id ∉ declaredIds log := by
      rw [h.mem_declaredIds]
      simpa using he
    have hs : b.serve (.define id decl body) =
        (.failed (.generic ("method MethodId(" ++ toString id ++ ") was never declared")), b) := by
      simp [serve, Reply.of, define, h.getElem?_methods, he]
    rw [hs]
    exact ⟨h.failed _ _, by simp [Answers, hid]⟩
  | some e =>
    have hei : e.id = id := h.id_eq he
    have hlt : id < (declarations log).length := (List.getElem?_eq_some_iff.1 he).1
    cases hl : (definitions log).lookup id with
    | some p =>
      -- defined before: the body would be emitted twice
      have hdef : id ∈ definedIds log := by simp [mem_definedIds_iff, hl]
      have hs : b.serve (.define id decl body) = (.failed (.configuration e.name "method body emitted twice"), b) := by
        simp [serve, Reply.of, define, h.getElem?_methods, he, Declared.pending, hei, hl]
      rw [hs]
      exact ⟨h.failed _ _, by simp [Answers, hdef]⟩
    | none =>
      have hs : b.serve (.define id decl body) =
          (.defined, { b with methods := b.methods.set id { e.pending (definitions log) with
                                                            definition := some (decl, body) } }) := by
        simp [serve, Reply.of, define, h.getElem?_methods, he, Declared.pending, hei, hl]
      have hf : definitions (log ++ [(.define id decl body, .defined)]) = definitions log ++ [(id, decl, body)] := by
        simp [definitions_append, defined?]
      have hs' : slotsAdded (log ++ [(.define id decl body, .defined)]) = slotsAdded log := by
        simp [slotsAdded_append, slot?]
      rw [hs]
      refine ⟨h.keep rfl (by rw [hf]; exact h.methods_set he hl (decl, body)) ?_ rfl (by simp [hs', h.slots]), ?_⟩
      · intro id' hid'
        rw [definedIds, hf, List.map_append, List.mem_append] at hid'
        rcases hid' with hid' | hid'
        · exact h.defined id' hid'
        · simp only [List.map_cons, List.map_nil, List.mem_singleton] at hid'
          omega
      · have hnd : id ∉ definedIds log := by simp [mem_definedIds_iff, hl]
        simp [Answers, h.mem_declaredIds, hlt, hnd]

theorem serve_addSlot (slot : SlotDef) :
    (b.serve (.addSlot slot)).2.Records (log ++ [(.addSlot slot, (b.serve (.addSlot slot)).1)]) ∧
      Answers log (.addSlot slot) (b.serve (.addSlot slot)).1 := by
  have hs : b.serve (.addSlot slot) = (.slot (slotsAdded log).length, { b with slots := b.slots ++ [slot] }) := by
    simp [serve, addSlot, h.slots]
  have hf : definitions (log ++ [(.addSlot slot, .slot (slotsAdded log).length)]) = definitions log := by
    simp [definitions_append, defined?]
  have hs' : slotsAdded (log ++ [(.addSlot slot, .slot (slotsAdded log).length)]) = slotsAdded log ++ [slot] := by
    simp [slotsAdded_append, slot?]
  rw [hs]
  exact ⟨h.keep rfl (by rw [hf]; exact h.methods) (by rw [definedIds, hf]; exact h.defined) rfl
    (by rw [hs', h.slots]), rfl⟩

theorem serve (c : Call) : (b.serve c).2.Records (log ++ [(c, (b.serve c).1)]) ∧ Answers log c (b.serve c).1 := by
  cases c with
  | declare name member => exact h.serve_declare name member
  | define id decl body => exact h.serve_define id decl body
  | addSlot slot => exact h.serve_addSlot slot

theorem run (cs : List Call) :
    (b.run cs).2.Records (log ++ (b.run cs).1) ∧
      ∀ k c r, (b.run cs).1[k]? = some (c, r) → Answers (log ++ (b.run cs).1.take k) c r := by
  induction cs generalizing b log with
  | nil => exact ⟨by simpa [TypeBuilder.run] using h, by simp [TypeBuilder.run]⟩
  | cons c cs ih =>
    obtain ⟨h₁, hc⟩ := h.serve c
    obtain ⟨hrec, hans⟩ := ih h₁
    refine ⟨by simpa [TypeBuilder.run] using hrec, ?_⟩
    intro k c' r hk
    cases k with
    | zero =>
      simp only [TypeBuilder.run, List.getElem?_cons_zero, Option.some.injEq, Prod.mk.injEq] at hk
      obtain ⟨rfl, rfl⟩ := hk
      simpa using hc
    | succ k =>
      simp only [TypeBuilder.run, List.getElem?_cons_succ] at hk
      simpa [TypeBuilder.run] using hans k c' r hk

end Records

end Records

theorem finishMethods_eq_ok_iff {ps : List PendingMethod} {ms : List MethodDef} :
    finishMethods ps = .ok ms ↔
      List.Forall₂ (fun p m => m.name = p.name ∧ m.member = p.member ∧ p.definition = some (m.decl, m.body)) ps ms := by
  induction ps generalizing ms with
  | nil => cases ms <;> simp [finishMethods]
  | cons p ps ih =>
    cases hp : p.definition with
    | none =>
      -- a method without a body: finishing fails, and no finished method matches it
      cases ms <;> simp [finishMethods, hp]
    | some d =>
      obtain ⟨decl, body⟩ := d
      cases hrest : finishMethods ps with
      | error err =>
        -- the rest fails, so no list of methods matches it
        have : ∀ ms', ¬ List.Forall₂ _ ps ms' := fun ms' hms => by
          have := ih.2 hms
          rw [hrest] at this
          cases this
        cases ms <;> simp_all [finishMethods, bind, Except.bind]
      | ok rest =>
        cases ms with
        | nil => simp [finishMethods, hp, hrest, bind, Except.bind, pure, Except.pure]
        | cons m ms =>
          simp only [finishMethods, hp, hrest, bind, Except.bind, pure, Except.pure, Except.ok.injEq,
            List.cons.injEq, List.forall₂_cons, ← ih, Option.some.injEq, Prod.mk.injEq]
          constructor
          · rintro ⟨rfl, rfl⟩
            exact ⟨⟨rfl, rfl, rfl, rfl⟩, rfl⟩
          · rintro ⟨⟨h₁, h₂, h₃, h₄⟩, h₅⟩
            cases m
            simp_all

theorem finishMethods_isOk_iff {ps : List PendingMethod} :
    (∃ ms, finishMethods ps = .ok ms) ↔ ∀ p ∈ ps, p.definition.isSome := by
  induction ps with
  | nil => simp [finishMethods]
  | cons p ps ih =>
    cases hp : p.definition with
    | none => simp [finishMethods, hp]
    | some d =>
      simp only [finishMethods, hp, List.mem_cons, forall_eq_or_imp, Option.isSome_some, true_and, ← ih]
      cases finishMethods ps <;> simp [bind, Except.bind, pure, Except.pure]

theorem finish_eq_ok_iff {b : TypeBuilder} {ms : List MethodDef} {ss : List SlotDef} :
    b.finish = .ok (ms, ss) ↔ finishMethods b.methods = .ok ms ∧ ss = b.slots := by
  simp only [finish, bind, Except.bind, pure, Except.pure]
  cases finishMethods b.methods <;> simp [eq_comm]

theorem run_failed {b : TypeBuilder} {cs : List Call} {k : Nat} {c : Call} {e : Error}
    (hk : (b.run cs).1[k]? = some (c, .failed e)) : (b.run (cs.take (k + 1))).2 = (b.run (cs.take k)).2 := by
  induction cs generalizing b k with
  | nil => simp [run] at hk
  | cons c' cs ih =>
    cases k with
    | zero =>
      simp only [run, List.getElem?_cons_zero, Option.some.injEq, Prod.mk.injEq] at hk
      obtain ⟨rfl, he⟩ := hk
      simp [run, serve_failed he]
    | succ k =>
      simp only [run, List.getElem?_cons_succ] at hk
      simpa [run] using ih hk

theorem run_calls (b : TypeBuilder) (cs : List Call) : (b.run cs).1.map (·.1) = cs := by
  induction cs generalizing b with
  | nil => rfl
  | cons c cs ih => simp [run, ih]

namespace Records

variable {log : List (Call × Reply)} {b : TypeBuilder} (h : b.Records log)
include h

theorem finish_eq_ok_iff {ms : List MethodDef} {ss : List SlotDef} :
    b.finish = .ok (ms, ss) ↔ ss = slotsAdded log ∧ List.Forall₂ (Finished log) (declarations log) ms := by
  rw [TypeBuilder.finish_eq_ok_iff, finishMethods_eq_ok_iff, h.methods, List.forall₂_map_left_iff, h.slots, and_comm]
  rfl

theorem finish_isOk_iff : (∃ r, b.finish = .ok r) ↔ ∀ id ∈ declaredIds log, id ∈ definedIds log := by
  have : (∃ r, b.finish = .ok r) ↔ ∃ ms, finishMethods b.methods = .ok ms := by
    constructor
    · rintro ⟨⟨ms, ss⟩, hr⟩
      exact ⟨ms, (TypeBuilder.finish_eq_ok_iff.1 hr).1⟩
    · rintro ⟨ms, hms⟩
      exact ⟨(ms, b.slots), TypeBuilder.finish_eq_ok_iff.2 ⟨hms, rfl⟩⟩
  rw [this, finishMethods_isOk_iff, h.methods]
  simp [declaredIds, mem_definedIds_iff, Declared.pending]

end Records

/-- Every run of calls from the empty builder keeps the builder's contract. Each call is answered
as the calls before it allow: a name is declared only when no earlier declaration holds it, under
the number of declarations before it, a method is defined only when it is declared and not yet
defined, and a slot gets its position; a failed call leaves the builder as it was. Afterwards the
declarations are numbered 0, 1, 2, ... in call order, the builder's set of names holds the declared
names and agrees with its methods, its slots are those added, and finishing succeeds exactly when every declared method is defined,
with the methods in declaration order, each with its name, member and the body its definition
gave, and the slots in the order added. -/
theorem calls_follow_contract (calls : List Call) :
    let log := (run {} calls).1
    let b := (run {} calls).2
    log.map (·.1) = calls ∧
    (∀ k c r, log[k]? = some (c, r) → Answers (log.take k) c r) ∧
    (∀ k c e, log[k]? = some (c, .failed e) → (run {} (calls.take (k + 1))).2 = (run {} (calls.take k)).2) ∧
    declaredIds log = List.range (declarations log).length ∧
    b.names = declaredNames log ∧ b.names = b.methods.map (·.name) ∧
    b.slots = slotsAdded log ∧
    ((∃ r, b.finish = .ok r) ↔ ∀ id ∈ declaredIds log, id ∈ definedIds log) ∧
    ∀ ms ss, b.finish = .ok (ms, ss) ↔ ss = slotsAdded log ∧ List.Forall₂ (Finished log) (declarations log) ms := by
  intro log b
  obtain ⟨hrec, hans⟩ := records_empty.run calls
  simp only [List.nil_append] at hrec hans
  exact ⟨run_calls {} calls, hans, fun _ _ _ hk => run_failed hk, hrec.numbered, hrec.names, hrec.names_agree, hrec.slots,
    hrec.finish_isOk_iff, fun _ _ => hrec.finish_eq_ok_iff⟩

end TypeBuilder

end NativeBridge
