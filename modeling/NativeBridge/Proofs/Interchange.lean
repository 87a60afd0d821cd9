import NativeBridge.Proofs.Codec
import NativeBridge.Decl.Interchange

/-!
Declarations read back from their JSON text, through any codec that obeys the laws of
`Codec.Lawful`.

Each record of a declaration is read from an object of its fields (`Record.Fills`): a field's key
names the slot of the reader's state that the field's value fills, and `fill` says which value
the declaration holds there. The slots are distinct, so the fields may come in any order; a field
left out of the text (an absent symbol or convention) leaves its slot empty, which the reader
takes as absent. From these, an interface is read back from its written text and from every other
text of the same document (`InterfaceDecl.ofJson_roundTrip`).
-/

namespace NativeBridge

open Json

namespace Interchange

def put {β : Type} (key : String) (v : β) (k : String) (old : Option β) : Option β :=
  if k = key then some v else old

section Put

variable {β : Type} {key k k' : String} {v : β} {old : Option β}

@[simp] theorem put_self : put key v key old = some v := if_pos rfl

theorem put_of_ne (h : k ≠ key) : put key v k old = old := if_neg h

theorem put_comm : put key v k (put key v k' old) = put key v k' (put key v k old) := by
  unfold put
  by_cases hk : k = key <;> by_cases hk' : k' = key <;> simp [hk, hk']

end Put

end Interchange

-- What reading the field named `k` of a declaration's object puts into the reader's state.
def ParamDecl.fill (p : ParamDecl) (k : String) (s : Interchange.ParamFields) : Interchange.ParamFields where
  name := Interchange.put "name" p.name k s.name
  ty := Interchange.put "ty" p.ty k s.ty
  ownership := Interchange.put "ownership" p.ownership k s.ownership

def ReturnDecl.fill (r : ReturnDecl) (k : String) (s : Interchange.ReturnFields) : Interchange.ReturnFields where
  ty := Interchange.put "ty" r.ty k s.ty
  ownership := Interchange.put "ownership" r.ownership k s.ownership

def MemberDecl.fill (m : MemberDecl) (k : String) (s : Interchange.MemberFields) : Interchange.MemberFields where
  name := Interchange.put "name" m.name k s.name
  params := Interchange.put "params" m.params k s.params
  ret := Interchange.put "ret" m.ret k s.ret
  symbol := Interchange.put "symbol" m.symbol k s.symbol
  convention := Interchange.put "convention" m.convention k s.convention

def InterfaceDecl.fill (d : InterfaceDecl) (k : String) (s : Interchange.InterfaceFields) :
    Interchange.InterfaceFields where
  name := Interchange.put "name" d.name k s.name
  members := Interchange.put "members" d.members k s.members

namespace Interchange

variable {c : Codec} {Reads : ∀ {α : Type}, c.Reader α → Json → α → Prop} (laws : c.Lawful Reads)
include laws

theorem unitEnum_reads {γ : Type} [Inhabited γ] {all : List γ} {key : γ → String} {x : γ}
    (hx : ∃ k, (all.map key).idxOf? (key x) = some k ∧ all[k]! = x) :
    Reads (unitEnum c all key) (.str (key x)) x := by
  obtain ⟨k, hk, hx⟩ := hx
  have h := laws.map (fun k => all[k]!) (laws.unitVariant hk)
  simp only [hx] at h
  exact h

theorem nativeType_reads (t : NativeType) : Reads (nativeType c) (.str t.key) t :=
  unitEnum_reads laws (by cases t <;> exact ⟨_, rfl, rfl⟩)

theorem ownership_reads (o : Ownership) : Reads (ownership c) (.str o.key) o :=
  unitEnum_reads laws (by cases o <;> exact ⟨_, rfl, rfl⟩)

theorem convention_reads (conv : Convention) : Reads (convention c) (.str conv.key) conv :=
  unitEnum_reads laws (by cases conv <;> exact ⟨_, rfl, rfl⟩)

theorem typeRef_reads (t : TypeRef) : Reads (typeRef c) t.toJson t := by
  cases t with
  | native t | nullable t => exact laws.dataVariant rfl (laws.map _ (nativeType_reads laws t))
  | named k => exact laws.dataVariant rfl (laws.map _ (laws.string k))

theorem param_reads (p : ParamDecl) : Reads (param c) p.toJson p := by
  refine laws.record (⟨by simp, ?_, ?_, rfl⟩ : Record.Fills Reads _ p.fill _ _)
  · simp only [List.mem_cons, List.mem_nil_iff, or_false]
    rintro f (rfl | rfl | rfl)
    · exact ⟨0, rfl, rfl, fun k hk s => by simp only [ParamDecl.fill, put_of_ne hk],
        fun s => laws.map (fun x => { s with name := some x }) (laws.string p.name)⟩
    · exact ⟨1, rfl, rfl, fun k hk s => by simp only [ParamDecl.fill, put_of_ne hk],
        fun s => laws.map (fun x => { s with ty := some x }) (typeRef_reads laws p.ty)⟩
    · exact ⟨2, rfl, rfl, fun k hk s => by simp only [ParamDecl.fill, put_of_ne hk],
        fun s => laws.map (fun x => { s with ownership := some x }) (ownership_reads laws p.ownership)⟩
  · intro k k' s
    simp only [ParamDecl.fill, put_comm]

theorem ret_reads (r : ReturnDecl) : Reads (ret c) r.toJson r := by
  refine laws.record (⟨by simp, ?_, ?_, rfl⟩ : Record.Fills Reads _ r.fill _ _)
  · simp only [List.mem_cons, List.mem_nil_iff, or_false]
    rintro f (rfl | rfl)
    · exact ⟨0, rfl, rfl, fun k hk s => by simp only [ReturnDecl.fill, put_of_ne hk],
        fun s => laws.map (fun x => { s with ty := some x }) (typeRef_reads laws r.ty)⟩
    · exact ⟨1, rfl, rfl, fun k hk s => by simp only [ReturnDecl.fill, put_of_ne hk],
        fun s => laws.map (fun x => { s with ownership := some x }) (ownership_reads laws r.ownership)⟩
  · intro k k' s
    simp only [ReturnDecl.fill, put_comm]

theorem member_reads (m : MemberDecl) : Reads (member c) m.toJson m := by
  obtain ⟨name, params, ret, symbol, convention⟩ := m
  refine laws.record
    (⟨?_, ?_, ?_, ?_⟩ : Record.Fills Reads _ (MemberDecl.fill ⟨name, params, ret, symbol, convention⟩) _ _)
  · cases symbol <;> cases convention <;> simp
  · intro f hf
    simp only [List.mem_append, List.mem_cons, List.mem_nil_iff, or_false] at hf
    -- the symbol and the convention are written only when present, so only then is there a field
    rcases hf with ((rfl | rfl | rfl) | hsym) | hconv
    · exact ⟨0, rfl, rfl, fun k hk s => by simp only [MemberDecl.fill, put_of_ne hk],
        fun s => laws.map (fun x => { s with name := some x }) (laws.string name)⟩
    · exact ⟨1, rfl, rfl, fun k hk s => by simp only [MemberDecl.fill, put_of_ne hk],
        fun s => laws.map (fun x => { s with params := some x })
          (laws.list_obj (fun _ _ => ⟨_, rfl⟩) fun p _ => param_reads laws p)⟩
    · exact ⟨2, rfl, rfl, fun k hk s => by simp only [MemberDecl.fill, put_of_ne hk],
        fun s => laws.map (fun x => { s with ret := some x }) (ret_reads laws ret)⟩
    · cases symbol with
      | none => simp at hsym
      | some x =>
        simp only [Option.map_some, Option.getD_some, List.mem_cons, List.mem_nil_iff, or_false] at hsym
        subst hsym
        exact ⟨3, rfl, rfl, fun k hk s => by simp only [MemberDecl.fill, put_of_ne hk],
          fun s => laws.map (fun y => { s with symbol := some y }) (laws.option_str (laws.string x))⟩
    · cases convention with
      | none => simp at hconv
      | some conv =>
        simp only [Option.map_some, Option.getD_some, List.mem_cons, List.mem_nil_iff, or_false] at hconv
        subst hconv
        exact ⟨4, rfl, rfl, fun k hk s => by simp only [MemberDecl.fill, put_of_ne hk],
          fun s => laws.map (fun y => { s with convention := some y }) (laws.option_str (convention_reads laws conv))⟩
  · intro k k' s
    simp only [MemberDecl.fill, put_comm]
  · cases symbol <;> cases convention <;> rfl

theorem interface_reads (d : InterfaceDecl) : Reads (interface c) d.toJson d := by
  refine laws.record (⟨by simp, ?_, ?_, rfl⟩ : Record.Fills Reads _ d.fill _ _)
  · simp only [List.mem_cons, List.mem_nil_iff, or_false]
    rintro f (rfl | rfl)
    · exact ⟨0, rfl, rfl, fun k hk s => by simp only [InterfaceDecl.fill, put_of_ne hk],
        fun s => laws.map (fun x => { s with name := some x }) (laws.string d.name)⟩
    · exact ⟨1, rfl, rfl, fun k hk s => by simp only [InterfaceDecl.fill, put_of_ne hk],
        fun s => laws.map (fun x => { s with members := some x })
          (laws.list_obj (fun _ _ => ⟨_, rfl⟩) fun m _ => member_reads laws m)⟩
  · intro k k' s
    simp only [InterfaceDecl.fill, put_comm]

end Interchange

/-- With a codec that escapes strings faithfully and whose derived readers follow the declarations'
attributes, reading the written text of an interface gives the interface back, and so does reading
any other text of the same document: its fields in any order and any blanks between its tokens. -/
theorem InterfaceDecl.ofJson_roundTrip (c : Codec) {Reads : ∀ {α : Type}, c.Reader α → Json → α → Prop}
    (laws : c.Lawful Reads) (d : InterfaceDecl) :
    InterfaceDecl.ofJson c (d.render c) = .ok d ∧ ∀ s, Layout d.toJson s → InterfaceDecl.ofJson c s = .ok d := by
  have hread : ∀ s, Layout d.toJson s → InterfaceDecl.ofJson c s = .ok d := by
    intro s hs
    rw [InterfaceDecl.ofJson, laws.run (Interchange.interface_reads laws d) hs]
    rfl
  exact ⟨hread _ (laws.writePretty _), hread⟩

/-- The interface of the declaration tests: `Multiply(a: i32, b: i32)` returning a `string` the
caller frees, exported as `mul`. -/
def calcDecl : InterfaceDecl where
  name := "Calc"
  members := [{
    name := "Multiply"
    params := [{ name := "a", ty := .native .i32 }, { name := "b", ty := .native .i32 }]
    ret := { ty := .named "string", ownership := .callerFrees }
    symbol := some "mul" }]

set_option maxRecDepth 2000 in
theorem calcDecl_sorted_roundTrip :
    Codec.scan.Lawful ReadsJson ∧
    InterfaceDecl.ofJson Codec.scan "\x7b\"members\":[\x7b\"name\":\"Multiply\",\"params\":[\x7b\"name\":\"a\",\"ownership\":\"native_frees\",\"ty\":\x7b\"native\":\"i32\"\x7d\x7d,\x7b\"name\":\"b\",\"ownership\":\"native_frees\",\"ty\":\x7b\"native\":\"i32\"\x7d\x7d],\"ret\":\x7b\"ownership\":\"caller_frees\",\"ty\":\x7b\"named\":\"string\"\x7d\x7d,\"symbol\":\"mul\"\x7d],\"name\":\"Calc\"\x7d" = .ok calcDecl := by
  -- each object of the text, built from the inside out; the sorted order is a permutation of the written one
  have hnative : Text (TypeRef.native .i32).toJson _ := Text.objOne (k := "native") Gap.nil Gap.nil Gap.nil (.str "i32") Gap.nil
  have hparam : ∀ n : String, Text (ParamDecl.toJson { name := n, ty := .native .i32 }) _ := fun n =>
    Text.perm (.cons _ (.swap _ _ _))
      (Text.objCons (k := "name") Gap.nil Gap.nil Gap.nil (.str n) Gap.nil
        (Text.objCons (k := "ownership") Gap.nil Gap.nil Gap.nil (.str "native_frees") Gap.nil
          (Text.objOne (k := "ty") Gap.nil Gap.nil Gap.nil hnative Gap.nil) (List.cons_ne_nil _ _)) (List.cons_ne_nil _ _))
  have hret : Text (ReturnDecl.toJson { ty := .named "string", ownership := .callerFrees }) _ :=
    Text.perm (.swap _ _ _)
      (Text.objCons (k := "ownership") Gap.nil Gap.nil Gap.nil (.str "caller_frees") Gap.nil
        (Text.objOne (k := "ty") Gap.nil Gap.nil Gap.nil
          (Text.objOne (k := "named") Gap.nil Gap.nil Gap.nil (.str "string") Gap.nil) Gap.nil) (List.cons_ne_nil _ _))
  have hmember :=
    Text.objCons (k := "name") Gap.nil Gap.nil Gap.nil (.str "Multiply") Gap.nil
      (Text.objCons (k := "params") Gap.nil Gap.nil Gap.nil
        (Text.arrCons Gap.nil (hparam "a") Gap.nil (Text.arrOne Gap.nil (hparam "b") Gap.nil) (List.cons_ne_nil _ _)) Gap.nil
        (Text.objCons (k := "ret") Gap.nil Gap.nil Gap.nil hret Gap.nil
          (Text.objOne (k := "symbol") Gap.nil Gap.nil Gap.nil (.str "mul") Gap.nil) (List.cons_ne_nil _ _))
        (List.cons_ne_nil _ _)) (List.cons_ne_nil _ _)
  have hdecl : Text calcDecl.toJson _ :=
    Text.perm (.swap _ _ _)
      (Text.objCons (k := "members") Gap.nil Gap.nil Gap.nil (Text.arrOne Gap.nil hmember Gap.nil) Gap.nil
        (Text.objOne (k := "name") Gap.nil Gap.nil Gap.nil (.str "Calc") Gap.nil) (List.cons_ne_nil _ _))
  exact ⟨Codec.scan_lawful, (InterfaceDecl.ofJson_roundTrip Codec.scan Codec.scan_lawful calcDecl).2 _
    ⟨[], _, [], Gap.nil, hdecl, Gap.nil, by simp only [bytesOf_quote]; decide⟩⟩

end NativeBridge
