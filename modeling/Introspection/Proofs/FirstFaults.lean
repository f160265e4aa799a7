import Introspection.Proofs.Grammar
import Introspection.Proofs.Standing
/-!
# What readings end with

For each reading it is told just which values it can give and just which faults it can end with.
A list is read item by item, so that it ends with the fault of the first item that has one.
-/

namespace Introspection

def FirstFault {α : Type} (P : α → Fault → Prop) (items : List α) (fault : Fault) : Prop :=
  ∃ before item after, items = before ++ item :: after ∧
    (∀ other ∈ before, ∀ f, ¬ P other f) ∧ P item fault

section

variable {α : Type} {P : α → Fault → Prop} {fault : Fault}

theorem not_firstFault_nil : ¬ FirstFault P [] fault := by
  rintro ⟨before, item, after, h, -⟩
  exact List.append_ne_nil_of_right_ne_nil before (List.cons_ne_nil item after) h.symm

theorem firstFault_cons {item : α} {items : List α} :
    FirstFault P (item :: items) fault ↔
      P item fault ∨ (∀ f, ¬ P item f) ∧ FirstFault P items fault := by
  constructor
  · rintro ⟨_ | ⟨first, before⟩, found, after, h, hbefore, hfault⟩
    · obtain ⟨rfl, rfl⟩ := List.cons.inj h
      exact .inl hfault
    · obtain ⟨rfl, rfl⟩ := List.cons.inj h
      obtain ⟨hitem, hbefore⟩ := List.forall_mem_cons.mp hbefore
      exact .inr ⟨hitem, before, found, after, rfl, hbefore, hfault⟩
  · rintro (h | ⟨hitem, before, found, after, rfl, hbefore, hfault⟩)
    · exact ⟨[], item, items, rfl, by simp, h⟩
    · exact ⟨item :: before, found, after, rfl, List.forall_mem_cons.mpr ⟨hitem, hbefore⟩, hfault⟩

theorem firstFault_map {β : Type} {f : β → α} {items : List β} :
    FirstFault P (items.map f) fault ↔ FirstFault (fun item => P (f item)) items fault := by
  induction items with
  | nil => simp only [List.map_nil, not_firstFault_nil]
  | cons item items ih => rw [List.map_cons, firstFault_cons, firstFault_cons, ih]

end

namespace Reading

variable {α β : Type}

/-- A reading that gives just the values of `V` and ends with just the faults of `P`. -/
structure EndsJust (V : α → Prop) (P : Fault → Prop) (r : Reading α) : Prop where
  ok : ∀ a, r.result = .ok a ↔ V a
  error : ∀ fault, r.result = .error fault ↔ P fault

variable {V : α → Prop} {W : β → Prop} {P Q : Fault → Prop} {r : Reading α}

theorem EndsJust.exists_ok_or (h : r.EndsJust V P) : (∃ a, V a) ∨ ∃ fault, P fault := by
  cases hr : r.result with
  | ok a => exact .inl ⟨a, (h.ok a).mp hr⟩
  | error fault => exact .inr ⟨fault, (h.error fault).mp hr⟩

theorem EndsJust.not_error (h : r.EndsJust V P) {a : α} (ha : V a) (fault : Fault) :
    ¬ P fault := by
  rw [← h.error, (h.ok a).mpr ha]
  simp

theorem EndsJust.unique (h : r.EndsJust V P) {a b : α} (ha : V a) (hb : V b) : a = b := by
  rw [← h.ok] at ha hb
  exact Except.ok.inj (ha.symm.trans hb)

theorem EndsJust.congr {V' : α → Prop} (h : r.EndsJust V P) (hV : ∀ a, V a ↔ V' a)
    (hP : ∀ fault, P fault ↔ Q fault) : r.EndsJust V' Q where
  ok a := (h.ok a).trans (hV a)
  error fault := (h.error fault).trans (hP fault)

theorem endsJust_pure (a : α) : (pure a : Reading α).EndsJust (· = a) fun _ => False where
  ok b := by
    show Except.ok a = Except.ok b ↔ b = a
    rw [Except.ok.injEq, eq_comm]
  error fault := by
    show Except.ok a = Except.error fault ↔ False
    simp

theorem endsJust_bind {next : α → Reading β} {W : α → β → Prop} {Q : α → Fault → Prop}
    (hr : r.EndsJust V P) (hnext : ∀ a, V a → (next a).EndsJust (W a) (Q a)) :
    (r >>= next).EndsJust (fun b => ∃ a, V a ∧ W a b) fun fault =>
      P fault ∨ ∃ a, V a ∧ Q a fault := by
  cases h : r.result with
  | error fault =>
      have hfault : P fault := (hr.error fault).mp h
      have hnone : ∀ a, ¬ V a := fun a ha => hr.not_error ha fault hfault
      constructor
      · intro b
        rw [result_bind, h]
        simp [hnone, bind, Except.bind]
      · intro other
        rw [result_bind, h, ← hr.error, h]
        simp [hnone, bind, Except.bind]
  | ok a =>
      have ha : V a := (hr.ok a).mp h
      have honly : ∀ b, V b ↔ b = a := fun b => ⟨fun hb => hr.unique hb ha, fun hb => hb ▸ ha⟩
      constructor
      · intro b
        rw [result_bind, h]
        simp only [honly, exists_eq_left, ← (hnext a ha).ok]
        rfl
      · intro fault
        rw [result_bind, h, ← hr.error, h]
        simp only [honly, exists_eq_left, ← (hnext a ha).error, reduceCtorEq, false_or]
        rfl

theorem endsJust_map {f : α → β} (hr : r.EndsJust V P) :
    (f <$> r).EndsJust (fun b => ∃ a, V a ∧ b = f a) P := by
  rw [← bind_pure_comp]
  refine (endsJust_bind hr fun a _ => endsJust_pure (f a)).congr (fun b => Iff.rfl) ?_
  simp

theorem endsJust_require {fault : Fault} {found : Option α} :
    (require fault found).EndsJust (found = some ·) fun f => found = none ∧ f = fault := by
  cases found with
  | none => constructor <;> simp [require, fail, eq_comm]
  | some a => constructor <;> simp [require, pure]

theorem endsJust_mapM {read : α → Reading β} {V : α → β → Prop} {P : α → Fault → Prop}
    {items : List α} (h : ∀ item ∈ items, (read item).EndsJust (V item) (P item)) :
    (items.mapM read).EndsJust (List.Forall₂ V items) (FirstFault P items) := by
  induction items with
  | nil =>
      rw [List.mapM_nil]
      refine (endsJust_pure []).congr ?_ ?_
      · simp
      · simp [not_firstFault_nil]
  | cons item items ih =>
      obtain ⟨hitem, hitems⟩ := List.forall_mem_cons.mp h
      rw [List.mapM_cons]
      refine (endsJust_bind hitem fun a _ => endsJust_bind (ih hitems) fun as _ =>
        endsJust_pure (a :: as)).congr ?_ ?_
      · intro bs
        simp only [List.forall₂_cons_left_iff]
        constructor
        · rintro ⟨a, ha, as, has, rfl⟩
          exact ⟨a, as, ha, has, rfl⟩
        · rintro ⟨a, as, ha, has, rfl⟩
          exact ⟨a, ha, as, has, rfl⟩
      · intro fault
        rw [firstFault_cons]
        -- The item either has a value, or it has a fault, which then is the first one.
        rcases hitem.exists_ok_or with ⟨a, ha⟩ | ⟨found, hfound⟩
        · have hnone : ∀ f, ¬ P item f := hitem.not_error ha
          have hsome : ∃ a, V item a := ⟨a, ha⟩
          simp [hnone, hsome]
        · have hnone : ∀ a, ¬ V item a := fun a ha => hitem.not_error ha found hfound
          simp only [hnone, false_and, exists_false, or_false]
          constructor
          · exact .inl
          · rintro (hfault | ⟨hfree, -⟩)
            · exact hfault
            · exact absurd hfound (hfree found)

end Reading

open Reading

/-! ## Records -/

/-- A reference is read as the grammar has it. -/
theorem TypeRef.endsJust_read (node : Json) :
    (TypeRef.read node).EndsJust (Mirrors · node) fun fault => (read node).result = .error fault :=
  ⟨fun _ => result_read_eq_ok_iff, fun _ => Iff.rfl⟩

namespace Record

inductive Without (r : Record) (key : String) : Fault → Prop
  | notObject (other : r.json.isObject = false) : Without r key (.notObject r.place)
  | missing (object : r.json.isObject = true) (absent : r.json.member? key = none) :
      Without r key (.missing key r.place)

inductive Wrong (r : Record) (key : String) (shape : Shape) : Fault → Prop
  | without {fault : Fault} (none : r.Without key fault) : Wrong r key shape fault
  | unexpected {value : Json} (found : r.json.member? key = some value)
      (other : shape.fits value = false) : Wrong r key shape (.unexpected key shape r.place)

inductive Untyped (r : Record) : Fault → Prop
  | without {fault : Fault} (none : r.Without "type" fault) : Untyped r fault
  | unread {node : Json} {fault : Fault} (found : r.json.member? "type" = some node)
      (refused : (TypeRef.read node).result = .error fault) : Untyped r fault

variable (r : Record) (key : String)

theorem endsJust_fetch :
    (r.fetch key).EndsJust (r.json.member? key = some ·) (r.Without key) := by
  refine ⟨fun value => result_fetch_eq_ok, fun fault => ?_⟩
  cases hobject : r.json.isObject with
  | false =>
      rw [fetch, member_of_not_object hobject]
      constructor
      · intro h
        cases h
        exact .notObject hobject
      · rintro (_ | ⟨object, -⟩)
        · rfl
        · rw [hobject] at object
          cases object
  | true =>
      cases hfound : r.json.member? key with
      | some value =>
          rw [fetch_of_member? hfound]
          constructor
          · intro h
            cases h
          · rintro (other | ⟨-, absent⟩)
            · rw [hobject] at other
              cases other
            · rw [hfound] at absent
              cases absent
      | none =>
          rw [fetch, member_of_lacks (lacks_of_isObject hobject hfound)]
          constructor
          · intro h
            cases h
            exact .missing hobject hfound
          · rintro (other | _)
            · rw [hobject] at other
              cases other
            · rfl

variable {r key}

/-- A value that is read by its shape alone. -/
theorem endsJust_of_fits {α : Type} {shape : Shape} {write : α → Json} {read : Json → Reading α}
    (hfits : ∀ value, shape.fits value = true → ∃ a, value = write a)
    (hread : ∀ a, shape.fits (write a) = true ∧ (read (write a)).result = .ok a)
    (hother : ∀ value, shape.fits value = false →
      (read value).result = .error (.unexpected key shape r.place)) :
    (r.fetch key >>= read).EndsJust (fun a => r.json.member? key = some (write a))
      (r.Wrong key shape) := by
  have hvalue : ∀ value, (read value).EndsJust (fun a => value = write a) fun fault =>
      shape.fits value = false ∧ fault = .unexpected key shape r.place := by
    intro value
    cases hshape : shape.fits value with
    | false =>
        have hnone : ∀ a, value ≠ write a := by
          rintro a rfl
          rw [(hread a).1] at hshape
          cases hshape
        constructor <;> simp [hother value hshape, hnone, eq_comm]
    | true =>
        obtain ⟨a, rfl⟩ := hfits value hshape
        refine ⟨fun b => ?_, by simp [(hread a).2]⟩
        rw [(hread a).2, Except.ok.injEq]
        constructor
        · rintro rfl
          rfl
        · intro h
          have hsame := (hread b).2
          rw [← h, (hread a).2] at hsame
          exact Except.ok.inj hsame
  refine (endsJust_bind (r.endsJust_fetch key) fun value _ => hvalue value).congr ?_ ?_
  · simp
  · intro fault
    constructor
    · rintro (h | ⟨value, hfound, hshape, rfl⟩)
      · exact .without h
      · exact .unexpected hfound hshape
    · rintro (h | ⟨hfound, hshape⟩)
      · exact .inl h
      · exact .inr ⟨_, hfound, hshape, rfl⟩

variable (r key)

theorem endsJust_string :
    (r.string key).EndsJust (fun s => r.json.member? key = some (.str s))
      (r.Wrong key .string) := by
  apply endsJust_of_fits
  · intro value h
    cases value <;> first | exact ⟨_, rfl⟩ | cases h
  · exact fun s => ⟨rfl, rfl⟩
  · intro value h
    cases value <;> first | rfl | cases h

theorem endsJust_bool :
    (r.bool key).EndsJust (fun b => r.json.member? key = some (.bool b)) (r.Wrong key .bool) := by
  apply endsJust_of_fits
  · intro value h
    cases value <;> first | exact ⟨_, rfl⟩ | cases h
  · exact fun b => ⟨rfl, rfl⟩
  · intro value h
    cases value <;> first | rfl | cases h

theorem endsJust_listOrNull :
    (r.listOrNull key).EndsJust (fun found => r.json.member? key = some (.ofOption .arr found))
      (r.Wrong key .listOrNull) := by
  apply endsJust_of_fits
  · intro value h
    cases value with
    | null => exact ⟨none, rfl⟩
    | arr items => exact ⟨some items, rfl⟩
    | _ => cases h
  · intro found
    cases found <;> exact ⟨rfl, rfl⟩
  · intro value h
    cases value <;> first | rfl | cases h

theorem endsJust_list :
    (r.list key).EndsJust (fun items => r.json.member? key = some (.arr items)) fun fault =>
      r.Wrong key .listOrNull fault ∨
        r.json.member? key = some .null ∧ fault = .unexpected key .list r.place := by
  refine ⟨fun items => result_list_eq_ok, fun fault => ?_⟩
  have hnull := (r.endsJust_listOrNull key).ok none
  have herror := (r.endsJust_listOrNull key).error fault
  rw [list, result_bind, ← herror]
  simp only [Json.ofOption] at hnull
  rw [← hnull]
  rcases (r.listOrNull key).result with other | (_ | items)
  · simp [bind, Except.bind]
  · simp [bind, Except.bind, unexpected, fail, eq_comm]
  · simp [bind, Except.bind, pure]

theorem endsJust_kind :
    r.kind.EndsJust (fun kind => TypeRef.HasKind r.json kind) (r.Wrong "kind" .enumerator) := by
  refine (endsJust_bind (r.endsJust_fetch "kind") fun value _ => endsJust_require).congr ?_ ?_
  · intro kind
    simp only [TypeRef.HasKind, TypeKind.read?_eq_some_iff]
  · intro fault
    constructor
    · rintro (h | ⟨value, hfound, hread, rfl⟩)
      · exact .without h
      · exact .unexpected hfound (by rw [Shape.fits, hread]; rfl)
    · rintro (h | ⟨hfound, hshape⟩)
      · exact .inl h
      · exact .inr ⟨_, hfound, by simpa [Shape.fits] using hshape, rfl⟩

theorem endsJust_readType :
    r.readType.EndsJust
      (fun ref => ∃ node, r.json.member? "type" = some node ∧ TypeRef.Mirrors ref node)
      r.Untyped := by
  refine (endsJust_bind (r.endsJust_fetch "type") fun node _ => TypeRef.endsJust_read node).congr
    (fun _ => Iff.rfl) fun fault => ?_
  constructor
  · rintro (h | ⟨node, hfound, hfault⟩)
    · exact .without h
    · exact .unread hfound hfault
  · rintro (h | ⟨hfound, hfault⟩)
    · exact .inl h
    · exact .inr ⟨_, hfound, hfault⟩

end Record

/-! ## Nodes -/

theorem Node.endsJust_read (owner : Owner) (json : Json) :
    (Node.read owner json).EndsJust (fun n => n.json = json ∧ n.Stands owner)
      ((Record.unnamed owner json).Wrong "name" .string) := by
  refine (endsJust_bind (Record.endsJust_string _ "name") fun name _ => endsJust_pure _).congr
    (fun n => ?_) (by simp)
  constructor
  · rintro ⟨name, hname, rfl⟩
    exact ⟨rfl, rfl, hname⟩
  · obtain ⟨nodeOwner, name, nodeJson⟩ := n
    rintro ⟨rfl, rfl, hname⟩
    exact ⟨name, hname, rfl⟩

/-- A type is read from its name and then from its kind. -/
theorem TypeDefinition.endsJust_read (json : Json) :
    (TypeDefinition.read json).EndsJust (fun t => t.json = json ∧ t.Stands) fun fault =>
      (Record.unnamed .type json).Wrong "name" .string fault ∨
        ∃ name, json.member? "name" = some (.str name) ∧
          (Record.mk ⟨.type, some name⟩ json).Wrong "kind" .enumerator fault := by
  refine (endsJust_bind (Node.endsJust_read .type json) fun node _ =>
    endsJust_bind (Record.endsJust_kind _) fun kind _ => endsJust_pure _).congr
    (fun t => ?_) fun fault => ?_
  · constructor
    · rintro ⟨node, ⟨rfl, hnode⟩, kind, ⟨written, hfound, hkind⟩, rfl⟩
      exact ⟨rfl, hnode, written, hfound, TypeKind.read?_eq_some_iff.mpr hkind⟩
    · rintro ⟨rfl, hnode, written, hfound, hkind⟩
      exact ⟨t.toNode, ⟨rfl, hnode⟩, t.kind,
        ⟨written, hfound, TypeKind.read?_eq_some_iff.mp hkind⟩, rfl⟩
  · simp only [exists_false, and_false, or_false]
    apply or_congr_right
    constructor
    · rintro ⟨⟨owner, name, _⟩, ⟨rfl, rfl, hname⟩, hwrong⟩
      exact ⟨name, hname, hwrong⟩
    · rintro ⟨name, hname, hwrong⟩
      exact ⟨⟨.type, name, json⟩, ⟨rfl, rfl, hname⟩, hwrong⟩

end Introspection
