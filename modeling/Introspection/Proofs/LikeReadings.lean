import Introspection.Proofs.Likeness
import Introspection.Proofs.NameOrder
import Mathlib.Data.List.Perm.Basic
/-!
# Readings of alike nodes

What is read of alike nodes is alike. An entity has the same name, and its own node is alike. The
lists of entities stand in one order: that of the document, where items are alike one by one, or
that of the names, where the order of the document does not show.
-/

namespace Introspection

open Reading Role

variable {R : Role → Json → Json → Prop} {role item : Role} {v w : Json}

/-! ## Entities -/

structure Node.Alike (R : Role → Json → Json → Prop) (owner : Owner) (n n' : Node) : Prop where
  same : n.owner = n'.owner
  name : n.name = n'.name
  json : R (.node owner) n.json n'.json

structure TypeDefinition.Alike (R : Role → Json → Json → Prop) (t t' : TypeDefinition) : Prop where
  node : t.toNode.Alike R .type t'.toNode
  kind : t.kind = t'.kind

theorem Node.Alike.record {owner : Owner} {n n' : Node} (h : n.Alike R owner n') :
    Record.Alike R (.node owner) n.record n'.record := by
  refine ⟨?_, h.json⟩
  rw [Node.record, Node.record, h.same, h.name]

theorem Node.alike_read (hR : IsLikeness R) {owner : Owner} (hnamed : owner.isNamed = true)
    (h : R (.node owner) v w) :
    (Node.read owner v).Alike (Node.Alike R owner) (Node.read owner w) := by
  have hrecord : Record.Alike R (.node owner) (.unnamed owner v) (.unnamed owner w) := ⟨rfl, h⟩
  have hname := Record.string_eq hR hrecord (Owner.keys_name hnamed)
  exact alike_bind (alike_of_eq hname) fun _ _ hsame => alike_pure ⟨rfl, hsame, h⟩

theorem TypeDefinition.alike_read (hR : IsLikeness R) (h : R (.node .type) v w) :
    (TypeDefinition.read v).Alike (TypeDefinition.Alike R) (TypeDefinition.read w) := by
  refine alike_bind (Node.alike_read hR rfl h) fun n n' hn => ?_
  exact alike_bind (alike_of_eq (Record.kind_eq hR hn.record rfl)) fun _ _ hkind =>
    alike_pure ⟨hn, hkind⟩

theorem Node.isDeprecated_eq (hR : IsLikeness R) {owner : Owner} {n n' : Node}
    (h : n.Alike R owner n')
    (hkey : (Role.node owner).keys.lookup "isDeprecated" = some (.leaf .bool)) :
    n.isDeprecated = n'.isDeprecated :=
  Record.bool_eq hR h.record hkey

/-! ## Sorted lists -/

section

variable {α : Type} {name : α → String} {read : Json → Reading α} {xs ys : List Json}

theorem Reading.eq_pure_of_plain {r : Reading α} (h : r.Plain) {a : α} (ha : r.result = .ok a) :
    r = pure a := by
  have hlog := log_of_ok h ha
  obtain ⟨log, result⟩ := r
  cases hlog
  cases ha
  rfl

/-- Items that all have a name to be sorted by are all read. -/
theorem Role.exists_of_sortName? (hsort : ∀ v, item.sortName? v = (read v).result.toOption.map name)
    {names : List String} (h : xs.map item.sortName? = names.map some) :
    ∃ as : List α, List.Forall₂ (fun v a => (read v).result = .ok a) xs as ∧
      as.map name = names := by
  induction xs generalizing names with
  | nil => exact ⟨[], .nil, (List.map_eq_nil_iff.mp h.symm).symm⟩
  | cons v xs ih =>
      cases names with
      | nil => cases h
      | cons wanted names =>
          rw [List.map_cons, List.map_cons, List.cons.injEq] at h
          obtain ⟨as, has, hnames⟩ := ih h.2
          rw [hsort] at h
          cases hv : (read v).result with
          | error fault => rw [hv] at h; cases h.1
          | ok a =>
              rw [hv] at h
              have hname : name a = wanted := Option.some.inj h.1
              exact ⟨a :: as, .cons hv has, by rw [List.map_cons, hname, hnames]⟩

/-- Two orders of items that can be read give the same sorted list. -/
theorem Role.Reordered.exists_sorted (h : item.Reordered xs ys)
    (hsort : ∀ v, item.sortName? v = (read v).result.toOption.map name)
    (hplain : ∀ v, (read v).Plain) :
    ∃ as bs, xs.mapM read = pure as ∧ ys.mapM read = pure bs ∧ as.length = bs.length ∧
      sortByName name as = sortByName name bs := by
  obtain ⟨names, hnames, hdistinct⟩ := h.names
  obtain ⟨as, has, rfl⟩ := exists_of_sortName? hsort hnames
  obtain ⟨bs, hbs, hperm⟩ := List.perm_comp_forall₂ h.perm.symm has
  have hread : ∀ {items : List Json} {values : List α},
      List.Forall₂ (fun v a => (read v).result = .ok a) items values →
      items.mapM read = pure values := fun hitems =>
    eq_pure_of_plain (plain_mapM hplain _) (result_mapM_eq_ok.mpr hitems)
  exact ⟨as, bs, hread has, hread hbs, hperm.length_eq.symm,
    sortByName_eq_of_perm name hperm.symm hdistinct⟩

/-- Of alike lists the items are read alike, and stand alike when they are sorted. -/
theorem Role.IsLikeness.alike_sorted (hR : IsLikeness R) (h : R role (.arr xs) (.arr ys))
    (hitem : role.item? = some item) {S : α → α → Prop}
    (hread : ∀ v w, R item v w → (read v).Alike S (read w)) (hS : ∀ a b, S a b → name a = name b)
    (hsort : ∀ v, item.sortName? v = (read v).result.toOption.map name)
    (hplain : ∀ v, (read v).Plain) :
    (xs.mapM read).Alike (fun as bs => as.length = bs.length ∧
      List.Forall₂ S (sortByName name as) (sortByName name bs)) (ys.mapM read) := by
  obtain ⟨mid, hmid, horder⟩ := hR.items h hitem
  have halike := alike_mapM hmid hread
  rcases horder with rfl | hreordered
  · exact halike.imp fun as bs hall => ⟨hall.length_eq, forall₂_sortByName hall hS⟩
  · obtain ⟨as, bs, has, hbs, hlength, hsorted⟩ := hreordered.exists_sorted hsort hplain
    rw [has] at halike
    rw [hbs]
    obtain ⟨hlog, hresult⟩ := halike
    refine ⟨hlog, ?_⟩
    generalize (xs.mapM read).result = found at hresult
    cases hresult with
    | ok hall => exact .ok ⟨hall.length_eq.trans hlength, hsorted ▸ forall₂_sortByName hall hS⟩

end

/-! ## Lists of entities -/

theorem Deprecatables.alike_ofAll {α : Type} {S : α → α → Prop} {isDeprecated : α → Reading Bool}
    {as bs : List α} (h : List.Forall₂ S as bs)
    (hS : ∀ a b, S a b → isDeprecated a = isDeprecated b) :
    (ofAll isDeprecated as).Alike
      (fun lists lists' => ∀ withDeprecated,
        List.Forall₂ S (lists.view withDeprecated) (lists'.view withDeprecated))
      (ofAll isDeprecated bs) := by
  have hactive : (activeOf isDeprecated as).Alike (List.Forall₂ S) (activeOf isDeprecated bs) := by
    induction h with
    | nil => exact alike_pure .nil
    | cons hab _ ih =>
        rw [activeOf, activeOf]
        refine alike_bind (alike_of_eq (hS _ _ hab)) fun deprecated _ hsame => ?_
        subst hsame
        refine alike_bind ih fun active active' hactive => alike_pure ?_
        split
        · exact hactive
        · exact .cons hab hactive
  refine alike_bind hactive fun active active' hactive => alike_pure fun withDeprecated => ?_
  cases withDeprecated with
  | true => exact h
  | false => exact hactive

section

variable (hR : IsLikeness R) {xs ys : List Json}
include hR

theorem TypeDefinition.alike_readSorted {shape : Shape}
    (h : R (.nodes .type shape) (.arr xs) (.arr ys)) :
    (xs.mapM TypeDefinition.read).Alike (fun ts ts' => ts.length = ts'.length ∧
      List.Forall₂ (TypeDefinition.Alike R) (sortByName (·.name) ts) (sortByName (·.name) ts'))
      (ys.mapM TypeDefinition.read) :=
  hR.alike_sorted h rfl (fun _ _ => TypeDefinition.alike_read hR) (fun _ _ ht => ht.node.name)
    (fun _ => rfl) TypeDefinition.plain_read

theorem Directive.alike_readSorted {shape : Shape}
    (h : R (.nodes .directive shape) (.arr xs) (.arr ys)) :
    (xs.mapM Directive.read).Alike (fun ds ds' => ds.length = ds'.length ∧
      List.Forall₂ (fun d d' => d.toNode.Alike R .directive d'.toNode)
        (sortByName (·.name) ds) (sortByName (·.name) ds'))
      (ys.mapM Directive.read) := by
  refine hR.alike_sorted h rfl (fun v w hvw => ?_) (fun _ _ hd => hd.name) (fun _ => rfl)
    Directive.plain_read
  exact alike_bind (Node.alike_read hR rfl hvw) fun _ _ hn => alike_pure hn

theorem Field.alike_readAll {shape : Shape} (h : R (.nodes .field shape) (.arr xs) (.arr ys)) :
    (Field.readAll xs).Alike
      (fun lists lists' => ∀ withDeprecated,
        List.Forall₂ (fun f f' : Field => f.toNode.Alike R .field f'.toNode)
          (lists.view withDeprecated) (lists'.view withDeprecated))
      (Field.readAll ys) := by
  have hitems := hR.forall₂_items h rfl fun _ => rfl
  refine alike_bind (alike_mapM hitems fun v w hvw => ?_) fun fields fields' hfields =>
    Deprecatables.alike_ofAll hfields fun f f' hf => Node.isDeprecated_eq hR hf rfl
  exact alike_bind (Node.alike_read hR rfl hvw) fun _ _ hn => alike_pure hn

/-- Whether enum values are deprecated is read in the order of their names. -/
theorem EnumValue.alike_readAll {shape : Shape}
    (h : R (.nodes .enumValue shape) (.arr xs) (.arr ys)) :
    (EnumValue.readAll xs).Alike
      (fun lists lists' => ∀ withDeprecated,
        List.Forall₂ (fun v v' : EnumValue => v.toNode.Alike R .enumValue v'.toNode)
          (lists.view withDeprecated) (lists'.view withDeprecated))
      (EnumValue.readAll ys) := by
  refine alike_bind (hR.alike_sorted h rfl (fun v w hvw => ?_) (fun _ _ hv => hv.name)
    (fun _ => rfl) EnumValue.plain_read) fun values values' hvalues =>
      Deprecatables.alike_ofAll hvalues.2 fun v v' hv => Node.isDeprecated_eq hR hv rfl
  exact alike_bind (Node.alike_read hR rfl hvw) fun _ _ hn => alike_pure hn

theorem InputValue.alike_readItems {shape : Shape}
    (h : R (.nodes .inputValue shape) (.arr xs) (.arr ys)) :
    (xs.mapM InputValue.read).Alike
      (List.Forall₂ fun i i' : InputValue => i.toNode.Alike R .inputValue i'.toNode)
      (ys.mapM InputValue.read) := by
  refine alike_mapM (hR.forall₂_items h rfl fun _ => rfl) fun v w hvw => ?_
  exact alike_bind (Node.alike_read hR rfl hvw) fun _ _ hn => alike_pure hn

/-- References are the same, and so are the names that they are sorted by. -/
theorem TypeRef.readAll_eq (h : R .references (.arr xs) (.arr ys)) :
    TypeRef.readAll xs = TypeRef.readAll ys := by
  refine Alike.eq (alike_bind (hR.alike_sorted h rfl
    (fun v w hvw => alike_of_eq (TypeRef.read_eq hR hvw)) (fun _ _ hsame => congrArg _ hsame)
    (fun _ => rfl) TypeRef.plain_read) fun refs refs' hrefs => alike_pure ?_)
  rw [← List.forall₂_eq_eq_eq]
  exact hrefs.2

end

end Introspection
