import Introspection.Proofs.Specs
import Introspection.Proofs.Standing
/-!
# Lists of nodes that stand for their items

The lists that accessors read hold entities that stand for the items of a list of the document. A
fault that ends such a reading arises at the node of the accessor, or below the key of the list.
-/

namespace Introspection

open Fault Reading

/-! ## Lists of nodes -/

section

variable {known : Json → Bool} {owner : Owner} {shape : Shape}

/-- What is read of the items of a list stands for these items. -/
theorem Reading.ends_mapM_nodes {α : Type} {read : Json → Reading α} {json : α → Json}
    {S : α → Prop} (h : ∀ item, (read item).Ends (fun a => json a = item ∧ S a)
      (Below known (.node owner) item)) (items : List Json) :
    (items.mapM read).Ends (fun as => ∀ a ∈ as, json a ∈ items ∧ S a)
      (Below known (.nodes owner shape) (.arr items)) := by
  refine ends_mapM fun item hitem => ?_
  refine ((h item).imp_value ?_).imp_fault fun fault hfault => hfault.above (.node .self hitem)
  rintro a ⟨rfl, ha⟩
  exact ⟨hitem, ha⟩

theorem Deprecatables.ends_ofAll {α : Type} {isDeprecated : α → Reading Bool} {all : List α}
    {S : α → Prop} {P : Fault → Prop} (hall : ∀ a ∈ all, S a)
    (h : ∀ a, S a → (isDeprecated a).Ends (fun _ => True) P) :
    (ofAll isDeprecated all).Ends (fun lists => ∀ withDeprecated, ∀ a ∈ lists.view withDeprecated,
      S a) P := by
  have hactive : (activeOf isDeprecated all).Ends (fun active => ∀ a ∈ active, S a) P := by
    induction all with
    | nil => exact ends_pure fun a ha => absurd ha List.not_mem_nil
    | cons a all ih =>
        obtain ⟨ha, hrest⟩ := List.forall_mem_cons.mp hall
        rw [activeOf]
        refine ends_bind (h a ha) fun deprecated _ => ends_bind (ih hrest) fun active hactive => ?_
        refine ends_pure ?_
        split
        · exact hactive
        · exact List.forall_mem_cons.mpr ⟨ha, hactive⟩
  refine ends_bind hactive fun active hactive => ends_pure fun withDeprecated => ?_
  cases withDeprecated with
  | true => exact hall
  | false => exact hactive

theorem Node.ends_isDeprecated {n : Node}
    (hkey : (Role.node owner).keys.lookup "isDeprecated" = some (.leaf .bool)) :
    n.isDeprecated.Ends (fun _ => True) (Tells known (.node owner) n.record.place n.record.json) :=
  Record.ends_bool hkey rfl

/-- Whether an item of a list is deprecated is read of the item itself. -/
theorem Node.ends_isDeprecated_of_mem {n : Node} {items : List Json} (h : n.Stands owner)
    (hmem : n.json ∈ items) (hnamed : owner.isNamed = true)
    (hkey : (Role.node owner).keys.lookup "isDeprecated" = some (.leaf .bool)) :
    n.isDeprecated.Ends (fun _ => True) (Below known (.nodes owner shape) (.arr items)) := by
  have hread : n.isDeprecated.Ends _ (Tells known (.node owner) n.record.place n.json) :=
    Node.ends_isDeprecated hkey
  rw [h.place hnamed] at hread
  exact hread.imp_fault fun fault htells => htells.below.above (.node .self hmem)

theorem Field.ends_readAll (items : List Json) :
    (Field.readAll items).Ends (fun lists => ∀ withDeprecated, ∀ f ∈ lists.view withDeprecated,
        f.json ∈ items ∧ f.toNode.Stands .field)
      (Below known (.nodes .field shape) (.arr items)) := by
  refine ends_bind (ends_mapM_nodes Field.ends_read items) fun fields hfields => ?_
  exact Deprecatables.ends_ofAll hfields fun f hf =>
    Node.ends_isDeprecated_of_mem hf.2 hf.1 rfl rfl

theorem EnumValue.ends_readAll (items : List Json) :
    (EnumValue.readAll items).Ends
      (fun lists => ∀ withDeprecated, ∀ v ∈ lists.view withDeprecated,
        v.json ∈ items ∧ v.toNode.Stands .enumValue)
      (Below known (.nodes .enumValue shape) (.arr items)) := by
  refine ends_bind (ends_mapM_nodes EnumValue.ends_read items) fun values hvalues => ?_
  exact Deprecatables.ends_ofAll (fun v hv => hvalues v (mem_of_mem_sortByName hv))
    fun v hv => Node.ends_isDeprecated_of_mem hv.2 hv.1 rfl rfl

end

/-! ## Views -/

def View.Ends {α : Type} (Q : α → Prop) (P : Fault → Prop) (view : View α) : Prop :=
  view.reading.Ends Q P

namespace View

variable {α β : Type} {Q : α → Prop} {S : β → Prop} {P : Fault → Prop}

theorem ends_pure {a : α} (h : Q a) : Ends Q P (pure a : View α) := h

theorem ends_read {reading : Reading α} (h : reading.Ends Q P) : (View.read reading).Ends Q P := by
  unfold View.Ends
  rw [reading_read]
  exact h

theorem ends_memo (slot : Slot) {record : Record} {fill : View slot.Content}
    {Q : slot.Content → Prop} (h : fill.Ends Q P) : (View.memo slot record fill).Ends Q P := by
  unfold View.Ends
  rw [reading_memo]
  exact h

theorem ends_bind {view : View α} {next : α → View β} (hv : view.Ends Q P)
    (hnext : ∀ a, Q a → (next a).Ends S P) : (view >>= next).Ends S P := by
  unfold View.Ends
  rw [reading_bind]
  exact Reading.ends_bind hv hnext

theorem ends_map {view : View α} {f : α → β} (hv : view.Ends Q P) (hf : ∀ a, Q a → S (f a)) :
    (f <$> view).Ends S P := by
  unfold View.Ends
  rw [reading_map]
  exact Reading.ends_map hv hf

end View

/-! ## Accessors -/

section

variable {known : Json → Bool} {owner : Owner} {keys : List String} {key : String}
  {under : Role} {n : Node}

/-- What a reading of a node tells of the node arises at the node. -/
theorem Node.Stands.ends {α : Type} {Q : α → Prop} (h : n.Stands owner)
    (hnamed : owner.isNamed = true) {reading : Reading α}
    (hread : reading.Ends Q (Tells known (.node owner) n.record.place n.record.json)) :
    reading.Ends Q (Arises known (.node owner) keys n.json) := by
  rw [h.place hnamed] at hread
  exact hread.imp_fault fun _ => arises_own

theorem Node.ends_stringOrNull (h : n.Stands owner) (hnamed : owner.isNamed = true)
    (hkey : (Role.node owner).keys.lookup key = some (.leaf .stringOrNull)) :
    (View.read (n.record.stringOrNull key)).Ends (fun _ => True)
      (Arises known (.node owner) keys n.json) :=
  View.ends_read (h.ends hnamed (Record.ends_stringOrNull hkey rfl))

theorem Node.ends_readType (h : n.Stands owner) (hnamed : owner.isNamed = true)
    (hkey : (Role.node owner).keys.lookup "type" = some .reference) (hmem : "type" ∈ keys) :
    n.record.readType.Ends (fun _ => True) (Arises known (.node owner) keys n.json) := by
  refine Reading.ends_bind (h.ends hnamed (Record.ends_fetch hkey)) fun json hjson => ?_
  exact (TypeRef.ends_read json).imp_fault fun fault hfault => arises_under hmem hkey hjson hfault

theorem Node.ends_type (h : n.Stands owner) (hnamed : owner.isNamed = true)
    (hkey : (Role.node owner).keys.lookup "type" = some .reference) (hmem : "type" ∈ keys) :
    n.type.Ends (fun _ => True) (Arises known (.node owner) keys n.json) :=
  View.ends_memo .type (View.ends_read (Node.ends_readType h hnamed hkey hmem))

theorem View.ends_optional {α : Type} {Q : List Json → α → Prop} {readAll : List Json → View α}
    (h : n.Stands owner) (hnamed : owner.isNamed = true)
    (hkey : (Role.node owner).keys.lookup key = some under) (hshape : under.shape = .listOrNull)
    (hmem : key ∈ keys)
    (hread : ∀ items, (readAll items).Ends (Q items) (Below known under (.arr items))) :
    (n.record.optional key readAll).Ends
      (fun found => ∀ a ∈ found, ∃ items, n.json.member? key = some (.arr items) ∧ Q items a)
      (Arises known (.node owner) keys n.json) := by
  refine View.ends_bind (View.ends_read (h.ends hnamed (Record.ends_listOrNull hkey (.inl hshape))))
    fun found hfound => ?_
  cases found with
  | none => exact View.ends_pure fun a ha => absurd ha (Option.not_mem_none a)
  | some items =>
      refine View.ends_map (Q := Q items) ?_ fun a ha b hb => ?_
      · exact (hread items).imp_fault fun fault hfault => arises_under hmem hkey hfound hfault
      · cases hb
        exact ⟨items, hfound, ha⟩

end

/-! ## Input values -/

section

variable {known : Json → Bool} {shape : Shape} {items : List Json}

theorem InputValues.ends_split {values : List InputValue}
    (h : ∀ v ∈ values, v.json ∈ items ∧ v.toNode.Stands .inputValue) :
    (split values).Ends (fun parts => (∀ v ∈ parts.1, v ∈ values) ∧ ∀ v ∈ parts.2, v ∈ values)
      (Below known (.nodes .inputValue shape) (.arr items)) := by
  induction values with
  | nil =>
      exact View.ends_pure ⟨fun v hv => absurd hv List.not_mem_nil,
        fun v hv => absurd hv List.not_mem_nil⟩
  | cons value values ih =>
      obtain ⟨⟨hmem, hstands⟩, hrest⟩ := List.forall_mem_cons.mp h
      have htype : value.type.Ends (fun _ => True)
          (Arises known (.node .inputValue) ["type"] value.json) :=
        Node.ends_type hstands rfl rfl List.mem_cons_self
      refine View.ends_bind (htype.imp_fault fun fault hfault => ?_) fun type _ => ?_
      · exact hfault.below.above (.node .self hmem)
      refine View.ends_bind (ih hrest) fun parts hparts => View.ends_pure ?_
      have hcons : ∀ v, v ∈ values → v ∈ value :: values := fun v => List.mem_cons_of_mem value
      split
      · exact ⟨List.forall_mem_cons.mpr ⟨List.mem_cons_self, fun v hv => hcons v (hparts.1 v hv)⟩,
          fun v hv => hcons v (hparts.2 v hv)⟩
      · exact ⟨fun v hv => hcons v (hparts.1 v hv),
          List.forall_mem_cons.mpr ⟨List.mem_cons_self, fun v hv => hcons v (hparts.2 v hv)⟩⟩

/-- All input values of a list, and the required and the optional ones, stand for its items. -/
theorem InputValues.ends_read (items : List Json) :
    (InputValues.read items).Ends
      (fun values => ∀ part : InputPart, ∀ v ∈ part.list values,
        v.json ∈ items ∧ v.toNode.Stands .inputValue)
      (Below known (.nodes .inputValue shape) (.arr items)) := by
  refine View.ends_bind (View.ends_read (ends_mapM_nodes InputValue.ends_read items))
    fun all hall => ?_
  refine View.ends_bind (ends_split hall) fun parts hparts => View.ends_pure fun part => ?_
  cases part with
  | all => exact hall
  | required => exact fun v hv => hall v (hparts.1 v hv)
  | optional => exact fun v hv => hall v (hparts.2 v hv)

end

theorem Node.ends_arguments {known : Json → Bool} {owner : Owner} {keys : List String} {n : Node}
    (h : n.Stands owner) (hnamed : owner.isNamed = true)
    (hkey : (Role.node owner).keys.lookup "args" = some (.nodes .inputValue .list))
    (hmem : "args" ∈ keys) :
    n.arguments.Ends
      (fun values => ∃ items, n.json.member? "args" = some (.arr items) ∧
        ∀ part : InputPart, ∀ v ∈ part.list values, v.json ∈ items ∧ v.toNode.Stands .inputValue)
      (Arises known (.node owner) keys n.json) := by
  refine View.ends_memo .arguments ?_
  refine View.ends_bind (View.ends_read (h.ends hnamed (Record.ends_list hkey rfl)))
    fun items hitems => ?_
  have hread : (InputValues.read items).Ends _
      (Below known (.nodes .inputValue .list) (.arr items)) := InputValues.ends_read items
  refine (hread.imp_fault fun fault hfault => ?_).imp_value
    fun values hvalues => ⟨items, hitems, hvalues⟩
  exact arises_under hmem hkey hitems hfault

/-! ## Locations -/

/-- Reading the items of a list of locations: a fault tells of an item that is not known. -/
theorem Directive.ends_items {α : Type} {d : Directive} {known : Json → Bool} {keys : List String}
    (hd : d.toNode.Stands .directive) {read? : Json → Option α}
    (hknown : ∀ item, read? item = none → known item = false) :
    (do (← d.record.list "locations").mapM fun item =>
        Reading.require (.unknownLocation item d.record.place) (read? item) :
      Reading (List α)).Ends (fun _ => True) (Arises known (.node .directive) keys d.json) := by
  refine Reading.ends_bind (hd.ends rfl (Record.ends_list (by rfl) rfl)) fun items hitems => ?_
  refine (Reading.ends_mapM (Q := fun _ => True) fun item hitem => ?_).imp_value fun _ _ => trivial
  refine Reading.ends_require (fun _ _ => trivial) fun hnone => ?_
  rw [hd.place rfl]
  exact arises_own (.unknownLocation rfl hitems hitem (hknown item hnone))

theorem Directive.ends_locationNames {d : Directive} {known : Json → Bool} {keys : List String}
    (hd : d.toNode.Stands .directive) (hknown : ∀ item, known item = item.string?.isSome) :
    d.locationNames.Ends (fun _ => True) (Arises known (.node .directive) keys d.json) := by
  refine View.ends_memo .locationNames (View.ends_read (ends_items hd fun item hnone => ?_))
  rw [hknown, hnone]
  rfl

/-! ## Lists of a schema -/

/-- The length of a list that has been read is logged before the list is sorted. -/
theorem Schema.ends_readList {α : Type} {s : Schema} {known : Json → Bool} {key : String}
    {keys : List String} {owner : Owner} {read : Json → Reading α} {json : α → Json}
    {S : α → Prop} {line : Nat → LogLine} {name : α → String}
    (hplace : s.record.place = ⟨.schema, none⟩)
    (hkey : (Role.node .schema).keys.lookup key = some (.nodes owner .list)) (hmem : key ∈ keys)
    (hread : ∀ item, (read item).Ends (fun a => json a = item ∧ S a)
      (Below known (.node owner) item)) :
    (do
        let as ← (← s.record.list key).mapM read
        Reading.note (line as.length)
        pure (sortByName name as) : Reading (List α)).Ends
      (fun as => ∃ items, s.record.json.member? key = some (.arr items) ∧
        ∀ a ∈ as, json a ∈ items ∧ S a)
      (Arises known (.node .schema) keys s.record.json) := by
  have hlist : (s.record.list key).Ends (fun items => s.record.json.member? key = some (.arr items))
      (Tells known (.node .schema) s.record.place s.record.json) := Record.ends_list hkey rfl
  rw [hplace] at hlist
  refine Reading.ends_bind (hlist.imp_fault fun _ => arises_own) fun items hitems => ?_
  have hitem : (items.mapM read).Ends _ (Below known (.nodes owner .list) (.arr items)) :=
    ends_mapM_nodes hread items
  refine Reading.ends_bind (hitem.imp_fault fun fault hfault => ?_) fun as has => ?_
  · exact arises_under hmem hkey hitems hfault
  · exact ⟨items, hitems, fun a ha => has a (mem_of_mem_sortByName ha)⟩

end Introspection
