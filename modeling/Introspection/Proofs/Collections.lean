import Introspection.Answer
import Introspection.Proofs.ByteOrder
import Introspection.Proofs.TwoPasses
/-!
# Collections

The lists of entities that a schema, a type, a field and a directive have are read alike, in two
passes. It is told here, from the document alone, of which items a list can be made, what is made
of them, and which faults the items have.
-/

namespace Introspection

open Reading

inductive Collection where
  | types
  | directives
  | fields
  | enumValues
  | interfaces
  | possibleTypes
  | inputFields
  | arguments
  deriving DecidableEq

/-- The entities of a list in its order, each with its mark: whether it is deprecated, or whether
it is required. -/
abbrev Listing := List (Entity × Bool)

def Json.saysDeprecated (node : Json) : Bool := node.member? "isDeprecated" = some (.bool true)

/-- Whether the outermost node of the type of an input value is a non-null wrapper. -/
def Json.hasNonNullType (node : Json) : Bool :=
  ((node.member? "type").bind (·.member? "kind")).bind TypeKind.read? = some .nonNull

def Record.readList {α : Type} (r : Record) (key : String) (nullable : Bool)
    (readAll : List Json → Reading α) : Reading (Option α) :=
  if nullable then do
    match ← r.listOrNull key with
    | some items => some <$> readAll items
    | none => pure none
  else do
    some <$> readAll (← r.list key)

theorem Record.readList_map {α β : Type} (r : Record) (key : String) (nullable : Bool)
    (f : α → β) (readAll : List Json → Reading α) :
    r.readList key nullable (fun items => f <$> readAll items) =
      Option.map f <$> r.readList key nullable readAll := by
  cases nullable with
  | false => simp [readList]
  | true =>
      simp only [readList, if_true, map_bind]
      congr 1
      funext found
      cases found <;> simp

theorem TypeRef.HasKind.bind_read? {node : Json} {kind : TypeKind} (h : HasKind node kind) :
    (node.member? "kind").bind TypeKind.read? = some kind := by
  obtain ⟨written, hfound, hwritten⟩ := h
  rw [hfound, Option.bind_some, TypeKind.read?_eq_some_iff.mpr hwritten]

theorem TypeRef.Mirrors.isNonNull_eq {ref : TypeRef} {node : Json} (h : Mirrors ref node) :
    ref.isNonNull = decide ((node.member? "kind").bind TypeKind.read? = some .nonNull) := by
  cases h with
  | list wraps _ => simp [isNonNull, wraps.hasKind.bind_read?]
  | nonNull wraps _ => simp [isNonNull, wraps.hasKind.bind_read?]
  | @named _ kind _ names =>
      rw [names.hasKind.bind_read?]
      have hnamed := names.names
      cases kind <;> first | rfl | cases hnamed

theorem exists_forall₂_iff {α β : Type} (R : α → β → Prop) (as : List α) :
    (∃ bs, List.Forall₂ R as bs) ↔ ∀ a ∈ as, ∃ b, R a b := by
  induction as with
  | nil => simp
  | cons a as ih =>
      rw [List.forall_mem_cons, ← ih]
      constructor
      · rintro ⟨bs, h⟩
        obtain ⟨b, rest, hab, hrest, rfl⟩ := List.forall₂_cons_left_iff.mp h
        exact ⟨⟨b, hab⟩, rest, hrest⟩
      · rintro ⟨⟨b, hab⟩, rest, hrest⟩
        exact ⟨b :: rest, .cons hab hrest⟩

/-- A list in which each item stands with its mark, where an item has no mark but one. -/
theorem forall₂_mark_iff {α : Type} {M : α → Bool → Prop} {mark : α → Bool}
    (hmark : ∀ a b, M a b → b = mark a) {as : List α} {marked : List (α × Bool)} :
    List.Forall₂ (fun a found => found.1 = a ∧ M a found.2) as marked ↔
      (∀ a ∈ as, M a (mark a)) ∧ marked = as.map fun a => (a, mark a) := by
  have hfound : ∀ a found, (found.1 = a ∧ M a found.2) ↔ M a (mark a) ∧ found = (a, mark a) := by
    rintro a ⟨_, b⟩
    constructor
    · rintro ⟨rfl, hb⟩
      rw [← hmark _ b hb]
      exact ⟨hb, rfl⟩
    · rintro ⟨ha, hfound⟩
      cases hfound
      exact ⟨rfl, ha⟩
  simp only [hfound]
  induction as generalizing marked with
  | nil => simp
  | cons a as ih =>
      rw [List.forall₂_cons_left_iff]
      simp only [ih, List.forall_mem_cons, List.map_cons]
      constructor
      · rintro ⟨_, _, ⟨ha, rfl⟩, ⟨has, rfl⟩, rfl⟩
        exact ⟨⟨ha, has⟩, rfl⟩
      · rintro ⟨⟨ha, has⟩, rfl⟩
        exact ⟨_, _, ⟨ha, rfl⟩, ⟨has, rfl⟩, rfl⟩

/-! ## Entities in lists -/

namespace Entity

/-- The name by which an entity stands in a list, for a reference that of the type it names. What
stands in no list has none. -/
def listedName : Entity → String
  | type t => t.name
  | field f => f.name
  | inputValue v => v.name
  | enumValue v => v.name
  | directive d => d.name
  | ref r => r.namedType
  | _ => ""

def readMark : Entity → Reading Bool
  | field f => f.isDeprecated
  | enumValue v => v.isDeprecated
  | inputValue v => InputValues.readMark v
  | _ => pure false

/-- The mark of an entity: its flag `isDeprecated`, or whether its type is required. -/
def Marked : Entity → Bool → Prop
  | field f, b => f.json.member? "isDeprecated" = some (.bool b)
  | enumValue v, b => v.json.member? "isDeprecated" = some (.bool b)
  | inputValue v, b => ∃ node ref, v.json.member? "type" = some node ∧
      TypeRef.Mirrors ref node ∧ b = ref.isNonNull
  | _, b => b = false

def Unmarked : Entity → Fault → Prop
  | field f => f.record.Wrong "isDeprecated" .bool
  | enumValue v => v.record.Wrong "isDeprecated" .bool
  | inputValue v => v.record.Untyped
  | _ => fun _ => False

def mark : Entity → Bool
  | field f => f.json.saysDeprecated
  | enumValue v => v.json.saysDeprecated
  | inputValue v => v.json.hasNonNullType
  | _ => false

theorem Marked.eq_mark {e : Entity} {b : Bool} (h : e.Marked b) : b = e.mark := by
  cases e with
  | field f =>
      have hfound : f.json.member? "isDeprecated" = some (.bool b) := h
      simp [mark, Json.saysDeprecated, hfound]
  | enumValue v =>
      have hfound : v.json.member? "isDeprecated" = some (.bool b) := h
      simp [mark, Json.saysDeprecated, hfound]
  | inputValue v =>
      obtain ⟨node, ref, hnode, hmirrors, rfl⟩ := h
      simp [mark, Json.hasNonNullType, hnode, hmirrors.isNonNull_eq]
  | _ => exact h

theorem marked_mark_iff {e : Entity} : e.Marked e.mark ↔ ∃ b, e.Marked b := by
  constructor
  · exact fun h => ⟨e.mark, h⟩
  · rintro ⟨b, h⟩
    rwa [← h.eq_mark]

theorem endsJust_readMark (e : Entity) : e.readMark.EndsJust e.Marked e.Unmarked := by
  cases e with
  | field f => exact f.record.endsJust_bool "isDeprecated"
  | enumValue v => exact v.record.endsJust_bool "isDeprecated"
  | inputValue v =>
      refine (endsJust_map v.record.endsJust_readType).congr (fun b => ?_) fun _ => Iff.rfl
      constructor
      · rintro ⟨ref, ⟨node, hnode, hmirrors⟩, rfl⟩
        exact ⟨node, ref, hnode, hmirrors, rfl⟩
      · rintro ⟨node, ref, hnode, hmirrors, rfl⟩
        exact ⟨ref, ⟨node, hnode, hmirrors⟩, rfl⟩
  | _ => exact endsJust_pure false

end Entity

/-! ## Items of lists -/

namespace Collection

def readItem : Collection → Json → Reading Entity
  | types, item => .type <$> TypeDefinition.read item
  | directives, item => .directive <$> Directive.read item
  | fields, item => .field <$> Field.read item
  | enumValues, item => .enumValue <$> EnumValue.read item
  | interfaces, item => .ref <$> TypeRef.read item
  | possibleTypes, item => .ref <$> TypeRef.read item
  | inputFields, item => .inputValue <$> InputValue.read item
  | arguments, item => .inputValue <$> InputValue.read item

/-- The entity that is made of an item, which holds what can be read of the item. -/
def Makes : Collection → Json → Entity → Prop
  | types, item, .type t => t.json = item ∧ t.Stands
  | directives, item, .directive d => d.json = item ∧ d.toNode.Stands .directive
  | fields, item, .field f => f.json = item ∧ f.toNode.Stands .field
  | enumValues, item, .enumValue v => v.json = item ∧ v.toNode.Stands .enumValue
  | interfaces, item, .ref ref => TypeRef.Mirrors ref item
  | possibleTypes, item, .ref ref => TypeRef.Mirrors ref item
  | inputFields, item, .inputValue v => v.json = item ∧ v.toNode.Stands .inputValue
  | arguments, item, .inputValue v => v.json = item ∧ v.toNode.Stands .inputValue
  | _, _, _ => False

def owner : Collection → Owner
  | types => .type
  | directives => .directive
  | fields => .field
  | enumValues => .enumValue
  | interfaces => .type
  | possibleTypes => .type
  | inputFields => .inputValue
  | arguments => .inputValue

def Refuses : Collection → Json → Fault → Prop
  | types, item, fault => (Record.unnamed .type item).Wrong "name" .string fault ∨
      ∃ name, item.member? "name" = some (.str name) ∧
        (Record.mk ⟨.type, some name⟩ item).Wrong "kind" .enumerator fault
  | interfaces, item, fault => (TypeRef.read item).result = .error fault
  | possibleTypes, item, fault => (TypeRef.read item).result = .error fault
  | c, item, fault => (Record.unnamed c.owner item).Wrong "name" .string fault

def ofNode? : Collection → Option (Node → Entity)
  | directives => some fun n => .directive ⟨n⟩
  | fields => some fun n => .field ⟨n⟩
  | enumValues => some fun n => .enumValue ⟨n⟩
  | inputFields => some fun n => .inputValue ⟨n⟩
  | arguments => some fun n => .inputValue ⟨n⟩
  | _ => none

section

variable {c : Collection} {item : Json} {wrap : Node → Entity}

theorem makes_iff_of_ofNode? (h : c.ofNode? = some wrap) (e : Entity) :
    c.Makes item e ↔ ∃ n : Node, (n.json = item ∧ n.Stands c.owner) ∧ e = wrap n := by
  constructor
  · intro hmakes
    cases c <;> cases h <;> cases e <;> first | exact ⟨_, hmakes, rfl⟩ | cases hmakes
  · rintro ⟨n, hn, rfl⟩
    cases c <;> cases h <;> exact hn

theorem readItem_of_ofNode? (h : c.ofNode? = some wrap) :
    c.readItem item = wrap <$> Node.read c.owner item := by
  cases c <;> cases h <;>
    simp [readItem, owner, Directive.read, Field.read, EnumValue.read, InputValue.read]

theorem refuses_of_ofNode? (h : c.ofNode? = some wrap) :
    c.Refuses item = (Record.unnamed c.owner item).Wrong "name" .string := by
  cases c <;> cases h <;> rfl

end

theorem endsJust_readItem (c : Collection) (item : Json) :
    (c.readItem item).EndsJust (c.Makes item) (c.Refuses item) := by
  cases h : c.ofNode? with
  | some wrap =>
      rw [readItem_of_ofNode? h, refuses_of_ofNode? h]
      exact (endsJust_map (Node.endsJust_read c.owner item)).congr
        (fun e => (makes_iff_of_ofNode? h e).symm) fun _ => Iff.rfl
  | none =>
      cases c with
      | types =>
          refine (endsJust_map (TypeDefinition.endsJust_read item)).congr (fun e => ?_)
            fun _ => Iff.rfl
          cases e <;> simp [Makes]
      | interfaces =>
          refine (endsJust_map (TypeRef.endsJust_read item)).congr (fun e => ?_) fun _ => Iff.rfl
          cases e <;> simp [Makes]
      | possibleTypes =>
          refine (endsJust_map (TypeRef.endsJust_read item)).congr (fun e => ?_) fun _ => Iff.rfl
          cases e <;> simp [Makes]
      | _ => cases h

/-! ## Lists -/

def isSorted : Collection → Bool
  | fields => false
  | inputFields => false
  | arguments => false
  | _ => true

def arrange (c : Collection) (made : List Entity) : List Entity :=
  if c.isSorted then sortByName Entity.listedName made else made

def readAll (c : Collection) : List Json → Reading Listing :=
  inTwoPasses c.readItem c.arrange Entity.readMark

/-- A list that can be made of items: the entities that are made of them, arranged, each with its
mark. -/
def Lists (c : Collection) (items : List Json) (listing : Listing) : Prop :=
  ∃ made, List.Forall₂ c.Makes items made ∧
    List.Forall₂ (fun e found => found.1 = e ∧ e.Marked found.2) (c.arrange made) listing

/-- Why no list can be made of items: an item is refused, or an entity has no mark. -/
def Fails (c : Collection) (items : List Json) (fault : Fault) : Prop :=
  FirstFault c.Refuses items fault ∨
    ∃ made, List.Forall₂ c.Makes items made ∧ FirstFault Entity.Unmarked (c.arrange made) fault

theorem endsJust_readAll (c : Collection) (items : List Json) :
    (c.readAll items).EndsJust (c.Lists items) (c.Fails items) :=
  endsJust_inTwoPasses c.endsJust_readItem Entity.endsJust_readMark items

/-- The entities in the order of the list: by the bytes of their names, or as they were made. -/
def Orders (c : Collection) (made entities : List Entity) : Prop :=
  if c.isSorted then IsSortedByBytes Entity.listedName made entities else entities = made

theorem orders_iff {c : Collection} {made entities : List Entity} :
    c.Orders made entities ↔ entities = c.arrange made := by
  unfold Orders arrange
  split
  · exact isSortedByBytes_iff_eq
  · exact Iff.rfl

/-- What is left out of a list does not show in the order of the rest. -/
theorem Orders.filter {c : Collection} {made entities : List Entity} (h : c.Orders made entities)
    (p : Entity → Bool) : c.Orders (made.filter p) (entities.filter p) := by
  unfold Orders at h ⊢
  by_cases hc : c.isSorted = true
  · rw [if_pos hc] at h ⊢
    exact h.filter p
  · rw [if_neg hc] at h ⊢
    rw [h]

theorem perm_arrange (c : Collection) (made : List Entity) : (c.arrange made).Perm made := by
  unfold arrange
  split
  · exact perm_sortByName Entity.listedName made
  · exact .refl made

def Makeable : Collection → Json → Prop
  | types, item => (∃ name, item.member? "name" = some (.str name)) ∧
      ∃ kind, TypeRef.HasKind item kind
  | interfaces, item => TypeRef.Accepted item
  | possibleTypes, item => TypeRef.Accepted item
  | _, item => ∃ name, item.member? "name" = some (.str name)

def Markable : Collection → Json → Prop
  | fields, item => ∃ b, item.member? "isDeprecated" = some (.bool b)
  | enumValues, item => ∃ b, item.member? "isDeprecated" = some (.bool b)
  | inputFields, item => ∃ node, item.member? "type" = some node ∧ TypeRef.Accepted node
  | arguments, item => ∃ node, item.member? "type" = some node ∧ TypeRef.Accepted node
  | _, _ => True

theorem exists_mirrors_iff {item : Json} {makes : Entity → Prop}
    (hmakes : ∀ e, makes e ↔ ∃ ref, TypeRef.Mirrors ref item ∧ e = .ref ref) :
    (∃ e, makes e) ↔ TypeRef.Accepted item := by
  rw [TypeRef.accepted_iff_mirrors]
  constructor
  · rintro ⟨e, he⟩
    obtain ⟨ref, href, -⟩ := (hmakes e).mp he
    exact ⟨ref, href⟩
  · rintro ⟨ref, href⟩
    exact ⟨.ref ref, (hmakes _).mpr ⟨ref, href, rfl⟩⟩

theorem exists_makes_iff {c : Collection} {item : Json} :
    (∃ e, c.Makes item e) ↔ c.Makeable item := by
  cases h : c.ofNode? with
  | some wrap =>
      have hmakeable : c.Makeable item ↔ ∃ name, item.member? "name" = some (.str name) := by
        cases c <;> cases h <;> exact Iff.rfl
      simp only [makes_iff_of_ofNode? h, hmakeable]
      constructor
      · rintro ⟨_, n, ⟨rfl, hn⟩, -⟩
        exact ⟨n.name, hn.name⟩
      · rintro ⟨name, hname⟩
        exact ⟨_, ⟨c.owner, name, item⟩, ⟨rfl, rfl, hname⟩, rfl⟩
  | none =>
      cases c with
      | types =>
          constructor
          · rintro ⟨e, he⟩
            cases e with
            | type t =>
                obtain ⟨rfl, ⟨-, hname⟩, written, hfound, hkind⟩ := he
                exact ⟨⟨t.name, hname⟩, t.kind, written, hfound,
                  TypeKind.read?_eq_some_iff.mp hkind⟩
            | _ => cases he
          · rintro ⟨⟨name, hname⟩, kind, written, hfound, hwritten⟩
            exact ⟨.type ⟨⟨.type, name, item⟩, kind⟩, rfl, ⟨rfl, hname⟩, written, hfound,
              TypeKind.read?_eq_some_iff.mpr hwritten⟩
      | interfaces => exact exists_mirrors_iff fun e => by cases e <;> simp [Makes]
      | possibleTypes => exact exists_mirrors_iff fun e => by cases e <;> simp [Makes]
      | _ => cases h

theorem exists_marked_iff {c : Collection} {item : Json} {e : Entity} (h : c.Makes item e) :
    (∃ b, e.Marked b) ↔ c.Markable item := by
  have hvalue : ∀ v : InputValue, v.json = item → ((∃ b, (Entity.inputValue v).Marked b) ↔
      ∃ node, item.member? "type" = some node ∧ TypeRef.Accepted node) := by
    rintro v rfl
    simp only [TypeRef.accepted_iff_mirrors]
    constructor
    · rintro ⟨_, node, ref, hnode, href, -⟩
      exact ⟨node, hnode, ref, href⟩
    · rintro ⟨node, hnode, ref, href⟩
      exact ⟨_, node, ref, hnode, href, rfl⟩
  cases c with
  | fields =>
      cases e with
      | field f =>
          obtain ⟨rfl, -⟩ := h
          exact Iff.rfl
      | _ => cases h
  | enumValues =>
      cases e with
      | enumValue v =>
          obtain ⟨rfl, -⟩ := h
          exact Iff.rfl
      | _ => cases h
  | inputFields =>
      cases e with
      | inputValue v => exact hvalue v h.1
      | _ => cases h
  | arguments =>
      cases e with
      | inputValue v => exact hvalue v h.1
      | _ => cases h
  | _ => cases e <;> first | exact iff_true_intro ⟨false, rfl⟩ | cases h

theorem exists_makes_all_iff {c : Collection} {items : List Json} :
    (∃ made, List.Forall₂ c.Makes items made) ↔ ∀ item ∈ items, c.Makeable item := by
  simp only [exists_forall₂_iff, exists_makes_iff]

/-- A list is what has been made of the items, arranged, with the mark that each of it has. -/
theorem lists_iff {c : Collection} {items : List Json} {listing : Listing} :
    c.Lists items listing ↔ ∃ made, List.Forall₂ c.Makes items made ∧
      (∀ item ∈ items, c.Markable item) ∧ listing = (c.arrange made).map fun e => (e, e.mark) := by
  have hmarked : ∀ made, List.Forall₂ c.Makes items made →
      ((∀ item ∈ items, c.Markable item) ↔ ∀ e ∈ c.arrange made, e.Marked e.mark) := by
    intro made hmade
    simp only [(c.perm_arrange made).mem_iff]
    induction hmade with
    | nil => simp
    | cons hitem _ ih =>
        rw [List.forall_mem_cons, List.forall_mem_cons, ih, ← exists_marked_iff hitem,
          Entity.marked_mark_iff]
  refine exists_congr fun made => and_congr_right fun hmade => ?_
  rw [hmarked made hmade]
  exact forall₂_mark_iff fun e b => Entity.Marked.eq_mark (e := e) (b := b)

theorem Lists.marked {c : Collection} {items : List Json} {listing : Listing}
    (h : c.Lists items listing) {e : Entity} {b : Bool} (hmem : (e, b) ∈ listing) :
    e.Marked b := by
  obtain ⟨made, -, hmarks⟩ := h
  have hflipped := List.Forall₂.flip hmarks
  obtain ⟨_, rfl, hmarked⟩ := (exists_forall₂_iff _ _).mp ⟨_, hflipped⟩ (e, b) hmem
  exact hmarked

theorem exists_lists_iff {c : Collection} {items : List Json} :
    (∃ listing, c.Lists items listing) ↔
      ∀ item ∈ items, c.Makeable item ∧ c.Markable item := by
  simp only [lists_iff, forall_and, ← exists_makes_all_iff]
  constructor
  · rintro ⟨_, made, hmade, hmarkable, -⟩
    exact ⟨⟨made, hmade⟩, hmarkable⟩
  · rintro ⟨⟨made, hmade⟩, hmarkable⟩
    exact ⟨_, made, hmade, hmarkable, rfl⟩

def key : Collection → String
  | types => "types"
  | directives => "directives"
  | fields => "fields"
  | enumValues => "enumValues"
  | interfaces => "interfaces"
  | possibleTypes => "possibleTypes"
  | inputFields => "inputFields"
  | arguments => "args"

/-- Whether null may stand for the list where it does not apply. -/
def isNullable : Collection → Bool
  | types => false
  | directives => false
  | arguments => false
  | _ => true

def read (c : Collection) (r : Record) : Reading (Option Listing) :=
  r.readList c.key c.isNullable c.readAll

end Collection

end Introspection
