import Introspection.Proofs.LikeReadings
import Introspection.Proofs.Specs
import Introspection.Schema
/-!
# Accessors of alike nodes

The accessors of alike entities are alike: they answer the same, or with entities that are alike
themselves, and they log the same.
-/

namespace Introspection

open View Role

variable {R : Role → Json → Json → Prop}

abbrev InputValue.Alike (R : Role → Json → Json → Prop) (i i' : InputValue) : Prop :=
  i.toNode.Alike R .inputValue i'.toNode

abbrev Field.Alike (R : Role → Json → Json → Prop) (f f' : Field) : Prop :=
  f.toNode.Alike R .field f'.toNode

abbrev EnumValue.Alike (R : Role → Json → Json → Prop) (v v' : EnumValue) : Prop :=
  v.toNode.Alike R .enumValue v'.toNode

abbrev Directive.Alike (R : Role → Json → Json → Prop) (d d' : Directive) : Prop :=
  d.toNode.Alike R .directive d'.toNode

def InputValues.Alike (R : Role → Json → Json → Prop) (values values' : InputValues) : Prop :=
  ∀ part : InputPart, List.Forall₂ (InputValue.Alike R) (part.list values) (part.list values')

/-! ## Finding by name -/

theorem findByName?_rel {α : Type} {S : α → α → Prop} {name : α → String} {as bs : List α}
    (h : List.Forall₂ S as bs) (hS : ∀ a b, S a b → name a = name b) (wanted : String) :
    Option.Rel S (findByName? name as wanted) (findByName? name bs wanted) := by
  induction h with
  | nil => exact .none
  | cons hab _ ih =>
      unfold findByName? at ih ⊢
      rw [List.find?_cons, List.find?_cons, ← hS _ _ hab]
      split
      · exact .some hab
      · exact ih

def NameMap.Alike {α : Type} (S : α → α → Prop) (map map' : NameMap α) : Prop :=
  List.Forall₂ (fun entry entry' => entry.1 = entry'.1 ∧ S entry.2.1 entry'.2.1 ∧
    entry.2.2 = entry'.2.2) map map'

namespace NameMap

variable {α : Type} {S : α → α → Prop} {name : α → String}

theorem alike_insertMember {map map' : NameMap α} (h : map.Alike S map') {key : String}
    {a b : α} (hab : S a b) (position : Nat) :
    Alike S (insertMember key (a, position) map) (insertMember key (b, position) map') := by
  induction h with
  | nil => exact .cons ⟨rfl, hab, rfl⟩ .nil
  | cons hentry hrest ih =>
      obtain ⟨hname, hrelated⟩ := hentry
      rw [insertMember.eq_def, insertMember.eq_def]
      dsimp only
      rw [← hname]
      split
      · exact .cons ⟨rfl, hab, rfl⟩ (.cons ⟨rfl, hrelated⟩ hrest)
      · split
        · exact .cons ⟨rfl, hab, rfl⟩ hrest
        · exact .cons ⟨rfl, hrelated⟩ ih

theorem alike_foldl_insertMember {as bs : List α} (h : List.Forall₂ S as bs)
    (hS : ∀ a b, S a b → name a = name b) (position : Nat) {map map' : NameMap α}
    (hmap : map.Alike S map') :
    Alike S
      ((as.zipIdx position).foldl (fun map entry => insertMember (name entry.1) entry map) map)
      ((bs.zipIdx position).foldl (fun map entry => insertMember (name entry.1) entry map)
        map') := by
  induction h generalizing position map map' with
  | nil => exact hmap
  | cons hab _ ih =>
      rw [List.zipIdx_cons, List.zipIdx_cons, List.foldl_cons, List.foldl_cons, ← hS _ _ hab]
      exact ih (position + 1) (alike_insertMember hmap hab position)

theorem alike_of {as bs : List α} (h : List.Forall₂ S as bs)
    (hS : ∀ a b, S a b → name a = name b) : Alike S (NameMap.of name as) (NameMap.of name bs) :=
  alike_foldl_insertMember h hS 0 .nil

theorem Alike.find? {map map' : NameMap α} (h : map.Alike S map') (wanted : String) :
    Option.Rel S (map.find? wanted) (map'.find? wanted) := by
  induction h with
  | nil => exact .none
  | @cons entry entry' _ _ hentry _ ih =>
      obtain ⟨key, a, position⟩ := entry
      obtain ⟨_, b, _⟩ := entry'
      obtain ⟨rfl, hrelated, _⟩ := hentry
      unfold NameMap.find? at ih ⊢
      rw [List.lookup_cons, List.lookup_cons]
      dsimp only
      split
      · exact .some hrelated
      · exact ih

end NameMap

/-! ## Views of records -/

/-- What is read the same is viewed the same. -/
theorem View.alike_of_eq {α : Type} {reading reading' : Reading α} (h : reading = reading') :
    Alike Eq (View.read reading) (View.read reading') :=
  View.alike_read (Reading.alike_of_eq h)

section

variable (hR : IsLikeness R) {role under : Role} {key : String} {r r' : Record}
include hR

theorem View.alike_optional {α : Type} {S : α → α → Prop} {readAll : List Json → View α}
    (h : Record.Alike R role r r') (hkey : role.keys.lookup key = some under)
    (hread : ∀ xs ys, R under (.arr xs) (.arr ys) → (readAll xs).Alike S (readAll ys)) :
    (r.optional key readAll).Alike (Option.Rel S) (r'.optional key readAll) := by
  refine alike_bind (alike_read (Record.alike_listOrNull hR h hkey)) fun found found' hfound => ?_
  cases hfound with
  | none => exact alike_pure .none
  | some related => exact alike_map (hread _ _ related) fun a b hab => .some hab

theorem Record.readType_eq (h : Record.Alike R role r r')
    (hkey : role.keys.lookup "type" = some .reference) : r.readType = r'.readType :=
  Reading.Alike.eq (Reading.alike_bind (Record.alike_fetch hR h hkey) fun _ _ related =>
    Reading.alike_of_eq (TypeRef.read_eq hR related))

end

/-! ## Accessors of named nodes -/

section

variable {owner : Owner} {n n' : Node}

theorem Node.alike_casings (h : n.Alike R owner n') : n.casings.Alike Eq n'.casings :=
  alike_memo .casings (alike_pure (congrArg Casings.of h.name))

variable (hR : IsLikeness R)
include hR

theorem Node.alike_stringOrNull {key : String} (h : n.Alike R owner n')
    (hkey : (Role.node owner).keys.lookup key = some (.leaf .stringOrNull)) :
    (View.read (n.record.stringOrNull key)).Alike Eq (View.read (n'.record.stringOrNull key)) :=
  View.alike_of_eq (Record.stringOrNull_eq hR h.record hkey)

theorem Node.alike_type (h : n.Alike R owner n')
    (hkey : (Role.node owner).keys.lookup "type" = some .reference) :
    n.type.Alike Eq n'.type :=
  alike_memo .type (View.alike_of_eq (Record.readType_eq hR h.record hkey))

theorem InputValues.alike_split {values values' : List InputValue}
    (h : List.Forall₂ (InputValue.Alike R) values values') :
    (split values).Alike (fun parts parts' => List.Forall₂ (InputValue.Alike R) parts.1 parts'.1 ∧
      List.Forall₂ (InputValue.Alike R) parts.2 parts'.2) (split values') := by
  induction h with
  | nil => exact alike_pure ⟨.nil, .nil⟩
  | cons hvalue _ ih =>
      rw [split, split]
      refine alike_bind (Node.alike_type hR hvalue rfl) fun type _ hsame => ?_
      subst hsame
      refine alike_bind ih fun parts parts' hparts => alike_pure ?_
      split
      · exact ⟨.cons hvalue hparts.1, hparts.2⟩
      · exact ⟨hparts.1, .cons hvalue hparts.2⟩

theorem InputValues.alike_read {shape : Shape} (xs ys : List Json)
    (h : R (.nodes .inputValue shape) (.arr xs) (.arr ys)) :
    (read xs).Alike (InputValues.Alike R) (read ys) := by
  refine alike_bind (View.alike_read (InputValue.alike_readItems hR h)) fun all all' hall => ?_
  refine alike_bind (alike_split hR hall) fun parts parts' hparts => alike_pure fun part => ?_
  cases part with
  | all => exact hall
  | required => exact hparts.1
  | optional => exact hparts.2

theorem Node.alike_arguments (h : n.Alike R owner n')
    (hkey : (Role.node owner).keys.lookup "args" = some (.nodes .inputValue .list)) :
    n.arguments.Alike (InputValues.Alike R) n'.arguments :=
  alike_memo .arguments (alike_bind (View.alike_read (Record.alike_list hR h.record hkey))
    (InputValues.alike_read hR))

end

theorem InputValues.Alike.find? {values values' : InputValues} (h : values.Alike R values')
    (name : String) : Option.Rel (InputValue.Alike R) (values.find? name) (values'.find? name) :=
  findByName?_rel (h .all) (fun _ _ hi => hi.name) name

/-! ## Accessors of types -/

namespace TypeDefinition

variable (hR : IsLikeness R) {t t' : TypeDefinition} (h : t.Alike R t')
include hR h

theorem alike_fields (withDeprecated : Bool) :
    (t.fields withDeprecated).Alike (Option.Rel (List.Forall₂ (Field.Alike R)))
      (t'.fields withDeprecated) :=
  alike_bind (alike_memo .fields (alike_optional hR h.node.record (by rfl)
    fun _ _ hitems => View.alike_read (Field.alike_readAll hR hitems))) fun _ _ hfound =>
      alike_pure (rel_map hfound fun _ _ hlists => hlists withDeprecated)

theorem alike_fieldsByName :
    t.fieldsByName.Alike (Option.Rel (NameMap.Alike (Field.Alike R))) t'.fieldsByName :=
  alike_memo .fieldsByName (alike_bind (alike_fields hR h true) fun _ _ hfound =>
    alike_pure (rel_map hfound fun _ _ hfields => NameMap.alike_of hfields fun _ _ hf => hf.name))

theorem alike_field? (name : String) :
    (t.field? name).Alike (Option.Rel (Field.Alike R)) (t'.field? name) :=
  alike_bind (alike_fieldsByName hR h) fun _ _ hfound =>
    alike_pure (rel_bind hfound fun _ _ hmap => hmap.find? name)

theorem alike_inputFieldList :
    t.inputFieldList.Alike (Option.Rel (InputValues.Alike R)) t'.inputFieldList :=
  alike_memo .inputFields (alike_optional hR h.node.record (by rfl) (InputValues.alike_read hR))

theorem alike_inputField? (name : String) :
    (t.inputField? name).Alike (Option.Rel (InputValue.Alike R)) (t'.inputField? name) :=
  alike_bind (alike_inputFieldList hR h) fun _ _ hfound =>
    alike_pure (rel_bind hfound fun _ _ hvalues => hvalues.find? name)

theorem alike_refs {key : String}
    (hkey : (Role.node .type).keys.lookup key = some .references) :
    (t.refs key).Alike Eq (t'.refs key) := by
  have hoptional : (t.refs key).Alike (Option.Rel Eq) (t'.refs key) :=
    alike_optional hR h.node.record hkey fun _ _ hitems =>
      View.alike_of_eq (TypeRef.readAll_eq hR hitems)
  refine Reading.Alike.imp hoptional fun found found' hfound => ?_
  cases hfound with
  | none => rfl
  | some hsame => rw [hsame]

theorem alike_interfaces : t.interfaces.Alike Eq t'.interfaces :=
  alike_memo .interfaces (alike_refs hR h rfl)

theorem alike_possibleTypes : t.possibleTypes.Alike Eq t'.possibleTypes :=
  alike_memo .possibleTypes (alike_refs hR h rfl)

theorem alike_enumValues (withDeprecated : Bool) :
    (t.enumValues withDeprecated).Alike (Option.Rel (List.Forall₂ (EnumValue.Alike R)))
      (t'.enumValues withDeprecated) :=
  alike_bind (alike_memo .enumValues (alike_optional hR h.node.record (by rfl)
    fun _ _ hitems => View.alike_read (EnumValue.alike_readAll hR hitems))) fun _ _ hfound =>
      alike_pure (rel_map hfound fun _ _ hlists => hlists withDeprecated)

end TypeDefinition

/-! ## Accessors of directives -/

namespace Directive

variable (hR : IsLikeness R) {d d' : Directive} (h : d.Alike R d')
include hR h

theorem alike_locations : d.locations.Alike Eq d'.locations := by
  have hrecord := h.record
  refine alike_memo .locations (View.alike_of_eq ?_)
  have hlocation : d.record.location = d'.record.location := by
    unfold Record.location
    rw [hrecord.place]
  rw [Record.readLocations, Record.readLocations, hlocation, Record.list_eq hR hrecord (by rfl)]

theorem alike_locationNames : d.locationNames.Alike Eq d'.locationNames := by
  have hrecord := h.record
  refine alike_memo .locationNames (View.alike_of_eq ?_)
  have hname : d.record.locationName = d'.record.locationName := by
    unfold Record.locationName
    rw [hrecord.place]
  rw [Record.readLocationNames, Record.readLocationNames, hname,
    Record.list_eq hR hrecord (by rfl)]

end Directive

/-! ## Accessors of schemas -/

namespace Schema

abbrev Alike (R : Role → Json → Json → Prop) (s s' : Schema) : Prop :=
  Record.Alike R (.node .schema) s.record s'.record

variable (hR : IsLikeness R)
include hR

/-- A schema is created from each of two alike documents, or from neither. -/
theorem alike_read {v w : Json} (h : R (.node .document) v w) :
    (read v).Alike (Alike R) (read w) := by
  have hdocument : Record.Alike R (.node .document) (.unnamed .document v)
    (.unnamed .document w) := ⟨rfl, h⟩
  refine Reading.alike_bind (Record.alike_object hR hdocument (by rfl) rfl)
    fun data data' hdata => ?_
  exact Reading.alike_bind (Record.alike_object hR hdata (by rfl) rfl) fun _ _ hschema =>
    Reading.alike_pure hschema

theorem rootName_eq {owner : Owner} {root root' : Json} (hroot : R (.node owner) root root')
    (hkey : (Role.node owner).keys.lookup "name" = some (.leaf .string)) :
    (Record.unnamed owner root).string "name" = (Record.unnamed owner root').string "name" :=
  Record.string_eq hR ⟨rfl, hroot⟩ hkey

section

variable {s s' : Schema} (h : s.Alike R s')
include h

theorem readQueryRootName_eq : s.readQueryRootName = s'.readQueryRootName :=
  Reading.Alike.eq (Reading.alike_bind (Record.alike_object hR h (by rfl) rfl) fun _ _ hroot =>
    Reading.alike_of_eq (Record.string_eq hR hroot (by rfl)))

theorem readMutationRootName_eq : s.readMutationRootName = s'.readMutationRootName := by
  refine Reading.Alike.eq (Reading.alike_bind (Record.alike_fetch hR h (by rfl))
    fun root root' hroot => ?_)
  split
  · rw [(hR.null_iff hroot).mp rfl]
    exact Reading.alike_pure rfl
  · rename_i hnull
    split
    · exact absurd ((hR.null_iff hroot).mpr rfl) hnull
    · rw [rootName_eq hR hroot (by rfl)]
      exact Reading.alike_of_eq rfl

theorem readSubscriptionRootName_eq :
    s.readSubscriptionRootName = s'.readSubscriptionRootName := by
  refine Reading.Alike.eq (Reading.alike_bind (Record.alike_find? hR h (by rfl))
    fun found found' hfound => ?_)
  cases hfound with
  | none => exact Reading.alike_pure rfl
  | some hroot =>
      dsimp only
      rw [rootName_eq hR hroot (by rfl)]
      exact Reading.alike_of_eq rfl

theorem readRoots_eq : s.readRoots = s'.readRoots := by
  rw [readRoots, readRoots, readQueryRootName_eq hR h, readMutationRootName_eq hR h]

theorem alike_structureText : s.structureText.Alike Eq s'.structureText :=
  alike_bind (View.alike_of_eq (readRoots_eq hR h)) fun _ _ hsame => alike_pure (by rw [hsame])

theorem alike_types : s.types.Alike (List.Forall₂ (TypeDefinition.Alike R)) s'.types := by
  refine alike_memo .types (View.alike_read ?_)
  refine Reading.alike_bind (Record.alike_list hR h (by rfl)) fun xs ys hitems => ?_
  refine Reading.alike_bind (TypeDefinition.alike_readSorted hR hitems) fun ts ts' hts => ?_
  rw [hts.1]
  exact Reading.alike_bind (Reading.alike_note _) fun _ _ _ => Reading.alike_pure hts.2

theorem alike_typesByName :
    s.typesByName.Alike (NameMap.Alike (TypeDefinition.Alike R)) s'.typesByName :=
  alike_memo .typesByName (alike_bind (alike_types hR h) fun _ _ hts =>
    alike_pure (NameMap.alike_of hts fun _ _ ht => ht.node.name))

theorem alike_directives :
    s.directives.Alike (List.Forall₂ (Directive.Alike R)) s'.directives := by
  refine alike_memo .directives (View.alike_read ?_)
  refine Reading.alike_bind (Record.alike_list hR h (by rfl)) fun xs ys hitems => ?_
  refine Reading.alike_bind (Directive.alike_readSorted hR hitems) fun ds ds' hds => ?_
  rw [hds.1]
  exact Reading.alike_bind (Reading.alike_note _) fun _ _ _ => Reading.alike_pure hds.2

end

theorem alike_create {v w : Json} (h : R (.node .document) v w) :
    (create v).Alike (Alike R) (create w) := by
  refine Reading.alike_bind (alike_read hR h) fun s s' hs => ?_
  refine Reading.alike_bind (Reading.alike_of_eq (readRoots_eq hR hs)) fun roots _ hsame => ?_
  subst hsame
  exact Reading.alike_bind (Reading.alike_note _) fun _ _ _ => Reading.alike_pure hs

end Schema

end Introspection
