import Introspection.Schema
/-!
# Readings that log nothing but their fault

Most readings are plain: one that succeeds logs nothing, and one that fails logs the line of its
fault, if faults like it have one. Plain readings stay plain in a sequence, since all but the
last of a sequence have succeeded.
-/

namespace Introspection

def faultLines {α : Type} : Except Fault α → List LogLine
  | .ok _ => []
  | .error fault => fault.line?.toList

namespace Reading

variable {α β : Type}

/-- A reading that logs nothing but the line of the fault that it ends with. -/
def Plain (r : Reading α) : Prop := r.log = faultLines r.result

theorem log_of_ok {r : Reading α} (h : r.Plain) {a : α} (ha : r.result = .ok a) :
    r.log = [] := by
  rw [h, ha, faultLines]

theorem log_of_error {r : Reading α} (h : r.Plain) {fault : Fault}
    (hf : r.result = .error fault) : r.log = fault.line?.toList := by
  rw [h, hf, faultLines]

theorem plain_pure (a : α) : (pure a : Reading α).Plain := rfl

theorem plain_fail (fault : Fault) : (fail fault : Reading α).Plain := rfl

theorem plain_require (fault : Fault) (found : Option α) : (require fault found).Plain := by
  cases found with
  | none => exact plain_fail fault
  | some a => exact plain_pure a

theorem plain_bind {r : Reading α} {next : α → Reading β} (hr : r.Plain)
    (hnext : ∀ a, (next a).Plain) : (r >>= next).Plain := by
  unfold Plain
  rw [bind_eq, andThen]
  cases h : r.result with
  | error fault => exact log_of_error hr h
  | ok a =>
      simp only [log_of_ok hr h, List.nil_append]
      exact hnext a

theorem plain_map (f : α → β) {r : Reading α} (hr : r.Plain) : (f <$> r).Plain := by
  rw [← bind_pure_comp]
  exact plain_bind hr fun a => plain_pure (f a)

theorem plain_mapM {read : α → Reading β} (h : ∀ a, (read a).Plain) (items : List α) :
    (items.mapM read).Plain := by
  induction items with
  | nil => rw [List.mapM_nil]; exact plain_pure []
  | cons item items ih =>
      rw [List.mapM_cons]
      exact plain_bind (h item) fun a => plain_bind ih fun as => plain_pure (a :: as)

end Reading

open Reading

namespace Record

variable (r : Record) (key : String)

theorem plain_member : (r.member key).Plain := by
  unfold member
  cases r with
  | mk place json =>
      cases json with
      | obj members =>
          dsimp only
          split
          · exact plain_pure _
          · exact plain_fail _
      | _ => exact plain_fail _

theorem plain_fetch : (r.fetch key).Plain :=
  plain_bind (r.plain_member key) fun found => plain_pure found.1

theorem plain_unexpected {α : Type} (shape : Shape) :
    (r.unexpected key shape : Reading α).Plain :=
  plain_fail _

theorem plain_object (owner : Owner) : (r.object key owner).Plain := by
  refine plain_bind (r.plain_fetch key) fun value => ?_
  cases value with
  | null => exact plain_fail _
  | obj members => exact plain_pure _
  | _ => exact r.plain_unexpected key .object

theorem plain_string : (r.string key).Plain := by
  refine plain_bind (r.plain_fetch key) fun value => ?_
  cases value with
  | str s => exact plain_pure s
  | _ => exact r.plain_unexpected key .string

theorem plain_stringOrNull : (r.stringOrNull key).Plain := by
  refine plain_bind (r.plain_fetch key) fun value => ?_
  cases value with
  | null => exact plain_pure none
  | str s => exact plain_pure (some s)
  | _ => exact r.plain_unexpected key .stringOrNull

theorem plain_bool : (r.bool key).Plain := by
  refine plain_bind (r.plain_fetch key) fun value => ?_
  cases value with
  | bool b => exact plain_pure b
  | _ => exact r.plain_unexpected key .bool

theorem plain_listOrNull : (r.listOrNull key).Plain := by
  refine plain_bind (r.plain_fetch key) fun value => ?_
  cases value with
  | null => exact plain_pure none
  | arr items => exact plain_pure (some items)
  | _ => exact r.plain_unexpected key .listOrNull

theorem plain_list : (r.list key).Plain := by
  refine plain_bind (r.plain_listOrNull key) fun found => ?_
  cases found with
  | none => exact r.plain_unexpected key .list
  | some items => exact plain_pure items

theorem plain_kind : r.kind.Plain :=
  plain_bind (r.plain_fetch "kind") fun value => plain_require _ (TypeKind.read? value)

end Record

/-! ## Optional keys -/

namespace Record

variable {r : Record} {key : String}

def Lacks (r : Record) (key : String) : Prop :=
  ∃ members, r.json = .obj members ∧ members.lookup key = none

theorem find?_of_lacks (h : r.Lacks key) :
    r.find? key = ⟨[.missing key r.place], .ok none⟩ := by
  obtain ⟨members, hjson, hkey⟩ := h
  simp only [find?, hjson, hkey]
  rfl

theorem string?_of_lacks (h : r.Lacks key) :
    r.string? key = ⟨[.missing key r.place], .ok none⟩ := by
  rw [string?, find?_of_lacks h]
  rfl

theorem bool?_of_lacks (h : r.Lacks key) :
    r.bool? key = ⟨[.missing key r.place], .ok none⟩ := by
  rw [bool?, find?_of_lacks h]
  rfl

theorem plain_find? (h : ¬ r.Lacks key) : (r.find? key).Plain := by
  unfold find?
  cases hjson : r.json with
  | obj members =>
      dsimp only
      cases hkey : members.lookup key with
      | none => exact absurd ⟨members, hjson, hkey⟩ h
      | some value => cases value <;> exact plain_pure _
  | _ => exact plain_fail _

theorem plain_string? (h : ¬ r.Lacks key) : (r.string? key).Plain := by
  refine plain_bind (plain_find? h) fun found => ?_
  cases found with
  | none => exact plain_pure none
  | some value =>
      cases value with
      | str s => exact plain_pure (some s)
      | _ => exact r.plain_unexpected key .stringOrNull

theorem plain_bool? (h : ¬ r.Lacks key) : (r.bool? key).Plain := by
  refine plain_bind (plain_find? h) fun found => ?_
  cases found with
  | none => exact plain_pure none
  | some value =>
      cases value with
      | bool b => exact plain_pure (some b)
      | _ => exact r.plain_unexpected key .boolOrNull

end Record

/-! ## References and entities -/

theorem TypeRef.plain_read (json : Json) : (TypeRef.read json).Plain := by
  induction json using TypeRef.read.induct with
  | case1 json record ih =>
      rw [TypeRef.read]
      refine plain_bind (Record.plain_kind _) fun kind => ?_
      cases wrapper? kind with
      | none =>
          exact plain_bind (Record.plain_string _ "name") fun name => plain_pure _
      | some wrap =>
          refine plain_bind (Record.plain_member _ "ofType") fun inner => ?_
          dsimp only
          split
          · exact plain_fail _
          · exact plain_bind (ih inner.1 inner.2) fun ref => plain_pure (wrap ref)

theorem Record.plain_readType (r : Record) : r.readType.Plain :=
  plain_bind (r.plain_fetch "type") TypeRef.plain_read

theorem Node.plain_read (owner : Owner) (json : Json) : (Node.read owner json).Plain :=
  plain_bind (Record.plain_string _ "name") fun _ => plain_pure _

theorem TypeDefinition.plain_read (json : Json) : (TypeDefinition.read json).Plain :=
  plain_bind (Node.plain_read .type json) fun node =>
    plain_bind node.record.plain_kind fun _ => plain_pure _

theorem Field.plain_read (json : Json) : (Field.read json).Plain :=
  plain_bind (Node.plain_read .field json) fun _ => plain_pure _

theorem InputValue.plain_read (json : Json) : (InputValue.read json).Plain :=
  plain_bind (Node.plain_read .inputValue json) fun _ => plain_pure _

theorem EnumValue.plain_read (json : Json) : (EnumValue.read json).Plain :=
  plain_bind (Node.plain_read .enumValue json) fun _ => plain_pure _

theorem Directive.plain_read (json : Json) : (Directive.read json).Plain :=
  plain_bind (Node.plain_read .directive json) fun _ => plain_pure _

theorem Node.plain_isDeprecated (n : Node) : n.isDeprecated.Plain :=
  n.record.plain_bool "isDeprecated"

/-! ## Lists -/

theorem Deprecatables.plain_activeOf {α : Type} {isDeprecated : α → Reading Bool}
    (h : ∀ a, (isDeprecated a).Plain) (items : List α) :
    (activeOf isDeprecated items).Plain := by
  induction items with
  | nil => exact plain_pure []
  | cons item items ih =>
      rw [activeOf]
      exact plain_bind (h item) fun deprecated => plain_bind ih fun _ => plain_pure _

theorem Deprecatables.plain_ofAll {α : Type} {isDeprecated : α → Reading Bool}
    (h : ∀ a, (isDeprecated a).Plain) (items : List α) :
    (ofAll isDeprecated items).Plain :=
  plain_bind (plain_activeOf h items) fun _ => plain_pure _

theorem Field.plain_readAll (items : List Json) : (Field.readAll items).Plain :=
  plain_bind (plain_mapM Field.plain_read items) fun fields =>
    Deprecatables.plain_ofAll (fun field => field.plain_isDeprecated) fields

theorem EnumValue.plain_readAll (items : List Json) : (EnumValue.readAll items).Plain :=
  plain_bind (plain_mapM EnumValue.plain_read items) fun _ =>
    Deprecatables.plain_ofAll (fun value => value.plain_isDeprecated) _

theorem TypeRef.plain_readAll (items : List Json) : (TypeRef.readAll items).Plain :=
  plain_bind (plain_mapM TypeRef.plain_read items) fun _ => plain_pure _

theorem Record.plain_readLocations (r : Record) : r.readLocations.Plain :=
  plain_bind (r.plain_list "locations") (plain_mapM fun _ => plain_require _ _)

theorem Record.plain_readLocationNames (r : Record) : r.readLocationNames.Plain :=
  plain_bind (r.plain_list "locations") (plain_mapM fun _ => plain_require _ _)

/-! ## Schemas -/

namespace Schema

variable (s : Schema)

theorem plain_readQueryRootName : s.readQueryRootName.Plain :=
  plain_bind (s.record.plain_object "queryType" .queryType) fun root => root.plain_string "name"

theorem plain_readMutationRootName : s.readMutationRootName.Plain := by
  refine plain_bind (s.record.plain_fetch "mutationType") fun root => ?_
  cases root with
  | null => exact plain_pure none
  | _ => exact plain_map some (Record.plain_string _ "name")

theorem readSubscriptionRootName_of_lacks (h : s.record.Lacks "subscriptionType") :
    s.readSubscriptionRootName = ⟨[.missing "subscriptionType" s.record.place], .ok none⟩ := by
  rw [readSubscriptionRootName, Record.find?_of_lacks h]
  rfl

theorem plain_readSubscriptionRootName (h : ¬ s.record.Lacks "subscriptionType") :
    s.readSubscriptionRootName.Plain := by
  refine plain_bind (Record.plain_find? h) fun found => ?_
  cases found with
  | none => exact plain_pure none
  | some root => exact plain_map some (Record.plain_string _ "name")

theorem plain_read (document : Json) : (Schema.read document).Plain :=
  plain_bind (Record.plain_object _ "data" .data) fun data =>
    plain_bind (data.plain_object "__schema" .schema) fun _ => plain_pure _

end Schema

end Introspection
