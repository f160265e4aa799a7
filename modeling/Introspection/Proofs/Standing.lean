import Introspection.Proofs.Direct
import Introspection.Proofs.Endings
import Introspection.Proofs.NameOrder
/-!
# Where entities stand

An entity stands for a node of a document: it has the name and the kind that can be read from the
node and nothing else. What is read from a list of nodes stands for nodes of the list, and a fault
that ends such a reading arises at one of the nodes or below it.
-/

namespace Introspection

open Reading Fault

/-! ## Faults below a node -/

def Fault.Below (known : Json → Bool) (role : Role) (v : Json) (fault : Fault) : Prop :=
  ∃ below w, role.Holds v below w ∧ fault.Tells known below (below.place w) w

/-- A fault that tells what is so of a value that is read of a node by some of its keys. -/
def Fault.Arises (known : Json → Bool) (role : Role) (keys : List String) (v : Json)
    (fault : Fault) : Prop :=
  ∃ below w, role.Reads keys v below w ∧ fault.Tells known below (below.place w) w

section

variable {known : Json → Bool} {role under : Role} {v x : Json} {key : String}
  {keys : List String} {fault : Fault}

theorem Fault.Tells.below (h : fault.Tells known role (role.place v) v) :
    fault.Below known role v := ⟨role, v, .self, h⟩

theorem Fault.Arises.below (h : fault.Arises known role keys v) : fault.Below known role v := by
  obtain ⟨below, w, hreads, htells⟩ := h
  exact ⟨below, w, hreads.holds, htells⟩

theorem Fault.Below.above {above : Role} {w : Json} (h : fault.Below known role v)
    (hholds : above.Holds w role v) : fault.Below known above w := by
  obtain ⟨below, x, hbelow, htells⟩ := h
  exact ⟨below, x, hholds.trans hbelow, htells⟩

theorem Fault.arises_own (h : fault.Tells known role (role.place v) v) :
    fault.Arises known role keys v :=
  ⟨role, v, .inl ⟨rfl, rfl⟩, h⟩

theorem Fault.arises_under (hmem : key ∈ keys) (hkey : role.keys.lookup key = some under)
    (hfound : v.member? key = some x) (h : fault.Below known under x) :
    fault.Arises known role keys v := by
  obtain ⟨below, w, hbelow, htells⟩ := h
  exact ⟨below, w, .inr ⟨key, hmem, under, x, hkey, hfound, hbelow⟩, htells⟩

end

/-! ## Type references -/

theorem TypeRef.ends_read {known : Json → Bool} (json : Json) :
    (TypeRef.read json).Ends (fun _ => True) (Below known .reference json) := by
  induction json using TypeRef.read.induct with
  | case1 json record ih =>
      have hown : ∀ fault, Tells known .reference record.place json fault →
          Below known .reference json fault := fun fault h => Tells.below h
      rw [TypeRef.read]
      refine ends_bind ((Record.ends_kind rfl).imp_fault hown) fun kind hkind => ?_
      cases wrapper? kind with
      | none =>
          exact ends_bind ((Record.ends_string (by rfl) rfl).imp_fault hown)
            fun name _ => ends_pure trivial
      | some wrap =>
          refine ends_bind ((Record.ends_member (by rfl)).imp_fault hown) fun inner _ => ?_
          obtain ⟨x, hx, hread⟩ := hkind
          dsimp only
          split
          · rename_i hnull
            exact ends_fail (hown _ (.wrapsNull rfl hx hread (hnull ▸ inner.2)))
          · refine ends_bind ((ih inner.1 inner.2).imp_fault fun fault h => ?_)
              fun ref _ => ends_pure trivial
            exact h.above (.member .self (by rfl) inner.2)

theorem TypeRef.ends_readAll {known : Json → Bool} (items : List Json) :
    (TypeRef.readAll items).Ends (fun _ => True) (Below known .references (.arr items)) := by
  have hitems : ∀ item ∈ items, (TypeRef.read item).Ends (fun _ => True)
      (Below known .references (.arr items)) := fun item hitem =>
    (TypeRef.ends_read item).imp_fault fun fault h => h.above (.reference .self hitem)
  exact ends_bind (ends_mapM hitems) fun refs _ => ends_pure trivial

/-! ## Nodes -/

structure Node.Stands (owner : Owner) (n : Node) : Prop where
  owner : n.owner = owner
  name : n.json.member? "name" = some (.str n.name)

structure TypeDefinition.Stands (t : TypeDefinition) : Prop where
  node : t.toNode.Stands .type
  kind : ∃ x, t.json.member? "kind" = some x ∧ TypeKind.read? x = some t.kind

theorem Node.Stands.place {owner : Owner} {n : Node} (h : n.Stands owner)
    (hnamed : owner.isNamed = true) : n.record.place = (Role.node owner).place n.json := by
  rw [Role.place, hnamed, if_pos rfl, h.name]
  exact congrArg (Place.mk · (some n.name)) h.owner

/-- A node that has no name yet is called by its owner alone. -/
theorem Node.ends_read {owner : Owner} (hnamed : owner.isNamed = true) {known : Json → Bool}
    (json : Json) : (Node.read owner json).Ends (fun n => n.json = json ∧ n.Stands owner)
      (fun fault => fault.Tells known (.node owner) ((Role.node owner).place json) json) := by
  have hkey := Owner.keys_name hnamed
  refine ends_bind (Q := fun s => json.member? "name" = some (.str s)) ?_ fun name hname =>
    ends_pure ⟨rfl, rfl, hname⟩
  have hread : ((Record.unnamed owner json).string "name").Ends
      (fun s => json.member? "name" = some (.str s))
      (Tells known (.node owner) ⟨owner, none⟩ json) := Record.ends_string hkey rfl
  unfold Ends at hread ⊢
  cases hresult : ((Record.unnamed owner json).string "name").result with
  | ok name =>
      rw [hresult] at hread
      exact hread
  | error fault =>
      rw [hresult] at hread
      -- The name could not be read, so the place of the node has none.
      have hplace : (Role.node owner).place json = ⟨owner, none⟩ := by
        rw [Role.place, hnamed, if_pos rfl]
        cases hmember : json.member? "name" with
        | none => rfl
        | some x =>
            cases x with
            | str name =>
                rw [Record.string_of_member? (r := Record.unnamed owner json) hmember] at hresult
                cases hresult
            | _ => rfl
      rw [hplace]
      exact hread

section

variable {known : Json → Bool} (json : Json)

theorem TypeDefinition.ends_read : (TypeDefinition.read json).Ends
    (fun t => t.json = json ∧ t.Stands) (Below known (.node .type) json) := by
  refine ends_bind ((Node.ends_read rfl json).imp_fault fun _ => Tells.below)
    fun node hnode => ?_
  obtain ⟨rfl, hstands⟩ := hnode
  have hkind : node.record.kind.Ends _ (Tells known (.node .type) node.record.place node.json) :=
    Record.ends_kind rfl
  rw [hstands.place rfl] at hkind
  exact ends_bind (hkind.imp_fault fun _ => Tells.below) fun kind hkind =>
    ends_pure ⟨rfl, hstands, hkind⟩

theorem Field.ends_read : (Field.read json).Ends
    (fun f => f.json = json ∧ f.toNode.Stands .field) (Below known (.node .field) json) :=
  ends_bind ((Node.ends_read rfl json).imp_fault fun _ => Tells.below) fun _ h => ends_pure h

theorem InputValue.ends_read : (InputValue.read json).Ends
    (fun v => v.json = json ∧ v.toNode.Stands .inputValue)
    (Below known (.node .inputValue) json) :=
  ends_bind ((Node.ends_read rfl json).imp_fault fun _ => Tells.below) fun _ h => ends_pure h

theorem EnumValue.ends_read : (EnumValue.read json).Ends
    (fun v => v.json = json ∧ v.toNode.Stands .enumValue)
    (Below known (.node .enumValue) json) :=
  ends_bind ((Node.ends_read rfl json).imp_fault fun _ => Tells.below) fun _ h => ends_pure h

theorem Directive.ends_read : (Directive.read json).Ends
    (fun d => d.json = json ∧ d.toNode.Stands .directive)
    (Below known (.node .directive) json) :=
  ends_bind ((Node.ends_read rfl json).imp_fault fun _ => Tells.below) fun _ h => ends_pure h

end

end Introspection
