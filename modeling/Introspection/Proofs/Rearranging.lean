import Introspection.Proofs.LikeTranscripts
import Introspection.Proofs.OwnNode
/-!
# The order of sorted lists is free

Types, directives, enum values, interfaces and possible types are sorted by name, so a document
can list them in any order as long as all of them can be read and their names differ. No step can
tell the order, but for one that asks for the JSON of the schema or of a type.
-/

namespace Introspection

/-- Whether lists that stand below the nodes of an owner are sorted when they are read. -/
def Owner.isOuter : Owner → Bool
  | document | data | schema | type => true
  | _ => false

namespace Role

mutual

/-- Two values in a role that differ in the order of sorted lists: of the types and the directives
of a schema, and of the enum values, interfaces and possible types of each type. -/
inductive Rearranged : Role → Json → Json → Prop
  | same {role : Role} {v : Json} : Rearranged role v v
  | members {owner : Owner} {ms ms' : List (String × Json)} (outer : owner.isOuter = true)
      (all : RearrangedMembers owner.keys ms ms') : Rearranged (.node owner) (.obj ms) (.obj ms')
  | items {role item : Role} {xs ys : List Json} (list : role.item? = some item)
      (order : item.Reordered xs ys) : Rearranged role (.arr xs) (.arr ys)
  | types {shape : Shape} {xs mid ys : List Json}
      (each : List.Forall₂ (Rearranged (.node .type)) xs mid)
      (order : mid = ys ∨ (Role.node .type).Reordered mid ys) :
      Rearranged (.nodes .type shape) (.arr xs) (.arr ys)

inductive RearrangedMembers :
    List (String × Role) → List (String × Json) → List (String × Json) → Prop
  | nil {keys : List (String × Role)} : RearrangedMembers keys [] []
  | same {keys : List (String × Role)} {m : String × Json} {ms ms' : List (String × Json)}
      (rest : RearrangedMembers keys ms ms') : RearrangedMembers keys (m :: ms) (m :: ms')
  | known {keys : List (String × Role)} {key : String} {under : Role} {v w : Json}
      {ms ms' : List (String × Json)} (found : keys.lookup key = some under)
      (first : Rearranged under v w) (rest : RearrangedMembers keys ms ms') :
      RearrangedMembers keys ((key, v) :: ms) ((key, w) :: ms')

end

theorem RearrangedMembers.lookup {keys : List (String × Role)} {key : String} {under : Role}
    (hkey : keys.lookup key = some under) {ms ms' : List (String × Json)}
    (h : RearrangedMembers keys ms ms') :
    Option.Rel (Rearranged under) (ms.lookup key) (ms'.lookup key) := by
  induction ms generalizing ms' with
  | nil =>
      cases h
      exact .none
  | cons m ms ih =>
      cases h with
      | same rest =>
          rw [List.lookup_cons, List.lookup_cons]
          split
          · exact .some .same
          · exact ih rest
      | known found first rest =>
          rw [List.lookup_cons, List.lookup_cons]
          split
          · rename_i heq
            obtain rfl := eq_of_beq heq
            obtain rfl := Option.some.inj (hkey.symm.trans found)
            exact .some first
          · exact ih rest

theorem rearranged_self (item : Role) (xs : List Json) : List.Forall₂ (Rearranged item) xs xs :=
  List.forall₂_same.mpr fun _ _ => .same

theorem isLikeness_rearranged : IsLikeness Rearranged where
  leaf h := by
    cases h with
    | same => rfl
    | items list _ => cases list
  form h := by
    cases h with
    | same => exact .inl rfl
    | members _ _ => exact .inr (.inl ⟨rfl, rfl⟩)
    | items _ _ => exact .inr (.inr ⟨_, _, rfl, rfl⟩)
    | types _ _ => exact .inr (.inr ⟨_, _, rfl, rfl⟩)
  member {role under key v w} h hkey := by
    cases h with
    | same =>
        cases v.member? key with
        | none => exact .none
        | some x => exact .some .same
    | members _ all => exact all.lookup hkey
    | items _ _ => exact .none
    | types _ _ => exact .none
  items {role item xs ys} h hitem := by
    cases h with
    | same => exact ⟨xs, rearranged_self item xs, .inl rfl⟩
    | items list order =>
        obtain rfl := Option.some.inj (list.symm.trans hitem)
        exact ⟨xs, rearranged_self _ xs, .inr order⟩
    | types each order =>
        obtain rfl := Option.some.inj hitem
        exact ⟨_, each, order⟩

/-- Below other nodes no list is sorted. -/
theorem Rearranged.eq {owner : Owner} {v w : Json} (h : Rearranged (.node owner) v w)
    (hinner : owner.isOuter = false) : v = w := by
  cases h with
  | same => rfl
  | members outer _ => rw [hinner] at outer; cases outer
  | items list _ => cases list

end Role

/-! ## Steps -/

/-- A chain asks for the JSON of the schema or of a type, and it is not the same. -/
def Schema.ShowsOrder (s s' : Schema) (chain : Chain) : Prop :=
  ∃ owner v w, (owner = .schema ∨ owner = .type) ∧ s.Shows s' chain (.node owner) v w ∧ v ≠ w

theorem Schema.Shows.eq_of_not_showsOrder {s s' : Schema} {chain : Chain} {role : Role} {v w : Json}
    (h : s.Shows s' chain role v w) (hvw : role.Rearranged v w) (horder : ¬ s.ShowsOrder s' chain) :
    v = w := by
  by_contra hdiffer
  obtain ⟨before, e, e', hchain, hs, hs', hsite, hsite'⟩ := h
  have hshows : s.Shows s' chain role v w := ⟨before, e, e', hchain, hs, hs', hsite, hsite'⟩
  cases e with
  | schema _ => cases hsite; exact horder ⟨.schema, _, _, .inl rfl, hshows, hdiffer⟩
  | type _ => cases hsite; exact horder ⟨.type, _, _, .inr rfl, hshows, hdiffer⟩
  | ref _ => cases hsite
  | plain _ => cases hsite
  | _ => cases hsite; exact hdiffer (hvw.eq rfl)

namespace Transcript

/-- In whatever order a document lists what is sorted, the steps of a session log the same and
turn out the same, if none of them asks for the JSON of a node in which the order can be seen. -/
theorem eq_of_rearranged {document document' : Json}
    (h : (Role.node .document).Rearranged document document') (recording : Bool)
    (chains : List Chain)
    (horder : ∀ s s', (Schema.create document).result = .ok s →
      (Schema.create document').result = .ok s' → ∀ chain ∈ chains, ¬ s.ShowsOrder s' chain) :
    Transcript.of recording document chains = Transcript.of recording document' chains :=
  (agree_of_alike Role.isLikeness_rearranged h recording chains).eq
    fun s s' hs hs' chain hchain _ _ _ hshows hvw =>
      hshows.eq_of_not_showsOrder hvw (horder s s' hs hs' chain hchain)

def palette (types : List Json) : Json :=
  .obj [("data", .obj [("__schema", .obj [("types", .arr types)])])]

def enumNode (values : List String) : Json :=
  .obj [("enumValues", .arr (values.map fun value => .obj [("name", .str value)])),
    ("kind", .str "ENUM"), ("name", .str "Color")]

theorem rearranged_palette : (Role.node .document).Rearranged
    (palette [enumNode ["RED", "BLUE"], scalarNode])
    (palette [scalarNode, enumNode ["BLUE", "RED"]]) := by
  have hvalues : (Role.node .enumValue).Reordered
      (["RED", "BLUE"].map fun value => .obj [("name", .str value)])
      (["BLUE", "RED"].map fun value => .obj [("name", .str value)]) :=
    ⟨.swap _ _ _, ["RED", "BLUE"], rfl, by decide⟩
  have hcolor : (Role.node .type).Rearranged (enumNode ["RED", "BLUE"])
      (enumNode ["BLUE", "RED"]) :=
    .members rfl (.known rfl (.items rfl hvalues) (.same (.same .nil)))
  have htypes : (Role.node .type).Reordered [enumNode ["BLUE", "RED"], scalarNode]
      [scalarNode, enumNode ["BLUE", "RED"]] := ⟨.swap _ _ _, ["Color", "Date"], rfl, by decide⟩
  refine .members rfl (.known rfl (.members rfl (.known rfl (.members rfl (.known rfl ?_ .nil))
    .nil)) .nil)
  exact .types (.cons hcolor (.cons .same .nil)) (.inr htypes)

theorem eq_of_rearranged_palette :
    Transcript.of true (palette [enumNode ["RED", "BLUE"], scalarNode])
        [[.types, .item (.integer 0), .enumValues true], [.typesByName]] =
      Transcript.of true (palette [scalarNode, enumNode ["BLUE", "RED"]])
        [[.types, .item (.integer 0), .enumValues true], [.typesByName]] := by
  refine eq_of_rearranged rearranged_palette true _ fun s s' _ _ chain hchain hshows => ?_
  obtain ⟨_, _, _, _, hjson, _⟩ := hshows
  have hnone : ∀ chain ∈ [[Call.types, .item (.integer 0), .enumValues true], [.typesByName]],
      Call.json ∉ chain := by decide
  exact hnone chain hchain hjson.json_mem

end Transcript

end Introspection
