import Introspection.Proofs.LikeTranscripts
/-!
# Unknown keys are ignored

Pruning leaves out of each node of a document the keys that the node is not read by. What has no
keys in its role is left as it is. A pruned document is alike the whole one, so that no step can
tell them apart, but for the JSON of a node, which is pruned as well.
-/

namespace Introspection

namespace Role

def isNode : Role → Bool
  | node _ => true
  | reference => true
  | _ => false

mutual

/-- A value in a role without the keys that are not read. -/
def prune : Role → Json → Json
  | role, .arr items =>
      match role.item? with
      | some item => .arr (pruneItems item items)
      | none => .arr items
  | role, .obj members =>
      if role.isNode then .obj (pruneMembers role.keys members) else .obj members
  | _, v => v

def pruneItems : Role → List Json → List Json
  | _, [] => []
  | item, v :: items => item.prune v :: pruneItems item items

def pruneMembers : List (String × Role) → List (String × Json) → List (String × Json)
  | _, [] => []
  | known, (key, v) :: members =>
      match known.lookup key with
      | some under => (key, under.prune v) :: pruneMembers known members
      | none => pruneMembers known members

end

theorem pruneItems_eq_map (item : Role) (items : List Json) :
    pruneItems item items = items.map item.prune := by
  induction items with
  | nil => rfl
  | cons v items ih => rw [pruneItems, ih, List.map_cons]

theorem lookup_pruneMembers {known : List (String × Role)} {key : String} {under : Role}
    (h : known.lookup key = some under) (members : List (String × Json)) :
    (pruneMembers known members).lookup key = (members.lookup key).map under.prune := by
  induction members with
  | nil => rfl
  | cons m members ih =>
      obtain ⟨k, v⟩ := m
      rw [pruneMembers, List.lookup_cons]
      by_cases hkey : key = k
      · subst hkey
        rw [h, beq_self_eq_true]
        dsimp only
        rw [List.lookup_cons, beq_self_eq_true]
        rfl
      · rw [beq_eq_false_iff_ne.mpr hkey]
        cases known.lookup k with
        | none => exact ih
        | some other =>
            dsimp only
            rw [List.lookup_cons, beq_eq_false_iff_ne.mpr hkey]
            exact ih

/-- Only nodes are read by keys. -/
theorem isNode_of_lookup {role under : Role} {key : String}
    (h : role.keys.lookup key = some under) : role.isNode = true := by
  cases role with
  | node owner => rfl
  | reference => rfl
  | _ => cases h

theorem prune_obj {role : Role} (h : role.isNode = true) (members : List (String × Json)) :
    role.prune (.obj members) = .obj (pruneMembers role.keys members) := by
  rw [prune, if_pos h]

theorem prune_arr {role item : Role} (h : role.item? = some item) (items : List Json) :
    role.prune (.arr items) = .arr (items.map item.prune) := by
  rw [prune, h, ← pruneItems_eq_map]

/-- What stands under a known key of a pruned value stood there before, and is pruned. -/
theorem member?_prune {role under : Role} {key : String} (h : role.keys.lookup key = some under)
    (v : Json) : (role.prune v).member? key = (v.member? key).map under.prune := by
  cases v with
  | obj members =>
      rw [prune_obj (isNode_of_lookup h)]
      exact lookup_pruneMembers h members
  | arr items =>
      rw [prune]
      split <;> rfl
  | _ => rfl

theorem isLikeness_prune : IsLikeness fun role v w => w = role.prune v where
  leaf := by
    rintro shape v w rfl
    cases v <;> rfl
  form := by
    rintro role v w rfl
    cases v with
    | obj members =>
        rw [prune]
        split
        · exact .inr (.inl ⟨rfl, rfl⟩)
        · exact .inl rfl
    | arr items =>
        rw [prune]
        split
        · exact .inr (.inr ⟨_, _, rfl, rfl⟩)
        · exact .inl rfl
    | _ => exact .inl rfl
  member := by
    rintro role under key v w rfl hkey
    rw [member?_prune hkey]
    cases v.member? key with
    | none => exact .none
    | some x => exact .some rfl
  items := by
    rintro role item xs ys h hitem
    rw [prune_arr hitem] at h
    obtain rfl := Json.arr.inj h
    refine ⟨_, ?_, .inl rfl⟩
    rw [List.forall₂_map_right_iff, List.forall₂_same]
    exact fun _ _ => rfl

end Role

namespace Transcript

/-- Steps on a pruned document log the same and turn out the same as on the whole one. Where a
step ends with the JSON of a node, it has the pruned node; where none does, the transcripts are
the same. -/
theorem agree_prune (document : Json) (recording : Bool) (chains : List Chain) :
    Agree (fun role v w => w = role.prune v) document ((Role.node .document).prune document) chains
        (Transcript.of recording document chains)
        (Transcript.of recording ((Role.node .document).prune document) chains) ∧
      ((∀ chain ∈ chains, .json ∉ chain) →
        Transcript.of recording document chains =
          Transcript.of recording ((Role.node .document).prune document) chains) := by
  have hagree : Agree (fun role v w => w = role.prune v) document _ chains _ _ :=
    agree_of_alike Role.isLikeness_prune rfl recording chains
  refine ⟨hagree, fun hjson => hagree.eq fun s s' _ _ chain hchain _ _ _ hshows _ => ?_⟩
  exact absurd hshows.json_mem (hjson chain hchain)

def overfull : Json :=
  .obj [("data", .obj [("__schema", .obj [("comment", .null), ("types", .arr [.obj
    [("kind", .str "OBJECT"), ("name", .str "Query"), ("interfaces", .arr [.obj
      [("kind", .str "INTERFACE"), ("name", .str "Node"), ("origin", .str "Relay")]]),
      ("isOneOf", .bool false)]])])]), ("extensions", .obj [])]

theorem agree_prune_overfull : (Role.node .document).prune overfull ≠ overfull ∧
    Transcript.of true overfull [[.types, .item (.integer 0), .interfaces]] =
      Transcript.of true ((Role.node .document).prune overfull)
        [[.types, .item (.integer 0), .interfaces]] :=
  ⟨by decide, (agree_prune overfull true _).2 (by decide)⟩

end Transcript

end Introspection
