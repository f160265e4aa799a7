/-!
# JSON values

A document is a finite tree. An object lists its members in the order of their keys, each key
once: `insertMember` keeps that order, and a key that is written again takes the later value.
Two values are equal exactly when `Json.beq` says so, which lets a value be the key of a table.
-/

namespace Introspection

/-- An integer, or a double by the bits of its binary format. -/
inductive Number where
  | integer (value : Int)
  | double (bits : UInt64)
  deriving DecidableEq, Hashable

def Number.natural? : Number → Option Nat
  | .integer n => if 0 ≤ n then some n.toNat else none
  | .double _ => none

inductive Json where
  | null
  | bool (value : Bool)
  | num (value : Number)
  | str (value : String)
  | arr (items : List Json)
  | obj (members : List (String × Json))
  deriving Hashable, Inhabited

def insertMember {α : Type} (key : String) (value : α) :
    List (String × α) → List (String × α)
  | [] => [(key, value)]
  | (k, v) :: rest =>
      if key < k then (key, value) :: (k, v) :: rest
      else if key = k then (key, value) :: rest
      else (k, v) :: insertMember key value rest

namespace Json

/-- The object with these members; of two with one key the later one stands. -/
def ofMembers (members : List (String × Json)) : Json :=
  .obj (members.foldl (fun sorted (key, value) => insertMember key value sorted) [])

def member? (key : String) : Json → Option Json
  | .obj members => members.lookup key
  | _ => none

def ofOption {α : Type} (write : α → Json) : Option α → Json
  | none => .null
  | some a => write a

def string? : Json → Option String
  | .str s => some s
  | _ => none

def items? : Json → Option (List Json)
  | .arr items => some items
  | _ => none

def bool? : Json → Option Bool
  | .bool b => some b
  | _ => none

mutual

def beq : Json → Json → Bool
  | .null, .null => true
  | .bool a, .bool b => a == b
  | .num a, .num b => a == b
  | .str a, .str b => a == b
  | .arr as, .arr bs => beqItems as bs
  | .obj as, .obj bs => beqMembers as bs
  | _, _ => false

def beqItems : List Json → List Json → Bool
  | [], [] => true
  | a :: as, b :: bs => beq a b && beqItems as bs
  | _, _ => false

def beqMembers : List (String × Json) → List (String × Json) → Bool
  | [], [] => true
  | (k, a) :: as, (l, b) :: bs => k == l && (beq a b && beqMembers as bs)
  | _, _ => false

end

mutual

theorem eq_of_beq (a b : Json) (h : beq a b = true) : a = b := by
  cases a <;> cases b <;> simp_all only [beq, beq_iff_eq, Bool.false_eq_true]
  · rw [eq_of_beqItems _ _ h]
  · rw [eq_of_beqMembers _ _ h]

theorem eq_of_beqItems (as bs : List Json) (h : beqItems as bs = true) : as = bs := by
  cases as <;> cases bs <;>
    simp_all only [beqItems, Bool.and_eq_true, Bool.false_eq_true]
  rw [eq_of_beq _ _ h.1, eq_of_beqItems _ _ h.2]

theorem eq_of_beqMembers (as bs : List (String × Json)) (h : beqMembers as bs = true) :
    as = bs := by
  match as, bs, h with
  | [], [], _ => rfl
  | (k, a) :: as, (l, b) :: bs, h =>
      simp only [beqMembers, Bool.and_eq_true, beq_iff_eq] at h
      rw [h.1, eq_of_beq a b h.2.1, eq_of_beqMembers as bs h.2.2]

end

mutual

theorem beq_refl (a : Json) : beq a a = true := by
  cases a <;> simp only [beq, beq_self_eq_true]
  · exact beqItems_refl _
  · exact beqMembers_refl _

theorem beqItems_refl (as : List Json) : beqItems as as = true := by
  cases as with
  | nil => rfl
  | cons a as => rw [beqItems, beq_refl a, beqItems_refl as]; rfl

theorem beqMembers_refl (as : List (String × Json)) : beqMembers as as = true := by
  match as with
  | [] => rfl
  | (k, a) :: as => rw [beqMembers, beq_refl a, beqMembers_refl as, beq_self_eq_true]; rfl

end

instance : DecidableEq Json := fun a b =>
  decidable_of_iff (beq a b = true) ⟨eq_of_beq a b, fun h => h ▸ beq_refl a⟩

theorem sizeOf_lookup_lt {key : String} {value : Json} {members : List (String × Json)}
    (h : members.lookup key = some value) : sizeOf value < sizeOf members := by
  induction members with
  | nil => simp at h
  | cons m rest ih =>
      obtain ⟨k, v⟩ := m
      rw [List.lookup_cons] at h
      simp only [List.cons.sizeOf_spec, Prod.mk.sizeOf_spec]
      split at h
      · cases h; omega
      · have := ih h; omega

/-- A member is a smaller value than its object. -/
theorem sizeOf_lt_of_member? {key : String} {value json : Json}
    (h : json.member? key = some value) : sizeOf value < sizeOf json := by
  cases json <;> simp only [member?, reduceCtorEq] at h
  have := sizeOf_lookup_lt h
  simp only [Json.obj.sizeOf_spec]
  omega

end Json

end Introspection
