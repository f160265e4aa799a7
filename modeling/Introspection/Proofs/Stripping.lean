import Introspection.Proofs.Grammar
import Mathlib.Logic.Function.Iterate
/-!
# Stripping wrappers

A reference, what it wraps, and so on inwards to the named type are its layers. Whatever wrappers
are stripped, what is left is one of the layers with all that follow it, so that the named type
stays the same. The wrappers of one sort that stand outermost are stripped together, and to strip
both sorts in turn leads to the named type.
-/

namespace Introspection

inductive Wrapper where
  | list
  | nonNull
  deriving DecidableEq

namespace TypeRef

/-! ## Layers -/

/-- A reference, then what it wraps, and so on to the named type. -/
def layers : TypeRef → List TypeRef
  | named kind name => [named kind name]
  | list inner => list inner :: inner.layers
  | nonNull inner => nonNull inner :: inner.layers

def wrappers : TypeRef → List Wrapper
  | named _ _ => []
  | list inner => .list :: inner.wrappers
  | nonNull inner => .nonNull :: inner.wrappers

variable {r t : TypeRef}

theorem length_layers (r : TypeRef) : r.layers.length = r.wrappers.length + 1 := by
  induction r with
  | named kind name => rfl
  | list inner ih => rw [layers, wrappers, List.length_cons, List.length_cons, ih]
  | nonNull inner ih => rw [layers, wrappers, List.length_cons, List.length_cons, ih]

/-- The named type is the last layer, and all other layers are wrappers. -/
theorem exists_layers_eq (r : TypeRef) :
    ∃ outer, r.layers = outer ++ [r.unwrap] ∧ ∀ layer ∈ outer, layer.kind.isNamed = false := by
  induction r with
  | named kind name => exact ⟨[], rfl, by simp⟩
  | list inner ih =>
      obtain ⟨outer, hlayers, houter⟩ := ih
      refine ⟨list inner :: outer, ?_, List.forall_mem_cons.mpr ⟨rfl, houter⟩⟩
      rw [layers, hlayers, unwrap, List.cons_append]
  | nonNull inner ih =>
      obtain ⟨outer, hlayers, houter⟩ := ih
      refine ⟨nonNull inner :: outer, ?_, List.forall_mem_cons.mpr ⟨rfl, houter⟩⟩
      rw [layers, hlayers, unwrap, List.cons_append]

theorem getLast?_layers (r : TypeRef) : r.layers.getLast? = some r.unwrap := by
  obtain ⟨outer, hlayers, -⟩ := r.exists_layers_eq
  rw [hlayers, List.getLast?_concat]

/-- What has some of the layers of a reference, up to the last one, has its named type. -/
theorem unwrap_eq_of_suffix (h : t.layers <:+ r.layers) : t.unwrap = r.unwrap := by
  obtain ⟨outer, hlayers⟩ := h
  have hlast := r.getLast?_layers
  rw [← hlayers, List.getLast?_append, t.getLast?_layers, Option.some_or] at hlast
  exact Option.some.inj hlast

theorem unwrap_eq_named (r : TypeRef) : r.unwrap = named r.namedKind r.namedType := by
  induction r with
  | named kind name => rfl
  | list inner ih => exact ih
  | nonNull inner ih => exact ih

theorem namedType_eq_of_unwrap_eq (h : t.unwrap = r.unwrap) : t.namedType = r.namedType := by
  rw [unwrap_eq_named, unwrap_eq_named] at h
  exact (named.inj h).2

/-! ## Stripping -/

theorem layers_of_ofType? (h : r.ofType? = some t) : r.layers = r :: t.layers := by
  cases r <;> cases h <;> rfl

theorem layers_unwrap (r : TypeRef) : r.unwrap.layers = [r.unwrap] := by
  rw [unwrap_eq_named, layers]

/-- The lists that stand outermost are stripped, and no other layer. -/
theorem layers_unwrapList (r : TypeRef) : r.unwrapList.layers = r.layers.dropWhile isList := by
  induction r with
  | list inner ih => rw [unwrapList, ih, layers, List.dropWhile_cons_of_pos rfl]
  | _ => rfl

/-- The non-null wrappers that stand outermost are stripped, and no other layer. -/
theorem layers_unwrapNonNull (r : TypeRef) :
    r.unwrapNonNull.layers = r.layers.dropWhile isNonNull := by
  induction r with
  | nonNull inner ih => rw [unwrapNonNull, ih, layers, List.dropWhile_cons_of_pos rfl]
  | _ => rfl

theorem isList_unwrapList (r : TypeRef) : r.unwrapList.isList = false := by
  induction r with
  | list inner ih => exact ih
  | _ => rfl

theorem isNonNull_unwrapNonNull (r : TypeRef) : r.unwrapNonNull.isNonNull = false := by
  induction r with
  | nonNull inner ih => exact ih
  | _ => rfl

theorem unwrapList_eq_self (h : r.isList = false) : r.unwrapList = r := by
  cases r <;> first | rfl | cases h

theorem unwrapNonNull_eq_self (h : r.isNonNull = false) : r.unwrapNonNull = r := by
  cases r <;> first | rfl | cases h

inductive Stripping where
  | ofType
  | unwrap
  | unwrapList
  | unwrapNonNull

/-- What is left of a reference. Nothing is left of a named type that should be what it wraps. -/
def strip? (r : TypeRef) : Stripping → Option TypeRef
  | .ofType => r.ofType?
  | .unwrap => some r.unwrap
  | .unwrapList => some r.unwrapList
  | .unwrapNonNull => some r.unwrapNonNull

def stripAll? (r : TypeRef) (ways : List Stripping) : Option TypeRef := ways.foldlM strip? r

theorem suffix_of_strip? {way : Stripping} (h : r.strip? way = some t) :
    t.layers <:+ r.layers := by
  cases way with
  | ofType =>
      rw [layers_of_ofType? h]
      exact List.suffix_cons r t.layers
  | unwrap =>
      cases h
      obtain ⟨outer, hlayers, -⟩ := r.exists_layers_eq
      rw [layers_unwrap, hlayers]
      exact List.suffix_append outer [r.unwrap]
  | unwrapList =>
      cases h
      rw [layers_unwrapList]
      exact List.dropWhile_suffix _
  | unwrapNonNull =>
      cases h
      rw [layers_unwrapNonNull]
      exact List.dropWhile_suffix _

theorem suffix_of_stripAll? {ways : List Stripping} (h : r.stripAll? ways = some t) :
    t.layers <:+ r.layers := by
  induction ways generalizing r with
  | nil =>
      cases h
      exact List.suffix_rfl
  | cons way ways ih =>
      rw [stripAll?, List.foldlM_cons] at h
      obtain ⟨s, hs, ht⟩ := Option.bind_eq_some_iff.mp h
      exact (ih ht).trans (suffix_of_strip? hs)

/-! ## Stripping in turn -/

/-- What is left when first the non-null wrappers and then the lists that stand outermost are
stripped. -/
def unwrapInTurn (r : TypeRef) : TypeRef := r.unwrapNonNull.unwrapList

theorem stripAll?_inTurn (r : TypeRef) :
    r.stripAll? [.unwrapNonNull, .unwrapList] = some r.unwrapInTurn := rfl

/-- A wrapper that stands outermost is stripped in any case. -/
theorem suffix_unwrapInTurn (h : r.ofType? = some t) : r.unwrapInTurn.layers <:+ t.layers := by
  cases r <;> cases h
  case list =>
    have hturn : (list t).unwrapInTurn = t.unwrapList := rfl
    have hstrip : t.strip? .unwrapList = some t.unwrapList := rfl
    rw [hturn]
    exact suffix_of_strip? hstrip
  case nonNull =>
    have hturn : (nonNull t).unwrapInTurn = t.unwrapInTurn := rfl
    rw [hturn]
    exact suffix_of_stripAll? t.stripAll?_inTurn

theorem iterate_unwrapInTurn {n : Nat} (h : r.wrappers.length ≤ n) :
    unwrapInTurn^[n] r = r.unwrap := by
  induction n generalizing r with
  | zero =>
      cases r with
      | named kind name => rfl
      | _ => cases h
  | succ n ih =>
      -- A turn strips at least the outermost wrapper, which leaves fewer for the other turns.
      have hshorter : r.unwrapInTurn.wrappers.length ≤ n := by
        cases htype : r.ofType? with
        | none =>
            cases r with
            | named kind name => exact Nat.zero_le n
            | _ => cases htype
        | some t =>
            have hle := (suffix_unwrapInTurn htype).length_le
            have hlayers := congrArg List.length (layers_of_ofType? htype)
            simp only [length_layers, List.length_cons] at hle hlayers
            omega
      rw [Function.iterate_succ_apply, ih hshorter]
      exact unwrap_eq_of_suffix (suffix_of_stripAll? r.stripAll?_inTurn)

/-- Of a reference that has been read any wrappers can be stripped, in any ways one after the
other, and what is left are its last layers with the same named type. That is the last layer, and
the only one with a named kind. Either sort of wrappers is stripped as far as wrappers of the sort
follow each other from the outermost on. To strip both sorts in turn, as often as there are
wrappers, leaves the named type. -/
theorem strip_of_result_read {node : Json} (h : (read node).result = .ok r) :
    (∀ ways t, r.stripAll? ways = some t → t.layers <:+ r.layers ∧ t.unwrap = r.unwrap ∧
      t.namedType = r.namedType ∧ t.namedKind = r.namedKind ∧ t.hasSubfields = r.hasSubfields) ∧
    (∃ outer, r.layers = outer ++ [r.unwrap] ∧ ∀ layer ∈ outer, layer.kind.isNamed = false) ∧
    r.unwrap.kind.isNamed = true ∧ r.unwrap.name? = some r.namedType ∧
    (r.unwrapList.layers = r.layers.dropWhile isList ∧ r.unwrapList.isList = false ∧
      r.unwrapList.unwrapList = r.unwrapList) ∧
    (r.unwrapNonNull.layers = r.layers.dropWhile isNonNull ∧ r.unwrapNonNull.isNonNull = false ∧
      r.unwrapNonNull.unwrapNonNull = r.unwrapNonNull) ∧
    (fun s : TypeRef => s.unwrapNonNull.unwrapList)^[r.wrappers.length] r = r.unwrap := by
  refine ⟨fun ways t ht => ?_, r.exists_layers_eq, (result_read_eq_ok_iff.mp h).proper, ?_,
    ⟨r.layers_unwrapList, r.isList_unwrapList, unwrapList_eq_self r.isList_unwrapList⟩,
    ⟨r.layers_unwrapNonNull, r.isNonNull_unwrapNonNull,
      unwrapNonNull_eq_self r.isNonNull_unwrapNonNull⟩, iterate_unwrapInTurn (Nat.le_refl _)⟩
  · have hsuffix := suffix_of_stripAll? ht
    have hunwrap := unwrap_eq_of_suffix hsuffix
    have hkind : t.namedKind = r.namedKind := congrArg kind hunwrap
    exact ⟨hsuffix, hunwrap, namedType_eq_of_unwrap_eq hunwrap, hkind,
      congrArg TypeKind.hasSubfields hkind⟩
  · rw [unwrap_eq_named, name?]

def doublyRequired : TypeRef :=
  nonNull (nonNull (list (nonNull (list (named .scalar "ID")))))

theorem strip_of_result_read_doublyRequired :
    (read doublyRequired.toJson).result = .ok doublyRequired ∧
    doublyRequired.stripAll? [.unwrapNonNull, .ofType, .unwrapNonNull] =
      some (list (named .scalar "ID")) ∧
    (list (named .scalar "ID")).layers <:+ doublyRequired.layers ∧
    doublyRequired.unwrapNonNull.layers = doublyRequired.layers.drop 2 ∧
    (fun s : TypeRef => s.unwrapNonNull.unwrapList)^[5] doublyRequired = named .scalar "ID" := by
  have hproper : doublyRequired.Proper := rfl
  have hread : (read doublyRequired.toJson).result = .ok doublyRequired := by
    rw [read_toJson hproper]
    rfl
  obtain ⟨hstrip, -, -, -, -, ⟨hnonNull, -⟩, hturn⟩ := strip_of_result_read hread
  obtain ⟨hsuffix, -⟩ := hstrip [.unwrapNonNull, .ofType, .unwrapNonNull] _ rfl
  exact ⟨hread, rfl, hsuffix, hnonNull, hturn⟩

end TypeRef

end Introspection
