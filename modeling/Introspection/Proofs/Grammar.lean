import Introspection.Proofs.Likeness
import Introspection.Proofs.SpecReadings
/-!
# The grammar of type references

A value is a type reference if it is a wrapper of one, or names a type; the reference that is read
has a layer for each wrapper. Where a value is none, the error is that of the outermost node that
is broken by itself, whatever stands further in.
-/

namespace Introspection

theorem Json.enumerator?_eq_some_iff {json : Json} {name : String} :
    json.enumerator? = some name ↔ json = .str name ∨ json = .obj [(name, .null)] := by
  constructor
  · intro h
    unfold enumerator? at h
    split at h
    · cases h
      exact .inl rfl
    · cases h
      exact .inr rfl
    · cases h
  · rintro (rfl | rfl) <;> rfl

/-- The ways in which a kind is written: as its name, or as an object whose one key is the name,
with null under it. -/
inductive TypeKind.WrittenAs (kind : TypeKind) : Json → Prop
  | name : kind.WrittenAs (.str kind.name)
  | key : kind.WrittenAs (.obj [(kind.name, .null)])

theorem TypeKind.read?_eq_some_iff {kind : TypeKind} {json : Json} :
    read? json = some kind ↔ kind.WrittenAs json := by
  constructor
  · intro h
    obtain ⟨name, hname, hkind⟩ := Option.bind_eq_some_iff.mp h
    obtain rfl := name_of_ofName? hkind
    rcases Json.enumerator?_eq_some_iff.mp hname with rfl | rfl
    · exact .name
    · exact .key
  · intro h
    cases h with
    | name => exact ofName?_name kind
    | key => exact ofName?_name kind

theorem TypeKind.read?_eq_none_iff {json : Json} :
    read? json = none ↔ ∀ kind : TypeKind, ¬ kind.WrittenAs json := by
  simp only [Option.eq_none_iff_forall_ne_some, ne_eq, read?_eq_some_iff]

namespace TypeRef

/-! ## Nodes -/

def HasKind (node : Json) (kind : TypeKind) : Prop :=
  ∃ written, node.member? "kind" = some written ∧ kind.WrittenAs written

structure Wraps (node : Json) (kind : TypeKind) (inner : Json) : Prop where
  hasKind : HasKind node kind
  wraps : kind.isNamed = false
  wrapped : node.member? "ofType" = some inner
  notNull : inner ≠ .null

structure NamesType (node : Json) (kind : TypeKind) (name : String) : Prop where
  hasKind : HasKind node kind
  names : kind.isNamed = true
  hasName : node.member? "name" = some (.str name)

/-- The grammar of type references. -/
inductive Accepted : Json → Prop
  | wrapper {node inner : Json} {kind : TypeKind} (wraps : Wraps node kind inner)
      (accepted : Accepted inner) : Accepted node
  | named {node : Json} {kind : TypeKind} {name : String} (names : NamesType node kind name) :
      Accepted node

/-- A reference that has one layer for each wrapper of a node, in their order, and in them the
kind and the name of the innermost node. -/
inductive Mirrors : TypeRef → Json → Prop
  | list {ref : TypeRef} {node inner : Json} (wraps : Wraps node .list inner)
      (mirrors : Mirrors ref inner) : Mirrors (.list ref) node
  | nonNull {ref : TypeRef} {node inner : Json} (wraps : Wraps node .nonNull inner)
      (mirrors : Mirrors ref inner) : Mirrors (.nonNull ref) node
  | named {node : Json} {kind : TypeKind} {name : String} (names : NamesType node kind name) :
      Mirrors (.named kind name) node

/-- What is wrong with a node by itself, as an error says it. -/
inductive Broken (node : Json) : Error → Prop
  | notObject (other : node.isObject = false) :
      Broken node ⟨.unexpectedValue, "expected an object", some "__Type"⟩
  | kindMissing (object : node.isObject = true) (absent : node.member? "kind" = none) :
      Broken node ⟨.missingField, "`kind`", some "__Type"⟩
  | kindUnknown {written : Json} (found : node.member? "kind" = some written)
      (unknown : ∀ kind : TypeKind, ¬ kind.WrittenAs written) :
      Broken node ⟨.unexpectedValue, "expected a known enum value for `kind`", some "__Type"⟩
  | ofTypeMissing {kind : TypeKind} (hasKind : HasKind node kind) (wraps : kind.isNamed = false)
      (absent : node.member? "ofType" = none) :
      Broken node ⟨.missingField, "`ofType`", some "__Type"⟩
  | ofTypeNull {kind : TypeKind} (hasKind : HasKind node kind) (wraps : kind.isNamed = false)
      (null : node.member? "ofType" = some .null) :
      Broken node ⟨.missingField, "`ofType`", some (kind.name ++ " type reference")⟩
  | nameMissing {kind : TypeKind} (hasKind : HasKind node kind) (names : kind.isNamed = true)
      (absent : node.member? "name" = none) :
      Broken node ⟨.missingField, "`name`", some "__Type"⟩
  | nameNoString {kind : TypeKind} {value : Json} (hasKind : HasKind node kind)
      (names : kind.isNamed = true) (found : node.member? "name" = some value)
      (other : ∀ name, value ≠ .str name) :
      Broken node ⟨.unexpectedValue, "expected a string for `name`", some "__Type"⟩

/-- The way from a node by `ofType` through wrappers, which are listed from the outermost on, to
another node. -/
inductive OfTypePath : Json → List Json → Json → Prop
  | here {node : Json} : OfTypePath node [] node
  | inner {node next last : Json} {kind : TypeKind} {outer : List Json}
      (hasKind : HasKind node kind) (wraps : kind.isNamed = false)
      (wrapped : node.member? "ofType" = some next) (rest : OfTypePath next outer last) :
      OfTypePath node (node :: outer) last

variable {node inner : Json} {kind : TypeKind} {name : String}

/-- A node is broken by itself, or wraps another one, or names a type. -/
theorem broken_or_wraps_or_namesType (node : Json) :
    (∃ e, Broken node e) ∨ (∃ kind inner, Wraps node kind inner) ∨
      ∃ kind name, NamesType node kind name := by
  cases hobject : node.isObject with
  | false => exact .inl ⟨_, .notObject hobject⟩
  | true =>
      cases hwritten : node.member? "kind" with
      | none => exact .inl ⟨_, .kindMissing hobject hwritten⟩
      | some written =>
          cases hread : TypeKind.read? written with
          | none =>
              exact .inl ⟨_, .kindUnknown hwritten (TypeKind.read?_eq_none_iff.mp hread)⟩
          | some kind =>
              have hkind : HasKind node kind :=
                ⟨written, hwritten, TypeKind.read?_eq_some_iff.mp hread⟩
              cases hnamed : kind.isNamed with
              | false =>
                  cases hinner : node.member? "ofType" with
                  | none => exact .inl ⟨_, .ofTypeMissing hkind hnamed hinner⟩
                  | some inner =>
                      by_cases hnull : inner = .null
                      · subst hnull
                        exact .inl ⟨_, .ofTypeNull hkind hnamed hinner⟩
                      · exact .inr (.inl ⟨kind, inner, hkind, hnamed, hinner, hnull⟩)
              | true =>
                  cases hname : node.member? "name" with
                  | none => exact .inl ⟨_, .nameMissing hkind hnamed hname⟩
                  | some value =>
                      by_cases hstring : ∃ name, value = .str name
                      · obtain ⟨name, rfl⟩ := hstring
                        exact .inr (.inr ⟨kind, name, hkind, hnamed, hname⟩)
                      · exact .inl ⟨_, .nameNoString hkind hnamed hname
                          fun name h => hstring ⟨name, h⟩⟩

/-! ## Reading one node -/

theorem kind_of_hasKind (h : HasKind node kind) : (Record.unnamed .type node).kind = pure kind := by
  obtain ⟨written, hfound, hwritten⟩ := h
  have hmember : (Record.unnamed .type node).json.member? "kind" = some written := hfound
  rw [Record.kind, Record.fetch_of_member? hmember, pure_bind,
    TypeKind.read?_eq_some_iff.mpr hwritten]
  rfl

theorem wrapper?_of_isNamed (h : kind.isNamed = true) : wrapper? kind = none := by
  cases kind <;> first | rfl | cases h

theorem exists_wrapper_of_not_isNamed (h : kind.isNamed = false) :
    ∃ wrap, wrapper? kind = some wrap := by
  cases kind <;> first | exact ⟨_, rfl⟩ | cases h

theorem result_read_of_namesType (h : NamesType node kind name) :
    (read node).result = .ok (.named kind name) := by
  have hname : (Record.unnamed .type node).string "name" = pure name :=
    Record.string_of_member? h.hasName
  rw [read, kind_of_hasKind h.hasKind, pure_bind, wrapper?_of_isNamed h.names]
  dsimp only
  rw [hname, pure_bind]
  rfl

theorem result_read_of_wraps {wrap : TypeRef → TypeRef} (h : Wraps node kind inner)
    (hwrap : wrapper? kind = some wrap) : (read node).result = (read inner).result.map wrap := by
  have hinner : (Record.unnamed .type node).json.member? "ofType" = some inner := h.wrapped
  rw [read, kind_of_hasKind h.hasKind, pure_bind, hwrap]
  dsimp only
  rw [Record.member_of_member? hinner, pure_bind]
  dsimp only
  rw [if_neg h.notNull, Reading.result_bind]
  cases (read inner).result <;> rfl

theorem read_of_kind_eq_fail {fault : Fault}
    (h : (Record.unnamed .type node).kind = .fail fault) : read node = .fail fault := by
  rw [read, h]
  rfl

theorem read_of_member_ofType_eq_fail {fault : Fault} (hkind : HasKind node kind)
    (hwraps : kind.isNamed = false)
    (h : (Record.unnamed .type node).member "ofType" = .fail fault) :
    read node = .fail fault := by
  obtain ⟨wrap, hwrap⟩ := exists_wrapper_of_not_isNamed hwraps
  rw [read, kind_of_hasKind hkind, pure_bind, hwrap]
  dsimp only
  rw [h]
  rfl

theorem read_of_string_name_eq_fail {fault : Fault} (hkind : HasKind node kind)
    (hnames : kind.isNamed = true)
    (h : (Record.unnamed .type node).string "name" = .fail fault) : read node = .fail fault := by
  rw [read, kind_of_hasKind hkind, pure_bind, wrapper?_of_isNamed hnames]
  dsimp only
  rw [h]
  rfl

theorem read_of_ofType_null (hkind : HasKind node kind) (hwraps : kind.isNamed = false)
    (hnull : node.member? "ofType" = some .null) : read node = .fail (.wrapsNull kind) := by
  have hmember : (Record.unnamed .type node).json.member? "ofType" = some .null := hnull
  obtain ⟨wrap, hwrap⟩ := exists_wrapper_of_not_isNamed hwraps
  rw [read, kind_of_hasKind hkind, pure_bind, hwrap]
  dsimp only
  rw [Record.member_of_member? hmember, pure_bind]
  dsimp only
  rw [if_pos rfl]

theorem HasKind.isObject (h : HasKind node kind) : node.isObject = true := by
  obtain ⟨written, hfound, _⟩ := h
  exact Json.isObject_of_member? hfound

theorem exists_fault_of_read_eq_fail (fault : Fault) (h : read node = .fail fault) :
    ∃ found, (read node).result = .error found ∧ found.toError = fault.toError :=
  ⟨fault, by rw [h]; rfl, rfl⟩

/-- A node that is broken by itself is not read, and the error is its own. -/
theorem result_read_of_broken {e : Error} (h : Broken node e) :
    ∃ fault, (read node).result = .error fault ∧ fault.toError = e := by
  cases h with
  | notObject other =>
      apply exists_fault_of_read_eq_fail (.notObject ⟨.type, none⟩)
      apply read_of_kind_eq_fail
      rw [Record.kind, Record.fetch, Record.member_of_not_object other]
      rfl
  | kindMissing object absent =>
      apply exists_fault_of_read_eq_fail (.missing "kind" ⟨.type, none⟩)
      apply read_of_kind_eq_fail
      rw [Record.kind, Record.fetch,
        Record.member_of_lacks (Record.lacks_of_isObject object absent)]
      rfl
  | @kindUnknown written found unknown =>
      have hmember : (Record.unnamed .type node).json.member? "kind" = some written := found
      apply exists_fault_of_read_eq_fail (.unexpected "kind" .enumerator ⟨.type, none⟩)
      apply read_of_kind_eq_fail
      rw [Record.kind, Record.fetch_of_member? hmember, pure_bind,
        TypeKind.read?_eq_none_iff.mpr unknown]
      rfl
  | ofTypeMissing hasKind wraps absent =>
      apply exists_fault_of_read_eq_fail (.missing "ofType" ⟨.type, none⟩)
      exact read_of_member_ofType_eq_fail hasKind wraps
        (Record.member_of_lacks (Record.lacks_of_isObject hasKind.isObject absent))
  | @ofTypeNull kind hasKind wraps null =>
      apply exists_fault_of_read_eq_fail (.wrapsNull kind)
      exact read_of_ofType_null hasKind wraps null
  | nameMissing hasKind names absent =>
      apply exists_fault_of_read_eq_fail (.missing "name" ⟨.type, none⟩)
      apply read_of_string_name_eq_fail hasKind names
      rw [Record.string, Record.fetch,
        Record.member_of_lacks (Record.lacks_of_isObject hasKind.isObject absent)]
      rfl
  | @nameNoString kind value hasKind names found other =>
      have hmember : (Record.unnamed .type node).json.member? "name" = some value := found
      apply exists_fault_of_read_eq_fail (.unexpected "name" .string ⟨.type, none⟩)
      apply read_of_string_name_eq_fail hasKind names
      rw [Record.string, Record.fetch_of_member? hmember, pure_bind]
      cases value with
      | str name => exact absurd rfl (other name)
      | _ => rfl

/-! ## What a node is read by -/

/-- The keys that tell all of a node of a kind: a wrapper has no name, and what names a type wraps
nothing. -/
def keysOf (kind : TypeKind) : List String :=
  if kind.isNamed then ["kind", "name"] else ["kind", "ofType"]

theorem string_congr {other : Json} {key : String} (hobject : node.isObject = true)
    (hother : other.isObject = true) (h : other.member? key = node.member? key) :
    (Record.unnamed .type other).string key = (Record.unnamed .type node).string key := by
  have hfetch : (Record.unnamed .type other).fetch key = (Record.unnamed .type node).fetch key :=
    Record.fetch_congr rfl hobject hother h
  rw [Record.string, Record.string, hfetch]
  rfl

/-- Two nodes that agree in these keys are read alike, whatever else they hold. -/
theorem result_read_congr {other : Json} (hkind : HasKind node kind)
    (h : ∀ key ∈ keysOf kind, other.member? key = node.member? key) :
    (read other).result = (read node).result := by
  have hother : HasKind other kind := by
    obtain ⟨written, hfound, hwritten⟩ := hkind
    have hmem : "kind" ∈ keysOf kind := by cases kind <;> decide
    exact ⟨written, (h "kind" hmem).trans hfound, hwritten⟩
  cases hnamed : kind.isNamed with
  | true =>
      have hmem : "name" ∈ keysOf kind := by rw [keysOf, if_pos hnamed]; decide
      have hstring := string_congr hkind.isObject hother.isObject (h "name" hmem)
      rw [read, kind_of_hasKind hother, pure_bind, hstring, read, kind_of_hasKind hkind, pure_bind,
        wrapper?_of_isNamed hnamed]
  | false =>
      have hmem : "ofType" ∈ keysOf kind := by rw [keysOf, hnamed]; decide
      have hsame := h "ofType" hmem
      cases hfound : node.member? "ofType" with
      | none =>
          have hlacks : (Record.unnamed .type node).Lacks "ofType" :=
            Record.lacks_of_isObject hkind.isObject hfound
          have hlacks' : (Record.unnamed .type other).Lacks "ofType" :=
            Record.lacks_of_isObject hother.isObject (hsame.trans hfound)
          rw [read_of_member_ofType_eq_fail hkind hnamed (Record.member_of_lacks hlacks),
            read_of_member_ofType_eq_fail hother hnamed (Record.member_of_lacks hlacks')]
          rfl
      | some inner =>
          by_cases hnull : inner = .null
          · subst hnull
            rw [read_of_ofType_null hkind hnamed hfound,
              read_of_ofType_null hother hnamed (hsame.trans hfound)]
          · obtain ⟨wrap, hwrap⟩ := exists_wrapper_of_not_isNamed hnamed
            rw [result_read_of_wraps ⟨hkind, hnamed, hfound, hnull⟩ hwrap,
              result_read_of_wraps ⟨hother, hnamed, hsame.trans hfound, hnull⟩ hwrap]

/-! ## Reading a chain of nodes -/

theorem HasKind.eq {other : TypeKind} (h : HasKind node kind) (hother : HasKind node other) :
    kind = other := by
  obtain ⟨written, hfound, hwritten⟩ := h
  obtain ⟨_, hfound', hwritten'⟩ := hother
  cases hfound.symm.trans hfound'
  have hread := TypeKind.read?_eq_some_iff.mpr hwritten
  rw [TypeKind.read?_eq_some_iff.mpr hwritten'] at hread
  exact (Option.some.inj hread).symm

theorem Wraps.not_broken (h : Wraps node kind inner) (e : Error) : ¬ Broken node e := by
  obtain ⟨hkind, hwraps, hinner, hnull⟩ := h
  have hnamed : ∀ other, HasKind node other → other.isNamed = false := by
    intro other hother
    rw [← hkind.eq hother, hwraps]
  intro hbroken
  cases hbroken with
  | notObject other => exact absurd hkind.isObject (by rw [other]; decide)
  | kindMissing _ absent =>
      obtain ⟨written, hfound, _⟩ := hkind
      rw [absent] at hfound
      cases hfound
  | kindUnknown found unknown =>
      obtain ⟨written, hfound, hwritten⟩ := hkind
      cases hfound.symm.trans found
      exact unknown kind hwritten
  | ofTypeMissing _ _ absent =>
      rw [absent] at hinner
      cases hinner
  | ofTypeNull _ _ null => exact hnull (Option.some.inj (hinner.symm.trans null))
  | nameMissing hasKind names _ => exact absurd names (by rw [hnamed _ hasKind]; decide)
  | nameNoString hasKind names _ _ => exact absurd names (by rw [hnamed _ hasKind]; decide)

theorem Wraps.mirrors {ref : TypeRef} {wrap : TypeRef → TypeRef} (h : Wraps node kind inner)
    (hwrap : wrapper? kind = some wrap) (hmirrors : Mirrors ref inner) :
    Mirrors (wrap ref) node := by
  cases kind <;> cases hwrap
  · exact .list h hmirrors
  · exact .nonNull h hmirrors

theorem result_read_of_mirrors {ref : TypeRef} (h : Mirrors ref node) :
    (read node).result = .ok ref := by
  induction h with
  | list wraps _ ih => rw [result_read_of_wraps wraps rfl, ih]; rfl
  | nonNull wraps _ ih => rw [result_read_of_wraps wraps rfl, ih]; rfl
  | named names => exact result_read_of_namesType names

/-- On a way with no broken node before its last one, the error of the last one is that of the
first. -/
theorem result_read_of_path {outer : List Json} {last : Json} {e : Error}
    (h : OfTypePath node outer last) (houter : ∀ w ∈ outer, ∀ d, ¬ Broken w d)
    (he : Broken last e) : ∃ fault, (read node).result = .error fault ∧ fault.toError = e := by
  induction h with
  | here => exact result_read_of_broken he
  | @inner node next last kind outer hasKind wraps wrapped _ ih =>
      have hnull : next ≠ .null := by
        rintro rfl
        exact houter node List.mem_cons_self _ (.ofTypeNull hasKind wraps wrapped)
      obtain ⟨wrap, hwrap⟩ := exists_wrapper_of_not_isNamed wraps
      obtain ⟨fault, hfault, herror⟩ := ih (fun w hw => houter w (List.mem_cons_of_mem node hw)) he
      refine ⟨fault, ?_, herror⟩
      rw [result_read_of_wraps ⟨hasKind, wraps, wrapped, hnull⟩ hwrap, hfault]
      rfl

/-- A reference mirrors a value, or a broken node stands on the way inwards from it. -/
theorem mirrors_or_broken (node : Json) :
    (∃ ref, Mirrors ref node) ∨ ∃ outer last e, OfTypePath node outer last ∧
      (∀ w ∈ outer, ∀ d, ¬ Broken w d) ∧ Broken last e := by
  rcases broken_or_wraps_or_namesType node with ⟨e, he⟩ | ⟨kind, inner, hwraps⟩ | ⟨_, _, hnames⟩
  · exact .inr ⟨[], node, e, .here, fun w hw => absurd hw List.not_mem_nil, he⟩
  · have hsmaller : sizeOf inner < sizeOf node := Json.sizeOf_lt_of_member? hwraps.wrapped
    obtain ⟨wrap, hwrap⟩ := exists_wrapper_of_not_isNamed hwraps.wraps
    rcases mirrors_or_broken inner with ⟨ref, href⟩ | ⟨outer, last, e, hpath, houter, he⟩
    · exact .inl ⟨wrap ref, hwraps.mirrors hwrap href⟩
    · refine .inr ⟨node :: outer, last, e,
        .inner hwraps.hasKind hwraps.wraps hwraps.wrapped hpath, ?_, he⟩
      exact List.forall_mem_cons.mpr ⟨hwraps.not_broken, houter⟩
  · exact .inl ⟨_, .named hnames⟩
termination_by sizeOf node

theorem accepted_iff_mirrors : Accepted node ↔ ∃ ref, Mirrors ref node := by
  constructor
  · intro h
    induction h with
    | wrapper wraps _ ih =>
        obtain ⟨ref, href⟩ := ih
        obtain ⟨wrap, hwrap⟩ := exists_wrapper_of_not_isNamed wraps.wraps
        exact ⟨wrap ref, wraps.mirrors hwrap href⟩
    | named names => exact ⟨_, .named names⟩
  · rintro ⟨ref, href⟩
    induction href with
    | list wraps _ ih => exact .wrapper wraps ih
    | nonNull wraps _ ih => exact .wrapper wraps ih
    | named names => exact .named names

theorem Mirrors.proper {ref : TypeRef} (h : Mirrors ref node) : ref.Proper := by
  induction h with
  | list _ _ ih => exact ih
  | nonNull _ _ ih => exact ih
  | named names => exact names.names

theorem result_read_eq_ok_iff {ref : TypeRef} :
    (read node).result = .ok ref ↔ Mirrors ref node := by
  refine ⟨fun h => ?_, result_read_of_mirrors⟩
  rcases mirrors_or_broken node with ⟨found, hfound⟩ | ⟨outer, last, e, hpath, houter, he⟩
  · cases h.symm.trans (result_read_of_mirrors hfound)
    exact hfound
  · obtain ⟨fault, hfault, _⟩ := result_read_of_path hpath houter he
    rw [h] at hfault
    cases hfault

theorem result_read_eq_error_iff {e : Error} :
    (∃ fault, (read node).result = .error fault ∧ fault.toError = e) ↔
      ∃ outer last, OfTypePath node outer last ∧ (∀ w ∈ outer, ∀ d, ¬ Broken w d) ∧
        Broken last e := by
  constructor
  · rintro ⟨fault, hfault, rfl⟩
    rcases mirrors_or_broken node with ⟨ref, href⟩ | ⟨outer, last, e, hpath, houter, he⟩
    · rw [result_read_of_mirrors href] at hfault
      cases hfault
    · obtain ⟨found, hfound, rfl⟩ := result_read_of_path hpath houter he
      cases hfault.symm.trans hfound
      exact ⟨outer, last, hpath, houter, he⟩
  · rintro ⟨outer, last, hpath, houter, he⟩
    exact result_read_of_path hpath houter he

/-- A value is read if and only if the grammar has it, and as the reference that mirrors it, which
depends on no other keys than those of its kinds. Any proper reference is read as it is written.
The error of a value that is not read is that of the outermost broken node. -/
theorem result_read_iff_grammar (v : Json) :
    ((∃ ref, (read v).result = .ok ref) ↔ Accepted v) ∧
    (∀ ref, (read v).result = .ok ref ↔ Mirrors ref v) ∧
    (∀ ref, (read v).result = .ok ref → ref.Proper) ∧
    (∀ other kind, HasKind v kind → (∀ key ∈ keysOf kind, other.member? key = v.member? key) →
      (read other).result = (read v).result) ∧
    (∀ ref : TypeRef, ref.Proper → (read ref.toJson).result = .ok ref) ∧
    ∀ e, (∃ fault, (read v).result = .error fault ∧ fault.toError = e) ↔
      ∃ outer last, OfTypePath v outer last ∧ (∀ w ∈ outer, ∀ d, ¬ Broken w d) ∧
        Broken last e := by
  refine ⟨?_, fun ref => result_read_eq_ok_iff, fun ref h => ?_,
    fun other kind => result_read_congr, fun ref h => ?_, fun e => result_read_eq_error_iff⟩
  · rw [accepted_iff_mirrors]
    exact exists_congr fun ref => result_read_eq_ok_iff
  · exact (result_read_eq_ok_iff.mp h).proper
  · rw [read_toJson h]
    rfl

def idsNode (wrapperName : Json) : Json :=
  .ofMembers [("kind", .ofMembers [("NON_NULL", .null)]), ("name", wrapperName),
    ("ofType", .ofMembers [("kind", .str "LIST"),
      ("ofType", .ofMembers [("kind", .str "SCALAR"), ("name", .str "ID"),
        ("ofType", .num (.integer 7))])])]

def listOfNull : Json := .ofMembers [("kind", .str "LIST"), ("ofType", .null)]

def nonNullListOfNull : Json := .ofMembers [("kind", .str "NON_NULL"), ("ofType", listOfNull)]

theorem result_read_iff_grammar_idsNode :
    (read (idsNode .null)).result = .ok (.nonNull (.list (.named .scalar "ID"))) ∧
      (TypeRef.nonNull (.list (.named .scalar "ID"))).Proper ∧
      (read (idsNode (.str "IDs"))).result = (read (idsNode .null)).result ∧
      (read (toJson (.nonNull (.list (.named .scalar "ID"))))).result =
        .ok (.nonNull (.list (.named .scalar "ID"))) ∧
      ∃ fault, (read nonNullListOfNull).result = .error fault ∧
        fault.toError = ⟨.missingField, "`ofType`", some "LIST type reference"⟩ := by
  have hkind : HasKind (idsNode .null) .nonNull := ⟨_, rfl, .key⟩
  obtain ⟨-, hread, hproper, hsame, hwritten, -⟩ := result_read_iff_grammar (idsNode .null)
  obtain ⟨-, -, -, -, -, herror⟩ := result_read_iff_grammar nonNullListOfNull
  have hok := (hread (.nonNull (.list (.named .scalar "ID")))).mpr
    (.nonNull ⟨hkind, rfl, rfl, Json.noConfusion⟩
      (.list ⟨⟨_, rfl, .name⟩, rfl, rfl, Json.noConfusion⟩
        (.named ⟨⟨_, rfl, .name⟩, rfl, rfl⟩)))
  have houter : Wraps nonNullListOfNull .nonNull listOfNull :=
    ⟨⟨_, rfl, .name⟩, rfl, rfl, Json.noConfusion⟩
  have hlist : HasKind listOfNull .list := ⟨_, rfl, .name⟩
  refine ⟨hok, hproper _ hok, hsame _ _ hkind (by decide), hwritten _ rfl, (herror _).mpr ?_⟩
  refine ⟨[nonNullListOfNull], _, .inner houter.hasKind rfl houter.wrapped .here, ?_,
    .ofTypeNull hlist rfl rfl⟩
  exact List.forall_mem_singleton.mpr houter.not_broken

end TypeRef

end Introspection
