import Introspection.Proofs.ErrorLines
import Introspection.Proofs.Reached
/-!
# Errors are true of the document

The error of a call is told of a value that the call reads. Its context says which value that is,
and its kind and its message say what is wrong there: what they say is so of the value, and of the
value no error of the other kind would be true.
-/

namespace Introspection

/-! ## What errors say -/

namespace Error

def Names (e : Error) (key : String) : Prop :=
  e.message = "`" ++ key ++ "`" ∨
    ∃ shape : Shape, e.message = "expected " ++ shape.text ++ " for " ++ ("`" ++ key ++ "`")

/-- The context of an error calls a value as its role has it. Of a type reference that wraps null
it tells the kind. -/
def Describes (e : Error) (role : Role) (v : Json) : Prop :=
  e.context = some (role.place v).text ∨
    role = .reference ∧ v.member? "ofType" = some .null ∧ ∃ x kind,
      v.member? "kind" = some x ∧ TypeKind.read? x = some kind ∧
      e.context = some (kind.name ++ " type reference")

/-- The named key is absent from an object, or is null and must not be. -/
def SaysMissing (e : Error) (v : Json) : Prop :=
  v.isObject = true ∧ ∃ key, e.Names key ∧
    (v.member? key = none ∨ v.member? key = some .null ∧ key ∈ nullIsMissing)

/-- The named key has a value that is not of the shape that is asked for under the key, and that
does not count as missing. -/
def SaysMisshapen (e : Error) (role : Role) (v : Json) : Prop :=
  ∃ key under x, e.Names key ∧ role.keys.lookup key = some under ∧ v.member? key = some x ∧
    under.shape.fits x = false ∧ ¬ (x = .null ∧ key ∈ nullIsMissing)

def SaysUnknown (e : Error) (known : Json → Bool) (v : Json) : Prop :=
  ∃ items item, v.member? "locations" = some (.arr items) ∧ item ∈ items ∧
    e.message = "unknown directive location " ++ item.text ∧ known item = false

structure TrueOf (e : Error) (known : Json → Bool) (role : Role) (v : Json) : Prop where
  wellFormed : e.kind ≠ .malformed
  context : e.Describes role v
  missing : e.kind = .missingField ↔ e.SaysMissing v
  unexpected : e.kind = .unexpectedValue ↔
    (v.isObject = false ∧ e.message = "expected an object") ∨ e.SaysMisshapen role v ∨
      e.SaysUnknown known v

end Error

/-! ## Keys in messages -/

/-- What is left of a message from its first tick on. -/
theorem dropWhile_ticked {before : String} (h : '`' ∉ before.toList) (key : String) :
    (before ++ ("`" ++ key ++ "`")).toList.dropWhile (· != '`') = '`' :: (key.toList ++ ['`']) := by
  have htick : "`".toList = ['`'] := rfl
  have hkept : ∀ c ∈ before.toList, (c != '`') = true := by
    intro c hc
    rw [bne_iff_ne]
    rintro rfl
    exact h hc
  rw [String.toList_append, List.dropWhile_append_of_pos hkept, String.toList_append,
    String.toList_append, htick]
  rfl

/-- A ticked word at the end of a message is told from what stands before it, if no tick does. -/
theorem ticked_inj {before other key word : String} (hbefore : '`' ∉ before.toList)
    (hother : '`' ∉ other.toList)
    (h : before ++ ("`" ++ key ++ "`") = other ++ ("`" ++ word ++ "`")) : key = word := by
  have hrest := dropWhile_ticked hbefore key
  rw [h, dropWhile_ticked hother word] at hrest
  obtain ⟨_, hword⟩ := List.cons.inj hrest
  exact (String.toList_inj.mp (List.append_cancel_right hword)).symm

theorem Shape.not_mem_text (shape : Shape) : '`' ∉ shape.text.toList := by
  cases shape <;> decide

namespace Error

variable {e : Error} {key word : String}

theorem Names.exists_before (h : e.Names key) :
    ∃ before : String, '`' ∉ before.toList ∧ e.message = before ++ ("`" ++ key ++ "`") := by
  rcases h with h | ⟨shape, h⟩
  · exact ⟨"", List.not_mem_nil, by rw [h, String.empty_append]⟩
  · refine ⟨"expected " ++ shape.text ++ " for ", ?_, h⟩
    rw [String.toList_append, String.toList_append, List.mem_append, List.mem_append]
    rintro ((hmem | hmem) | hmem)
    · exact absurd hmem (by decide)
    · exact shape.not_mem_text hmem
    · exact absurd hmem (by decide)

theorem Names.eq (h : e.Names key) (hword : e.Names word) : key = word := by
  obtain ⟨before, hbefore, hmessage⟩ := h.exists_before
  obtain ⟨other, hother, hsame⟩ := hword.exists_before
  exact ticked_inj hbefore hother (hmessage.symm.trans hsame)

theorem Names.ne_location (h : e.Names key) (text : String) :
    e.message ≠ "unknown directive location " ++ text := by
  intro hmessage
  rcases h with h | ⟨shape, h⟩
  · have htick : ("`" : String).toList.head? = some '`' := rfl
    have hunknown : "unknown directive location ".toList.head? = some 'u' := rfl
    have hhead := congrArg (fun s : String => s.toList.head?) (h.symm.trans hmessage)
    rw [head?_toList_append hunknown, head?_toList_append (head?_toList_append htick)] at hhead
    cases hhead
  · exact shape.message_ne_location key text (h.symm.trans hmessage)

/-- Of a value in which the named key is missing nothing is unexpected. -/
theorem SaysMissing.not_unexpected {known : Json → Bool} {role : Role} {v : Json}
    (h : e.SaysMissing v) :
    ¬ ((v.isObject = false ∧ e.message = "expected an object") ∨ e.SaysMisshapen role v ∨
      e.SaysUnknown known v) := by
  obtain ⟨hobject, key, hnames, habsent⟩ := h
  rintro (⟨hother, _⟩ | ⟨word, _, x, hword, _, hfound, _, hpresent⟩ | ⟨_, item, _, _, h, _⟩)
  · rw [hobject] at hother
    cases hother
  · obtain rfl := hword.eq hnames
    rw [hfound] at habsent
    rcases habsent with habsent | ⟨hnull, hmem⟩
    · cases habsent
    · exact absurd ⟨Option.some.inj hnull, hmem⟩ hpresent
  · exact absurd h (hnames.ne_location item.text)

end Error

/-! ## Faults are true -/

namespace Fault

variable {known : Json → Bool} {role under : Role} {v x : Json} {key : String} {shape : Shape}

theorem trueOf_missing (hobject : v.isObject = true)
    (habsent : v.member? key = none ∨ v.member? key = some .null ∧ key ∈ nullIsMissing) :
    (missing key (role.place v)).toError.TrueOf known role v := by
  have hmissing : (missing key (role.place v)).toError.SaysMissing v :=
    ⟨hobject, key, .inl rfl, habsent⟩
  exact {
    wellFormed := nofun
    context := .inl rfl
    missing := ⟨fun _ => hmissing, fun _ => rfl⟩
    unexpected := ⟨nofun, fun h => absurd h hmissing.not_unexpected⟩ }

theorem trueOf_unexpected (hread : role.keys.lookup key = some under)
    (hfound : v.member? key = some x) (hwrong : under.shape.fits x = false)
    (hpresent : x = .null → under.shape ≠ .object) :
    (unexpected key shape (role.place v)).toError.TrueOf known role v where
  wellFormed := nofun
  context := .inl rfl
  missing := by
    refine ⟨nofun, ?_⟩
    rintro ⟨_, word, hnames, habsent⟩
    obtain rfl := hnames.eq (.inr ⟨shape, rfl⟩)
    rw [hfound] at habsent
    rcases habsent with habsent | ⟨hnull, hmem⟩
    · cases habsent
    · cases hnull
      exact absurd (Record.shape_of_nullIsMissing hread hmem) (hpresent rfl)
  unexpected := by
    refine ⟨fun _ => .inr (.inl ⟨key, under, x, .inr ⟨shape, rfl⟩, hread, hfound, hwrong, ?_⟩),
      fun _ => rfl⟩
    rintro ⟨hnull, hmem⟩
    exact hpresent hnull (Record.shape_of_nullIsMissing hread hmem)

theorem trueOf_notObject (hother : v.isObject = false) :
    (notObject (role.place v)).toError.TrueOf known role v where
  wellFormed := nofun
  context := .inl rfl
  missing := by
    refine ⟨nofun, ?_⟩
    rintro ⟨hobject, _⟩
    rw [hother] at hobject
    cases hobject
  unexpected := ⟨fun _ => .inl ⟨hother, rfl⟩, fun _ => rfl⟩

theorem trueOf_wrapsNull {kind : TypeKind} (hfound : v.member? "kind" = some x)
    (hkind : TypeKind.read? x = some kind) (hnull : v.member? "ofType" = some .null) :
    (wrapsNull kind).toError.TrueOf known .reference v := by
  have hmissing : (wrapsNull kind).toError.SaysMissing v :=
    ⟨Json.isObject_of_member? hfound, "ofType", .inl rfl, .inr ⟨hnull, by decide⟩⟩
  exact {
    wellFormed := nofun
    context := .inr ⟨rfl, hnull, x, kind, hfound, hkind, rfl⟩
    missing := ⟨fun _ => hmissing, fun _ => rfl⟩
    unexpected := ⟨nofun, fun h => absurd h hmissing.not_unexpected⟩ }

theorem trueOf_unknownLocation {items : List Json} {item : Json}
    (hfound : v.member? "locations" = some (.arr items)) (hmem : item ∈ items)
    (hunknown : known item = false) :
    (unknownLocation item (role.place v)).toError.TrueOf known role v where
  wellFormed := nofun
  context := .inl rfl
  missing := by
    refine ⟨nofun, ?_⟩
    rintro ⟨_, word, hnames, _⟩
    exact absurd rfl (hnames.ne_location item.text)
  unexpected :=
    ⟨fun _ => .inr (.inr ⟨items, item, hfound, hmem, rfl, hunknown⟩), fun _ => rfl⟩

/-- What a fault tells of a value, its error says in words. -/
theorem Tells.trueOf {fault : Fault} (h : fault.Tells known role (role.place v) v) :
    fault.toError.TrueOf known role v := by
  generalize hplace : role.place v = place at h
  cases h with
  | missing _ object absent => subst hplace; exact trueOf_missing object absent
  | unexpected read found _ wrong present =>
      subst hplace
      exact trueOf_unexpected read found wrong present
  | notObject other => subst hplace; exact trueOf_notObject other
  | wrapsNull reference found wraps null =>
      subst reference
      exact trueOf_wrapsNull found wraps null
  | unknownLocation _ found mem unknown =>
      subst hplace
      exact trueOf_unknownLocation found mem unknown

end Fault

/-! ## Errors of calls -/

namespace Schema

theorem ends_read {known : Json → Bool} (document : Json) : (read document).Ends (fun _ => True)
    (Fault.Arises known (.node .document) ["data"] document) := by
  have hdata : ((Record.unnamed .document document).object "data" .data).Ends _
      (Fault.Tells known (.node .document) ⟨.document, none⟩ document) :=
    Record.ends_object (by rfl) rfl (by decide)
  refine Reading.ends_bind (hdata.imp_fault fun fault h => Fault.arises_own h) fun data hfound => ?_
  obtain ⟨members, hmembers, rfl⟩ := hfound
  have hschema : ((Record.unnamed .data (.obj members)).object "__schema" .schema).Ends _
      (Fault.Tells known (.node .data) ⟨.data, none⟩ (.obj members)) :=
    Record.ends_object (by rfl) rfl (by decide)
  refine Reading.ends_bind (hschema.imp_fault fun fault h => ?_)
    fun _ _ => Reading.ends_pure trivial
  exact Fault.arises_under List.mem_cons_self (by rfl) hmembers (Fault.Tells.below h)

/-- A schema that cannot be created, and a call that fails on an entity in whatever state of a
session, have errors that are true of a value that is read there. -/
theorem errors_are_true (document : Json) :
    (∀ fault, (create document).result = .error fault → ∀ known, ∃ role v,
      (Role.node .document).Reads ["data"] document role v ∧
        fault.toError.TrueOf known role v) ∧
    ∀ s, (create document).result = .ok s →
      ∀ (chain : Chain) (e : Entity) (call : Call) (view : View Answer),
        s.Reaches chain (.one e) → e.ask call = some view →
        ∀ recording session, Session.Reachable s recording session →
          ∀ fault, (view.run.run session).1 = .error fault →
            ∃ own node role v, e.site? = some (own, node) ∧
              (Role.node .document).Holds document own node ∧
              own.Reads call.keys node role v ∧ fault.toError.TrueOf call.knows role v := by
  constructor
  · intro fault hfault known
    rw [result_create] at hfault
    obtain ⟨role, v, hreads, htells⟩ := (ends_read document).of_error hfault
    exact ⟨role, v, hreads, htells.trueOf⟩
  · intro s hs chain e call view hreached hask recording session hsession fault hfault
    rw [View.run_eq_result (Entity.orderly_ask hreached.within hask) hsession.sound] at hfault
    obtain ⟨own, node, hsite, hholds, role, v, hreads, htells⟩ :=
      (Entity.ends_ask (hreached.standsIn hs) hask).of_error hfault
    exact ⟨own, node, role, v, hsite, hholds, hreads, htells.trueOf⟩

theorem errors_are_true_unnamedType :
    ∃ s view fault, (create Transcript.unnamedType).result = .ok s ∧
      (Entity.schema s).ask .types = some view ∧
      (view.run.run (.new true)).1 = .error fault ∧
      ∃ own node role v, (Entity.schema s).site? = some (own, node) ∧
        own.Reads ["types"] node role v ∧ fault.toError.TrueOf (Call.knows .types) role v := by
  obtain ⟨s, hs⟩ : ∃ s, (create Transcript.unnamedType).result = .ok s := ⟨_, rfl⟩
  have hask : (Entity.schema s).ask .types = some (Answer.items .type <$> s.types) := rfl
  have hmissing : ((Answer.items .type <$> s.types : View Answer).run.run (.new true)).1 =
      .error (.missing "name" ⟨.type, none⟩) := by
    have hown : (Entity.schema s).Within s := rfl
    rw [View.run_eq_result (Entity.orderly_ask hown hask) (Session.sound_new true)]
    cases hs
    rfl
  obtain ⟨own, node, role, v, hsite, _, hreads, htrue⟩ :=
    (errors_are_true Transcript.unnamedType).2 s hs [] _ _ _ .schema hask true _ .new _ hmissing
  exact ⟨s, _, _, hs, hask, hmissing, own, node, role, v, hsite, hreads, htrue⟩

end Schema

end Introspection
