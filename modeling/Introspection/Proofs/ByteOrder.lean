import Introspection.Proofs.NameOrder
/-!
# The order of bytes

Strings are ordered by their characters. That is the order of their bytes in UTF-8, since a
character with more bytes begins with a greater one, and of characters with as many bytes the
bytes are digits of their code points.
-/

namespace Introspection

def utf8Bytes (s : String) : List UInt8 := s.toUTF8.data.toList

namespace Utf8

/-- A first byte: some digits behind a mark that tells the number of bytes. -/
def leading (count mark v : Nat) : List UInt8 := [UInt8.ofNat (v % count + mark)]

/-- The byte of the last six digits. -/
def continuation (v : Nat) : UInt8 := UInt8.ofNat (v % 64 + 128)

def two (v : Nat) : List UInt8 := leading 32 192 (v / 64) ++ [continuation v]

def three (v : Nat) : List UInt8 :=
  leading 16 224 (v / 64 / 64) ++ [continuation (v / 64)] ++ [continuation v]

def four (v : Nat) : List UInt8 :=
  leading 8 240 (v / 64 / 64 / 64) ++ [continuation (v / 64 / 64)] ++ [continuation (v / 64)] ++
    [continuation v]

def encode (v : Nat) : List UInt8 :=
  if v ≤ 0x7f then leading 128 0 v
  else if v ≤ 0x7ff then two v
  else if v ≤ 0xffff then three v
  else four v

theorem utf8EncodeChar_eq (c : Char) : String.utf8EncodeChar c = encode c.val.toNat := by
  rw [String.utf8EncodeChar, encode]
  split
  · rename_i h
    rw [leading, Nat.mod_eq_of_lt (by omega), Nat.add_zero]
  · simp only [two, three, four, leading, continuation, Nat.div_div_eq_div_mul, List.cons_append,
      List.nil_append, Nat.reduceMul]

/-- Lists of bytes that ascend with the numbers below a bound, whatever follows them. -/
def Ascends (encode : Nat → List UInt8) (bound : Nat) : Prop :=
  ∀ v w, v < w → w < bound → ∀ xs ys, encode v ++ xs < encode w ++ ys

theorem ofNat_lt {v w : Nat} (h : v < w) (hw : w < 256) : UInt8.ofNat v < UInt8.ofNat w := by
  rw [UInt8.lt_iff_toNat_lt, UInt8.toNat_ofNat', UInt8.toNat_ofNat']
  omega

theorem ascends_leading {count mark : Nat} (h : count + mark ≤ 256) :
    Ascends (leading count mark) count := by
  intro v w hvw hw xs ys
  apply List.cons_lt_cons_iff.mpr
  left
  apply ofNat_lt
  · rw [Nat.mod_eq_of_lt hw, Nat.mod_eq_of_lt (Nat.lt_trans hvw hw)]
    omega
  · rw [Nat.mod_eq_of_lt hw]
    omega

/-- The last six digits decide where the others are the same. -/
theorem Ascends.continued {encode : Nat → List UInt8} {bound : Nat} (h : Ascends encode bound) :
    Ascends (fun v => encode (v / 64) ++ [continuation v]) (bound * 64) := by
  intro v w hvw hw xs ys
  rw [List.append_assoc, List.append_assoc]
  have hle : v / 64 ≤ w / 64 := Nat.div_le_div_right (Nat.le_of_lt hvw)
  rcases Nat.lt_or_eq_of_le hle with hlt | heq
  · exact h _ _ hlt (by omega) _ _
  · rw [heq]
    apply List.append_left_lt
    apply List.cons_lt_cons_iff.mpr
    left
    apply ofNat_lt <;> omega

theorem ascends_two : Ascends two 2048 := (ascends_leading (by omega)).continued

theorem ascends_three : Ascends three 65536 := (ascends_leading (by omega)).continued.continued

theorem ascends_four : Ascends four 2097152 :=
  (ascends_leading (by omega)).continued.continued.continued

/-- A first byte with a greater mark is greater. -/
theorem leading_append_lt {count mark count' mark' : Nat} (hcount : 0 < count)
    (hmark : count + mark ≤ mark') (hcount' : 0 < count') (hmark' : count' + mark' ≤ 256)
    (v w : Nat) (xs ys : List UInt8) :
    leading count mark v ++ xs < leading count' mark' w ++ ys := by
  have hv : v % count < count := Nat.mod_lt v hcount
  have hw : w % count' < count' := Nat.mod_lt w hcount'
  apply List.cons_lt_cons_iff.mpr
  left
  apply ofNat_lt <;> omega

theorem Ascends.ite {few more : Nat → List UInt8} {last bound bound' : Nat}
    (hfew : Ascends few bound) (hmore : Ascends more bound') (hlast : last < bound)
    (h : ∀ v w, last < w → ∀ xs ys, few v ++ xs < more w ++ ys) :
    Ascends (fun v => if v ≤ last then few v else more v) bound' := by
  intro v w hvw hw xs ys
  dsimp only
  by_cases hwlast : w ≤ last
  · rw [if_pos hwlast, if_pos (by omega)]
    exact hfew v w hvw (by omega) xs ys
  · rw [if_neg hwlast]
    by_cases hvlast : v ≤ last
    · rw [if_pos hvlast]
      exact h v w (by omega) xs ys
    · rw [if_neg hvlast]
      exact hmore v w hvw hw xs ys

theorem ascends_encode : Ascends encode 2097152 := by
  have hthree : Ascends (fun v => if v ≤ 0xffff then three v else four v) 2097152 := by
    refine ascends_three.ite ascends_four (by decide) fun v w _ xs ys => ?_
    simp only [three, four, List.append_assoc]
    apply leading_append_lt <;> decide
  have htwo : Ascends (fun v => if v ≤ 0x7ff then two v else if v ≤ 0xffff then three v
      else four v) 2097152 := by
    refine ascends_two.ite hthree (by decide) fun v w _ xs ys => ?_
    split <;> simp only [two, three, four, List.append_assoc] <;>
      apply leading_append_lt <;> decide
  refine (ascends_leading (by decide)).ite htwo (by decide) fun v w _ xs ys => ?_
  split
  · simp only [two, List.append_assoc]
    apply leading_append_lt <;> decide
  · split <;> simp only [three, four, List.append_assoc] <;>
      apply leading_append_lt <;> decide

/-- A greater character has greater bytes, whatever follows. -/
theorem utf8EncodeChar_append_lt {c d : Char} (h : c < d) (xs ys : List UInt8) :
    String.utf8EncodeChar c ++ xs < String.utf8EncodeChar d ++ ys := by
  have hd : d.val.toNat < 0x110000 := by
    rcases d.valid with hvalid | hvalid <;> omega
  rw [utf8EncodeChar_eq, utf8EncodeChar_eq]
  exact ascends_encode _ _ h (Nat.lt_trans hd (by decide)) xs ys

end Utf8

theorem utf8Bytes_eq (s : String) :
    utf8Bytes s = s.toList.flatMap String.utf8EncodeChar := by
  rw [utf8Bytes, String.toUTF8, ← String.utf8Encode_toList, List.utf8Encode,
    List.toList_data_toByteArray]

theorem flatMap_utf8EncodeChar_lt {cs ds : List Char} (h : cs < ds) :
    cs.flatMap String.utf8EncodeChar < ds.flatMap String.utf8EncodeChar := by
  induction h with
  | @nil d ds =>
      rw [List.flatMap_nil, List.flatMap_cons]
      cases hd : String.utf8EncodeChar d with
      | nil =>
          have hlength := String.length_utf8EncodeChar d
          rw [hd] at hlength
          exact absurd hlength (Nat.ne_of_lt d.utf8Size_pos)
      | cons byte bytes => exact List.nil_lt_cons _ _
  | rel hcd =>
      rw [List.flatMap_cons, List.flatMap_cons]
      exact Utf8.utf8EncodeChar_append_lt hcd _ _
  | cons _ ih =>
      rw [List.flatMap_cons, List.flatMap_cons]
      exact List.append_left_lt ih

theorem utf8Bytes_lt {s t : String} (h : s < t) : utf8Bytes s < utf8Bytes t := by
  rw [utf8Bytes_eq, utf8Bytes_eq]
  exact flatMap_utf8EncodeChar_lt h

/-- Strings are ordered as their bytes are. -/
theorem le_iff_utf8Bytes_le {s t : String} : s ≤ t ↔ utf8Bytes s ≤ utf8Bytes t := by
  constructor
  · intro h
    rcases Std.le_iff_lt_or_eq.mp h with hlt | rfl
    · exact Std.le_of_lt (utf8Bytes_lt hlt)
    · exact List.le_refl _
  · intro h
    rw [← String.not_lt]
    intro hlt
    exact absurd h (List.not_le.mpr (utf8Bytes_lt hlt))

/-- A list that has the items of another one, with names that ascend by their bytes and equal names
as they stood. -/
structure IsSortedByBytes {α : Type} (name : α → String) (items sorted : List α) : Prop where
  perm : sorted.Perm items
  ascending : sorted.Pairwise fun a b => utf8Bytes (name a) ≤ utf8Bytes (name b)
  stable : ∀ wanted, sorted.filter (name · = wanted) = items.filter (name · = wanted)

section

variable {α : Type} {name : α → String} {items sorted : List α}

theorem isSortedByBytes_iff :
    IsSortedByBytes name items sorted ↔ IsSortedByName name items sorted := by
  constructor
  · rintro ⟨perm, ascending, stable⟩
    exact ⟨perm, ascending.imp le_iff_utf8Bytes_le.mpr, stable⟩
  · rintro ⟨perm, ascending, stable⟩
    exact ⟨perm, ascending.imp le_iff_utf8Bytes_le.mp, stable⟩

/-- Sorting and leaving items out may change places. -/
theorem IsSortedByBytes.filter (h : IsSortedByBytes name items sorted) (p : α → Bool) :
    IsSortedByBytes name (items.filter p) (sorted.filter p) where
  perm := h.perm.filter p
  ascending := h.ascending.filter p
  stable wanted := by
    calc (sorted.filter p).filter (name · = wanted)
        = (sorted.filter (name · = wanted)).filter p := by
          rw [List.filter_filter, List.filter_filter]
          simp only [Bool.and_comm]
      _ = (items.filter (name · = wanted)).filter p := by rw [h.stable]
      _ = (items.filter p).filter (name · = wanted) := by
          rw [List.filter_filter, List.filter_filter]
          simp only [Bool.and_comm]

theorem mem_of_filter_eq {as bs : List α}
    (h : ∀ wanted, as.filter (name · = wanted) = bs.filter (name · = wanted)) {b : α}
    (hb : b ∈ bs) : b ∈ as := by
  have hmem : b ∈ bs.filter (name · = name b) := List.mem_filter.mpr ⟨hb, by simp⟩
  rw [← h] at hmem
  exact (List.mem_filter.mp hmem).1

theorem name_le_of_mem_cons {a b : α} {as : List α}
    (h : (a :: as).Pairwise fun a b => name a ≤ name b) (hb : b ∈ a :: as) : name a ≤ name b := by
  rcases List.mem_cons.mp hb with rfl | hb
  · exact String.le_refl _
  · exact List.rel_of_pairwise_cons h hb

/-- Lists with ascending names are the same if they have the same items under each name. -/
theorem eq_of_filter_eq {as bs : List α} (ha : as.Pairwise fun a b => name a ≤ name b)
    (hb : bs.Pairwise fun a b => name a ≤ name b)
    (h : ∀ wanted, as.filter (name · = wanted) = bs.filter (name · = wanted)) : as = bs := by
  induction as generalizing bs with
  | nil =>
      apply Eq.symm
      rw [List.eq_nil_iff_forall_not_mem]
      exact fun b hmem => List.not_mem_nil (mem_of_filter_eq h hmem)
  | cons a as ih =>
      cases bs with
      | nil =>
          have hmem := mem_of_filter_eq (fun w => (h w).symm) List.mem_cons_self
          exact absurd hmem List.not_mem_nil
      | cons b bs =>
          have hname : name a = name b := String.le_antisymm
            (name_le_of_mem_cons ha (mem_of_filter_eq h List.mem_cons_self))
            (name_le_of_mem_cons hb (mem_of_filter_eq (fun w => (h w).symm) List.mem_cons_self))
          have hfirst := h (name a)
          rw [List.filter_cons_of_pos (by simp), List.filter_cons_of_pos (by simp [hname])]
            at hfirst
          obtain ⟨rfl, -⟩ := List.cons.inj hfirst
          rw [ih ha.of_cons hb.of_cons fun wanted => ?_]
          have hwanted := h wanted
          rw [List.filter_cons, List.filter_cons] at hwanted
          split at hwanted
          · exact (List.cons.inj hwanted).2
          · exact hwanted

theorem isSortedByBytes_iff_eq :
    IsSortedByBytes name items sorted ↔ sorted = sortByName name items := by
  rw [isSortedByBytes_iff]
  have hsort := isSortedByName_sortByName name items
  constructor
  · intro h
    exact eq_of_filter_eq h.ascending hsort.ascending fun w =>
      (h.stable w).trans (hsort.stable w).symm
  · rintro rfl
    exact hsort

end

end Introspection
