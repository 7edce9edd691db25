import Wakeup.Text.Utf8

/-! The bytes of a text are read as that text. -/
namespace Wakeup.Text.Utf8

variable {out : List (Option Char)} {bs : List UInt8} {p : Begun} {n v : Nat}

theorem lead_eq (h : n < 256) : lead (.ofNat n) =
    if n < 0x80 then .inl (some (Char.ofNat n))
    else if n < 0xC2 then .inl none
    else if n < 0xE0 then .inr { bits := n - 0xC0, owed := 1 }
    else if n = 0xE0 then .inr { bits := 0, owed := 2, low := 0xA0 }
    else if n = 0xED then .inr { bits := 0xD, owed := 2, high := 0x9F }
    else if n < 0xF0 then .inr { bits := n - 0xE0, owed := 2 }
    else if n = 0xF0 then .inr { bits := 0, owed := 3, low := 0x90 }
    else if n < 0xF4 then .inr { bits := n - 0xF0, owed := 3 }
    else if n = 0xF4 then .inr { bits := 4, owed := 3, high := 0x8F }
    else .inl none := by
  have hn : (UInt8.ofNat n).toNat = n := Nat.mod_eq_of_lt h
  simp only [lead, UInt8.lt_iff_toNat_lt, ← UInt8.toNat_inj, hn, UInt8.toNat_ofNat]

theorem decodeOnto_lead {b : UInt8} (h : lead b = .inr p) :
    decodeOnto out none (b :: bs) = decodeOnto out (some p) bs := by
  simp only [decodeOnto, h]

/-- A byte that goes on with a character carries six bits of it. -/
theorem decodeOnto_add (p : Begun) (hv : v < 64) (hlow : p.low.toNat ≤ v + 128)
    (hhigh : v + 128 ≤ p.high.toNat) :
    decodeOnto out (some p) (.ofNat (v + 128) :: bs) =
      if p.owed = 1 then decodeOnto (some (Char.ofNat (p.bits * 64 + v)) :: out) none bs
      else decodeOnto out (some { bits := p.bits * 64 + v, owed := p.owed - 1 }) bs := by
  have hn : (UInt8.ofNat (v + 128)).toNat = v + 128 := Nat.mod_eq_of_lt (by omega)
  have hin : (p.low ≤ .ofNat (v + 128) && .ofNat (v + 128) ≤ p.high) = true := by
    simp only [Bool.and_eq_true, decide_eq_true_eq, UInt8.le_iff_toNat_le, hn]
    exact ⟨hlow, hhigh⟩
  by_cases hp : p.owed = 1 <;>
    simp only [decodeOnto, hin, if_true, Begun.add, hn, Nat.add_sub_cancel, hp, if_false]

/-- After the second byte all bytes have the same bounds. -/
theorem decodeOnto_last (bits : Nat) (hv : v < 64) :
    decodeOnto out (some { bits, owed := 1 }) (.ofNat (v + 128) :: bs) =
      decodeOnto (some (Char.ofNat (bits * 64 + v)) :: out) none bs :=
  decodeOnto_add ⟨bits, 1, 0x80, 0xBF⟩ hv (Nat.le_add_left 128 v)
    (show v + 128 ≤ 191 by omega)

theorem decodeOnto_last_but_one (bits : Nat) (hv : v < 64) :
    decodeOnto out (some { bits, owed := 2 }) (.ofNat (v + 128) :: bs) =
      decodeOnto out (some { bits := bits * 64 + v, owed := 1 }) bs :=
  decodeOnto_add ⟨bits, 2, 0x80, 0xBF⟩ hv (Nat.le_add_left 128 v)
    (show v + 128 ≤ 191 by omega)

/-- A first byte tells how many follow, and its bounds let the second one in. -/
def Leads (first : Nat) (bits owed second : Nat) : Prop :=
  ∃ p, lead (.ofNat first) = .inr p ∧ p.bits = bits ∧ p.owed = owed ∧
    p.low.toNat ≤ second ∧ second ≤ p.high.toNat

theorem leads_two (h : 0x7F < v) (h' : v ≤ 0x7FF) :
    Leads (v / 64 % 32 + 192) (v / 64) 1 (v % 64 + 128) := by
  rw [Leads, lead_eq (by omega), if_neg (by omega), if_neg (by omega), if_pos (by omega)]
  refine ⟨_, rfl, ?_, rfl, ?_, ?_⟩
  · change v / 64 % 32 + 192 - 192 = v / 64
    omega
  · exact Nat.le_add_left 128 _
  · change v % 64 + 128 ≤ 191
    omega

/-- Neither an overlong form nor a surrogate. -/
theorem leads_three (h : 0x7FF < v) (h' : v ≤ 0xFFFF) (hv : v < 0xD800 ∨ 0xDFFF < v) :
    Leads (v / 4096 % 16 + 224) (v / 4096) 2 (v / 64 % 64 + 128) := by
  rw [Leads, lead_eq (by omega), if_neg (by omega), if_neg (by omega), if_neg (by omega)]
  split
  · refine ⟨_, rfl, ?_, rfl, ?_, ?_⟩
    · change 0 = v / 4096
      omega
    · change 160 ≤ v / 64 % 64 + 128
      omega
    · change v / 64 % 64 + 128 ≤ 191
      omega
  · split
    · refine ⟨_, rfl, ?_, rfl, ?_, ?_⟩
      · change 13 = v / 4096
        omega
      · exact Nat.le_add_left 128 _
      · change v / 64 % 64 + 128 ≤ 159
        omega
    · rw [if_pos (by omega)]
      refine ⟨_, rfl, ?_, rfl, ?_, ?_⟩
      · change v / 4096 % 16 + 224 - 224 = v / 4096
        omega
      · exact Nat.le_add_left 128 _
      · change v / 64 % 64 + 128 ≤ 191
        omega

/-- Neither an overlong form nor past U+10FFFF. -/
theorem leads_four (h : 0xFFFF < v) (h' : v < 0x110000) :
    Leads (v / 262144 % 8 + 240) (v / 262144) 3 (v / 4096 % 64 + 128) := by
  rw [Leads, lead_eq (by omega), if_neg (by omega), if_neg (by omega), if_neg (by omega),
    if_neg (by omega), if_neg (by omega), if_neg (by omega)]
  split
  · refine ⟨_, rfl, ?_, rfl, ?_, ?_⟩
    · change 0 = v / 262144
      omega
    · change 144 ≤ v / 4096 % 64 + 128
      omega
    · change v / 4096 % 64 + 128 ≤ 191
      omega
  · split
    · refine ⟨_, rfl, ?_, rfl, ?_, ?_⟩
      · change v / 262144 % 8 + 240 - 240 = v / 262144
        omega
      · exact Nat.le_add_left 128 _
      · change v / 4096 % 64 + 128 ≤ 191
        omega
    · rw [if_pos (by omega)]
      refine ⟨_, rfl, ?_, rfl, ?_, ?_⟩
      · change 4 = v / 262144
        omega
      · exact Nat.le_add_left 128 _
      · change v / 4096 % 64 + 128 ≤ 143
        omega

theorem decodeOnto_utf8EncodeChar (c : Char) (out : List (Option Char)) (bs : List UInt8) :
    decodeOnto out none (String.utf8EncodeChar c ++ bs) = decodeOnto (some c :: out) none bs := by
  have hvalid : c.val.toNat < 0xD800 ∨ 0xDFFF < c.val.toNat ∧ c.val.toNat < 0x110000 := c.valid
  have hc : Char.ofNat c.val.toNat = c := Char.ofNat_toNat c
  unfold String.utf8EncodeChar
  generalize c.val.toNat = v at hvalid hc
  simp only
  split
  · simp only [List.cons_append, List.nil_append, decodeOnto, lead_eq (show v < 256 by omega)]
    rw [if_pos (by omega), hc]
  · split
    · obtain ⟨p, hp, hbits, howed, hlow, hhigh⟩ := leads_two (v := v) (by omega) (by omega)
      simp only [List.cons_append, List.nil_append]
      rw [decodeOnto_lead hp, decodeOnto_add p (by omega) hlow hhigh, if_pos howed, hbits,
        show v / 64 * 64 + v % 64 = v by omega, hc]
    · split
      · obtain ⟨p, hp, hbits, howed, hlow, hhigh⟩ :=
          leads_three (v := v) (by omega) (by omega) (by omega)
        simp only [List.cons_append, List.nil_append]
        rw [decodeOnto_lead hp, decodeOnto_add p (by omega) hlow hhigh, if_neg (by omega),
          howed, decodeOnto_last _ (by omega), hbits,
          show (v / 4096 * 64 + v / 64 % 64) * 64 + v % 64 = v by omega, hc]
      · obtain ⟨p, hp, hbits, howed, hlow, hhigh⟩ := leads_four (v := v) (by omega) (by omega)
        simp only [List.cons_append, List.nil_append]
        have hv : ((v / 262144 * 64 + v / 4096 % 64) * 64 + v / 64 % 64) * 64 + v % 64 = v := by
          omega
        rw [decodeOnto_lead hp, decodeOnto_add p (by omega) hlow hhigh, if_neg (by omega),
          howed, decodeOnto_last_but_one _ (by omega), decodeOnto_last _ (by omega), hbits, hv, hc]

theorem decodeOnto_flatMap (cs : List Char) (out : List (Option Char)) :
    decodeOnto out none (cs.flatMap String.utf8EncodeChar) = (cs.map some).reverse ++ out := by
  induction cs generalizing out with
  | nil => rfl
  | cons c cs ih =>
    rw [List.flatMap_cons, decodeOnto_utf8EncodeChar, ih]
    simp

/-- The bytes of a text. -/
def bytes (s : String) : List UInt8 := s.toUTF8.data.toList

theorem bytes_eq (s : String) : bytes s = s.toList.flatMap String.utf8EncodeChar := by
  rw [bytes, String.toUTF8, ← String.utf8Encode_toList, List.utf8Encode, List.data_toByteArray]

/-- Reading undoes writing. -/
theorem decode_bytes (s : String) : decode (bytes s) = s.toList.map some := by
  rw [decode, bytes_eq, decodeOnto_flatMap, List.append_nil, List.reverse_reverse]

theorem bytes_inj {s t : String} (h : bytes s = bytes t) : s = t := by
  have hchars : s.toList.map some = t.toList.map some := by
    rw [← decode_bytes, ← decode_bytes, h]
  exact String.toList_inj.mp (List.map_inj_right (fun _ _ => Option.some.inj) |>.mp hchars)

/-- The bytes that are left go behind those that are already there. -/
theorem toList_loop (b : ByteArray) (i : Nat) (r : List UInt8) :
    ByteArray.toList.loop b i r = r.reverse ++ b.data.toList.drop i := by
  induction i, r using ByteArray.toList.loop.induct b with
  | case1 i r hlt ih =>
    have hi : i < b.data.toList.length := hlt
    have hget : b.get! i = b.data.toList[i] := getElem!_pos b.data i hlt
    rw [ByteArray.toList.loop, if_pos hlt, ih, List.drop_eq_getElem_cons hi, hget,
      List.reverse_cons, List.append_assoc]
    rfl
  | case2 i r hge =>
    have hi : b.data.toList.length ≤ i := Nat.le_of_not_lt hge
    rw [ByteArray.toList.loop, if_neg hge, List.drop_eq_nil_of_le hi, List.append_nil]

theorem toList_toUTF8 (s : String) : s.toUTF8.toList = bytes s := toList_loop s.toUTF8 0 []

end Wakeup.Text.Utf8
