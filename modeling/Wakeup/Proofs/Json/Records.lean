import Wakeup.Proofs.Json.Decode
import Wakeup.Proofs.Json.Spelling

/-! Records and the numbers, texts and empty places in them: each can be spelled out, and is read
as what was written. -/
namespace Wakeup.Json

variable {α : Type} {ms : List (String × Json)} {k : String} {v : Json}

/-- What is written can be spelled out, and is read as what it was. -/
structure Restores (write : α → Json) (read : Json → Option α) : Prop where
  isLegible : ∀ a, (write a).IsLegible
  read_write : ∀ a, read (write a) = some a

theorem Restores.parse {write : α → Json} {read : Json → Option α} (h : Restores write read)
    (a : α) : (parse? (write a).render).bind read = some a := by
  rw [parse?_render (h.isLegible a), Option.bind_some, h.read_write]

theorem isLegible_null : null.IsLegible := by
  simp [IsLegible, tokens, Token.IsLegible]

theorem isLegible_ofString (s : String) : (ofString s).IsLegible := by
  simp [IsLegible, ofString, tokens, Token.IsLegible]

theorem isLegible_ofInt (i : Int) : (ofInt i).IsLegible := by
  simp [IsLegible, ofInt, tokens, Token.IsLegible, Numeral.isProper_ofInt]

/-- The members of a record, as they stand in the object. -/
def members (ms : List (String × Json)) : List (Option String × Json) :=
  ms.map fun (k, v) => (some k, v)

theorem isLegible_furtherMembers (h : ∀ m ∈ ms, m.2.IsLegible) :
    ∀ t ∈ furtherMembers (members ms), t.IsLegible := by
  induction ms with
  | nil => simp [members, furtherMembers, Token.IsLegible]
  | cons m ms ih =>
    obtain ⟨hm, hms⟩ := List.forall_mem_cons.mp h
    simp only [members, List.map_cons, furtherMembers, List.forall_mem_cons, List.forall_mem_append]
    exact ⟨trivial, trivial, trivial, hm, ih hms⟩

theorem isLegible_record (h : ∀ m ∈ ms, m.2.IsLegible) : (record ms).IsLegible := by
  cases ms with
  | nil => simp [IsLegible, record, tokens, Token.IsLegible]
  | cons m ms =>
    obtain ⟨hm, hms⟩ := List.forall_mem_cons.mp h
    simp only [IsLegible, record, List.map_cons, tokens, List.forall_mem_cons,
      List.forall_mem_append]
    exact ⟨trivial, trivial, trivial, hm, isLegible_furtherMembers hms⟩

theorem toText?_ofString (s : String) : (ofString s).toText? = some s := rfl

theorem int?_ofInt (i : Int) : (Numeral.ofInt i).int? = some i := by
  have hz : ¬ (decide (i < 0) ∧ i.natAbs = 0) := by
    simp only [decide_eq_true_eq]
    omega
  rw [Numeral.int?, Numeral.ofInt, if_pos ⟨rfl, rfl, hz⟩]
  simp only [decide_eq_true_eq]
  congr 1
  split <;> omega

theorem toInt?_ofInt {least greatest i : Int} (h : least ≤ i ∧ i ≤ greatest) :
    (ofInt i).toInt? least greatest = some i :=
  toInt?_eq_some_iff.mpr ⟨_, rfl, int?_ofInt i, h⟩

theorem toUInt32?_ofInt {n : Nat} (h : n < 4294967296) :
    (ofInt n).toUInt32? = some (.ofNat n) := by
  rw [toUInt32?, toInt?_ofInt (by omega)]
  rfl

theorem toUInt64?_ofInt {n : Nat} (h : n < 18446744073709551616) :
    (ofInt n).toUInt64? = some (.ofNat n) := by
  rw [toUInt64?, toInt?_ofInt (by omega)]
  rfl

theorem restores_uint32 : Restores (fun n : UInt32 => ofInt n.toNat) toUInt32? where
  isLegible n := isLegible_ofInt _
  read_write n := by rw [toUInt32?_ofInt n.toNat_lt, UInt32.ofNat_toNat]

theorem restores_int32 : Restores (fun n : Int32 => ofInt n.toInt) toInt32? where
  isLegible n := isLegible_ofInt _
  read_write n := by
    have hle := n.le_toInt
    have hlt := n.toInt_lt
    rw [toInt32?, toInt?_ofInt (by omega)]
    simp

theorem restores_int64 : Restores (fun n : Int64 => ofInt n.toInt) toInt64? where
  isLegible n := isLegible_ofInt _
  read_write n := by
    have hle := n.le_toInt
    have hlt := n.toInt_lt
    rw [toInt64?, toInt?_ofInt (by omega)]
    simp

theorem filter_members_of_notMem (h : k ∉ ms.map Prod.fst) :
    (members ms).filter (·.1.any (· ∈ [k])) = [] := by
  refine List.filter_eq_nil_iff.mpr fun m hm => ?_
  obtain ⟨⟨l, v⟩, hl, rfl⟩ := List.mem_map.mp hm
  have hne : l ≠ k := fun he => h (he ▸ List.mem_map_of_mem hl)
  simpa using hne

theorem filter_members (hn : (ms.map Prod.fst).Nodup) (hm : (k, v) ∈ ms) :
    (members ms).filter (·.1.any (· ∈ [k])) = [(some k, v)] := by
  induction ms with
  | nil => cases hm
  | cons m ms ih =>
    obtain ⟨hnew, hn⟩ := List.nodup_cons.mp hn
    rcases List.mem_cons.mp hm with rfl | hm
    · rw [members, List.map_cons, List.filter_cons_of_pos (by simp)]
      exact congrArg _ (filter_members_of_notMem hnew)
    · have hne : m.1 ≠ k := fun he => hnew (he ▸ List.mem_map_of_mem hm)
      rw [members, List.map_cons, List.filter_cons_of_neg (by simpa using hne)]
      exact ih hn hm

theorem member?_members {f : Field} (hn : (ms.map Prod.fst).Nodup) (hf : f.names = [k])
    (hm : (k, v) ∈ ms) : member? (members ms) f = some (some v) := by
  rw [member?, hf, filter_members hn hm]

theorem mapM_member? {fields : List Field} {ns : List (String × Json)}
    (hn : (ms.map Prod.fst).Nodup) (hsub : ns ⊆ ms)
    (hf : fields.map Field.names = ns.map fun m => [m.1]) :
    fields.mapM (member? (members ms)) = some (ns.map fun m => some m.2) := by
  induction ns generalizing fields with
  | nil =>
    obtain rfl := List.map_eq_nil_iff.mp hf
    rfl
  | cons m ns ih =>
    obtain ⟨hm, hns⟩ := List.cons_subset.mp hsub
    obtain ⟨f, fields, rfl, hname, hf⟩ := List.map_eq_cons_iff.mp hf
    rw [List.mapM_cons, member?_members hn hname hm, ih hns hf]
    rfl

/-- A record is read field by field, in the order in which it was written. -/
theorem fields?_record (closed : Bool) {fields : List Field} (hn : (ms.map Prod.fst).Nodup)
    (hf : fields.map Field.names = ms.map fun m => [m.1]) :
    (record ms).fields? closed fields = some (ms.map fun m => some m.2) := by
  have hnames : namesOk closed fields (members ms) := by
    refine List.all_eq_true.mpr fun m hm => ?_
    obtain ⟨⟨k, v⟩, hk, rfl⟩ := List.mem_map.mp hm
    obtain ⟨f, hmem, hfk⟩ : ∃ f ∈ fields, f.names = [k] := by
      rw [← List.mem_map, hf]
      exact List.mem_map_of_mem hk
    have hany : fields.any (k ∈ ·.names) := List.any_eq_true.mpr ⟨f, hmem, by simp [hfk]⟩
    simp [hany]
  change (do guard (namesOk closed fields (members ms)); fields.mapM (member? (members ms))) = _
  rw [mapM_member? hn (List.Subset.refl ms) hf, guard, if_pos hnames]
  rfl

theorem mapM_id_map_some (vs : List Json) : (vs.map some).mapM id = some vs := by
  induction vs with
  | nil => rfl
  | cons v vs ih =>
    rw [List.map_cons, List.mapM_cons, ih]
    rfl

theorem record?_record (closed : Bool) (ms : List (String × Json)) (hn : (ms.map Prod.fst).Nodup) :
    (record ms).record? closed (ms.map Prod.fst) = some (ms.map Prod.snd) := by
  have hf : ((ms.map Prod.fst).map fun n => ({ names := [n] } : Field)).map Field.names =
      ms.map fun m => [m.1] := by
    simp
  have hvalues : (ms.map fun m => some m.2) = (ms.map Prod.snd).map some := by simp
  rw [record?, fields?_record closed hn hf, hvalues]
  exact mapM_id_map_some (ms.map Prod.snd)

/-- A null stands for what is absent, so nothing else is written as null. -/
theorem restores_option {write : α → Json} {read : Json → Option α} (h : Restores write read)
    (hne : ∀ a, write a ≠ .null) : Restores (ofOption write) (toOption? read) where
  isLegible o := by
    cases o with
    | none => exact isLegible_null
    | some a => exact h.isLegible a
  read_write o := by
    cases o with
    | none => rfl
    | some a =>
      rw [ofOption, toOption?, h.read_write]
      · rfl
      · exact hne a

end Wakeup.Json
