import DataMapper.Identifier
import DataMapper.Proofs.Template.Bytes
import DataMapper.Proofs.Text.SnakeCase

/-!
# What a hash reads of an identifier

Equivalence compares characters, and a hash reads bytes.  The two agree, because an ASCII capital
is one byte and no byte of any other character looks like one.  So the bytes of a name, each
capital byte made small, are the bytes of the name with its ASCII capitals made small
(`toUTF8_asciiLower`), and a hash reads a flag, the bytes of the folded name
(`Identifier.folded`) and an end mark.

The end mark is no byte of any text (`not_mem_toUTF8`).  So it shows where the name ends, and what
was read of an identifier is told apart from whatever is read behind it
(`Identifier.hashBytes_append_inj`).
-/

namespace DataMapper

/-! ## Bytes of texts -/

/-- The bytes that are left from a position on are put behind those that were read. -/
theorem toList_loop_eq (bytes : ByteArray) (i : Nat) (read : List UInt8) :
    ByteArray.toList.loop bytes i read = read.reverse ++ bytes.data.toList.drop i := by
  fun_induction ByteArray.toList.loop bytes i read with
  | case1 i read inside ih =>
      have here : i < bytes.data.toList.length := inside
      have byte : bytes.get! i = bytes.data.toList[i] := getElem!_pos bytes.data i inside
      rw [ih, List.drop_eq_getElem_cons here, byte, List.reverse_cons, List.append_assoc]
      rfl
  | case2 i read outside =>
      rw [List.drop_eq_nil_of_le (Nat.le_of_not_lt outside), List.append_nil]

theorem toList_eq_data (bytes : ByteArray) : bytes.toList = bytes.data.toList :=
  toList_loop_eq bytes 0 []

/-- The bytes of a text are those of its characters. -/
theorem toList_toUTF8 (s : String) : s.toUTF8.toList = s.toList.flatMap String.utf8EncodeChar := by
  rw [toList_eq_data, String.toUTF8_eq_toByteArray, ← String.utf8Encode_toList, List.utf8Encode,
    List.data_toByteArray, List.toList_toArray]

/-- Texts with the same bytes are the same. -/
theorem toList_toUTF8_inj {s t : String} : s.toUTF8.toList = t.toUTF8.toList ↔ s = t := by
  rw [toList_eq_data, toList_eq_data, Array.toList_inj, ← ByteArray.ext_iff]
  exact String.toByteArray_inj

/-- A mark that is in neither of two lists shows where they end. -/
theorem append_mark_inj {mark : UInt8} {left right next other : List UInt8} (hleft : mark ∉ left)
    (hright : mark ∉ right) :
    left ++ mark :: next = right ++ mark :: other ↔ left = right ∧ next = other := by
  constructor
  · intro same
    obtain ⟨more, rfl, rest⟩ | ⟨more, rfl, rest⟩ := List.append_eq_append_iff.mp same
    · cases more with
      | nil =>
          cases rest
          exact ⟨(List.append_nil left).symm, rfl⟩
      | cons b more =>
          cases rest
          exact absurd (List.mem_append_right _ (List.mem_cons_self ..)) hright
    · cases more with
      | nil =>
          cases rest
          exact ⟨List.append_nil right, rfl⟩
      | cons b more =>
          cases rest
          exact absurd (List.mem_append_right _ (List.mem_cons_self ..)) hleft
  · rintro ⟨rfl, rfl⟩
    rfl

/-- No byte of a character is the end mark. -/
theorem toNat_lt_of_mem_utf8EncodeChar {c : Char} {b : UInt8} (h : b ∈ String.utf8EncodeChar c) :
    b.toNat < 0xff := by
  rw [String.utf8EncodeChar] at h
  -- Each byte is below 128, or the mark of its kind with fewer bits than the mark leaves.
  repeat' split at h
  all_goals
    simp only [List.mem_cons, List.not_mem_nil, or_false] at h
    rcases h with rfl | rfl | rfl | rfl <;> rw [UInt8.toNat_ofNat'] <;> omega

theorem not_mem_toUTF8 (s : String) : 0xff ∉ s.toUTF8.toList := by
  rw [toList_toUTF8, List.mem_flatMap]
  rintro ⟨c, -, mem⟩
  exact absurd (toNat_lt_of_mem_utf8EncodeChar mem) (by decide)

/-! ## Capitals -/

/-- A character below 128 is made small as its byte is. -/
theorem toUInt8_toLower {c : Char} (ascii : c.toNat < 128) :
    c.toLower.val.toUInt8 = Identifier.lowerByte c.val.toUInt8 := by
  have capital : ('A'.val ≤ c.val ∧ c.val ≤ 'Z'.val) ↔
      (65 ≤ c.val.toUInt8 ∧ c.val.toUInt8 ≤ 90) := by
    rw [UInt32.le_iff_toNat_le, UInt32.le_iff_toNat_le, UInt8.le_iff_toNat_le,
      UInt8.le_iff_toNat_le, toNat_toUInt8_of_ascii ascii]
    exact Iff.rfl
  rw [Char.toLower, Identifier.lowerByte]
  split
  next small =>
    rw [if_pos (capital.mp small), UInt32.toUInt8_add]
    rfl
  next other => rw [if_neg (mt capital.mpr other)]

theorem toNat_toLower_of_ascii {c : Char} (ascii : c.toNat < 128) : c.toLower.toNat < 128 := by
  cases capital : c.isUpper with
  | true => exact Text.toNat_toLower_lt capital
  | false => rwa [Char.toLower_eq_of_not_isUpper (Bool.eq_false_iff.mp capital)]

/-- A byte from 128 on is no capital. -/
theorem lowerByte_of_le {b : UInt8} (high : 128 ≤ b.toNat) : Identifier.lowerByte b = b := by
  refine if_neg fun capital => ?_
  have small : b.toNat ≤ 90 := UInt8.le_iff_toNat_le.mp capital.2
  omega

/-- The bytes of a character from 128 on are none of ASCII. -/
theorem le_toNat_of_mem_utf8EncodeChar {c : Char} (beyond : ¬ c.toNat < 128) {b : UInt8}
    (h : b ∈ String.utf8EncodeChar c) : 128 ≤ b.toNat := by
  rw [← toNat_ofUInt8, ← Nat.not_lt]
  exact forall_charBytes beyond _ (List.mem_map_of_mem h)

/-- A character is made small as its bytes are. -/
theorem utf8EncodeChar_toLower (c : Char) :
    String.utf8EncodeChar c.toLower = (String.utf8EncodeChar c).map Identifier.lowerByte := by
  by_cases ascii : c.toNat < 128
  · rw [utf8EncodeChar_of_ascii ascii, utf8EncodeChar_of_ascii (toNat_toLower_of_ascii ascii),
      List.map_singleton, toUInt8_toLower ascii]
  · have still : ∀ b ∈ String.utf8EncodeChar c, Identifier.lowerByte b = b := fun b mem =>
      lowerByte_of_le (le_toNat_of_mem_utf8EncodeChar ascii mem)
    rw [Text.toLower_of_beyond (Nat.le_of_not_lt ascii), List.map_congr_left still, List.map_id']

/-- A text is made small as its bytes are. -/
theorem toUTF8_asciiLower (s : String) :
    (Text.asciiLower s).toUTF8.toList = s.toUTF8.toList.map Identifier.lowerByte := by
  rw [toList_toUTF8, toList_toUTF8, Text.asciiLower, String.toList_ofList, List.flatMap_map,
    List.map_flatMap]
  exact List.flatMap_congr fun c _ => utf8EncodeChar_toLower c

/-! ## Identifiers -/

namespace Identifier

variable {a b : Identifier}

/-- The name that equivalence compares. -/
def folded (i : Identifier) : String := if i.quoted then i.name else Text.asciiLower i.name

theorem toList_folded (i : Identifier) : (i.quoted, i.folded.toList) = i.key := by
  rw [key, folded]
  cases i.quoted with
  | true => rfl
  | false => exact congrArg (Prod.mk false) (String.toList_ofList ..)

/-- Identifiers are equivalent when both are quoted or none is, and their folded names are the
same. -/
theorem equiv_iff_folded : a.equiv b = true ↔ a.quoted = b.quoted ∧ a.folded = b.folded := by
  rw [equiv_iff, ← toList_folded, ← toList_folded, Prod.mk.injEq, String.toList_inj]

/-- The byte that a hash reads first. -/
def flagByte (quoted : Bool) : UInt8 := if quoted then 1 else 0

theorem flagByte_inj {p q : Bool} : flagByte p = flagByte q ↔ p = q := by
  cases p <;> cases q <;> decide

/-- A hash reads a flag, the bytes of the folded name and the end mark. -/
theorem hashBytes_eq (i : Identifier) :
    i.hashBytes = flagByte i.quoted :: (i.folded.toUTF8.toList ++ [0xff]) := by
  rw [hashBytes, folded, flagByte]
  cases i.quoted with
  | true => rfl
  | false => exact congrArg (fun bytes => 0 :: (bytes ++ [0xff])) (toUTF8_asciiLower i.name).symm

/-- What a hash reads of an identifier ends before what it reads next, and identifiers of which it
reads the same are equivalent. -/
theorem hashBytes_append_inj {next other : List UInt8} :
    a.hashBytes ++ next = b.hashBytes ++ other ↔ a.equiv b = true ∧ next = other := by
  rw [hashBytes_eq, hashBytes_eq, List.cons_append, List.cons_append, List.append_assoc,
    List.append_assoc, List.singleton_append, List.singleton_append, List.cons.injEq, flagByte_inj,
    append_mark_inj (not_mem_toUTF8 _) (not_mem_toUTF8 _), toList_toUTF8_inj, equiv_iff_folded,
    and_assoc]

theorem hashBytes_inj : a.hashBytes = b.hashBytes ↔ a.equiv b = true := by
  rw [← List.append_nil a.hashBytes, ← List.append_nil b.hashBytes, hashBytes_append_inj,
    and_iff_left rfl]

/-- Equivalence of identifiers is an equivalence relation: both are quoted or none is, and their
folded names are the same.  A hash reads the same bytes of two identifiers exactly when they are
equivalent, and what it reads of one is at the beginning of what it reads of another only when it
is all of it. -/
theorem equiv_hashed :
    Equivalence (fun a b : Identifier => a.equiv b = true) ∧
      ∀ a b : Identifier,
        (a.equiv b = true ↔ a.quoted = b.quoted ∧ a.folded = b.folded) ∧
        (a.hashBytes = b.hashBytes ↔ a.equiv b = true) ∧
        (a.hashBytes <+: b.hashBytes ↔ a.hashBytes = b.hashBytes) := by
  refine ⟨⟨fun a => ?_, fun {a b} same => ?_, fun {a b c} first second => ?_⟩, fun a b =>
    ⟨equiv_iff_folded, hashBytes_inj, ?_⟩⟩
  · exact (equiv_iff a a).mpr rfl
  · exact (equiv_iff b a).mpr ((equiv_iff a b).mp same).symm
  · exact (equiv_iff a c).mpr (((equiv_iff a b).mp first).trans ((equiv_iff b c).mp second))
  · constructor
    · rintro ⟨next, longer⟩
      rw [← List.append_nil b.hashBytes] at longer
      exact hashBytes_inj.mpr (hashBytes_append_inj.mp longer).1
    · intro same
      rw [same]

end Identifier

end DataMapper
