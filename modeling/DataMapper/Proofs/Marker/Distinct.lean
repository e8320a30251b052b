import DataMapper.Proofs.Marker.Run
import Mathlib.Data.String.Basic

/-!
# Markers that are told apart

The placeholders of a run are different where its addresses are, when the numbers of indexed
markers do not begin again and named markers have room for their numbers.  A name with room
for a number has room for the smaller ones (`length_toDigits_mono`), so it is enough to look
at the last number of the run (`Markers.Fits`).

A name never has more bytes than it may have (`NameStyle.utf8ByteSize_name_le`).
`Markers.run_distinct` puts this together.
-/

namespace DataMapper

/-! ## Lengths -/

theorem byteCount_eq_utf8ByteSize (cs : List Char) :
    byteCount cs = (String.ofList cs).utf8ByteSize := by
  rw [String.utf8ByteSize_ofList]
  induction cs with
  | nil => rfl
  | cons c rest ih => rw [byteCount, ih, String.utf8Len_cons, Nat.add_comm]

/-- A greater number has no fewer digits. -/
theorem length_toDigits_mono {m n : Nat} (h : m ≤ n) :
    (Nat.toDigits 10 m).length ≤ (Nat.toDigits 10 n).length := by
  have some : 0 < (Nat.toDigits 10 n).length := Nat.length_toDigits_pos
  have bound : n < 10 ^ (Nat.toDigits 10 n).length :=
    (Nat.length_toDigits_le_iff (by decide) some).mp (Nat.le_refl _)
  exact (Nat.length_toDigits_le_iff (by decide) some).mpr (Nat.lt_of_le_of_lt h bound)

theorem NameStyle.utf8ByteSize_name_le (style : NameStyle) (position : Nat)
    (hint : Option String) : (style.name position hint).utf8ByteSize ≤ style.maxLength := by
  have cut := byteCount_le_of_truncate? (style.truncate?_wholeName position hint)
  rwa [byteCount_eq_utf8ByteSize, String.ofList_toList] at cut

namespace MarkerFactory

/-! ## Placeholders -/

/-- The numbers of indexed markers tell their positions before they begin again. -/
theorem position_eq_of_indexed {offset p q : Nat} (hp : p + offset < twoPow 64)
    (hq : q + offset < twoPow 64) {sigil : String} {a b : Option String}
    (h : ((indexed sigil offset).marker p a).placeholder
      = ((indexed sigil offset).marker q b).placeholder) : p = q := by
  have numbers := congrArg String.toList h
  simp only [marker, String.toList_append, Nat.mod_eq_of_lt hp, Nat.mod_eq_of_lt hq] at numbers
  have digits : Nat.toDigits 10 (p + offset) = Nat.toDigits 10 (q + offset) := by
    simpa only [Nat.toString_eq_repr, Nat.toList_repr] using List.append_cancel_left numbers
  have same : p + offset = q + offset := by
    rw [← Nat.ofDigitChars_ten_toDigits (n := p + offset), digits, Nat.ofDigitChars_ten_toDigits]
  exact Nat.add_right_cancel same

/-- The placeholders of named markers tell as much as their names. -/
theorem id_eq_of_named {sigil : String} {style : NameStyle} {p q : Nat} {a b : Option String}
    (h : ((named sigil style).marker p a).placeholder
      = ((named sigil style).marker q b).placeholder) :
    ((named sigil style).marker p a).id = ((named sigil style).marker q b).id := by
  have names := congrArg String.toList h
  simp only [marker, String.toList_append] at names
  exact congrArg BindId.name (String.toList_inj.mp (List.append_cancel_left names))

end MarkerFactory

/-! ## Runs -/

namespace Markers

/-- Whether some markers more are told apart by their placeholders: the numbers of indexed
markers stay below the greatest, and named markers have room for the last number.  Anonymous
markers are never told apart. -/
def Fits (m : Markers) (more : Nat) : Prop :=
  match m.factory with
  | .indexed _ offset => m.count + more + offset ≤ twoPow 64
  | .anonymous _ => False
  | .named _ style =>
      ∀ last, more = last + 1 →
        style.stem.utf8ByteSize + (Nat.toDigits 10 (m.count + last)).length ≤ style.maxLength

/-- Room for the last number is room for all of them. -/
theorem Fits.hasRoom {m : Markers} {last : Nat} (fits : m.Fits (last + 1)) :
    m.factory.HasRoom (m.count + (last + 1)) := by
  obtain ⟨factory, count⟩ := m
  cases factory with
  | indexed sigil offset => trivial
  | anonymous placeholder => trivial
  | named sigil style =>
      intro position small
      have room : style.stem.utf8ByteSize + (Nat.toDigits 10 (count + last)).length
          ≤ style.maxLength := fits last rfl
      have digits : (Nat.toDigits 10 position).length ≤ (Nat.toDigits 10 (count + last)).length :=
        length_toDigits_mono (Nat.le_of_lt_succ small)
      have bytes : byteCount style.stem.toList = style.stem.utf8ByteSize := by
        rw [byteCount_eq_utf8ByteSize, String.ofList_toList]
      omega

/-- Markers that fit are told apart by their placeholders. -/
theorem Fits.position_eq {m : Markers} {last : Nat} (fits : m.Fits (last + 1)) {p q : Nat}
    (hp : p < m.count + (last + 1)) (hq : q < m.count + (last + 1)) {a b : Option String}
    (h : (m.factory.marker p a).placeholder = (m.factory.marker q b).placeholder) : p = q := by
  have room := fits.hasRoom
  obtain ⟨factory, count⟩ := m
  cases factory with
  | indexed sigil offset =>
      have small : count + (last + 1) + offset ≤ twoPow 64 := fits
      simp only at hp hq
      exact MarkerFactory.position_eq_of_indexed (by omega) (by omega) h
  | anonymous placeholder => exact fits.elim
  | named sigil style =>
      exact MarkerFactory.position_eq_of_id_eq room hp hq (MarkerFactory.id_eq_of_named h)

/-- Names of 32 bytes have room for every 64-bit number behind one letter. -/
theorem fits_sqlServer {count more : Nat} (small : count + more ≤ twoPow 64) :
    Fits ⟨Dialect.sqlServer.markers, count⟩ more := by
  rintro last rfl
  show "P".utf8ByteSize + (Nat.toDigits 10 (count + last)).length ≤ 32
  have digits : (Nat.toDigits 10 (count + last)).length ≤ 20 :=
    length_toDigits_le (by omega)
  have stem : "P".utf8ByteSize = 1 := by decide
  omega

/-- The markers of a run that fits have different placeholders and different addresses,
whatever the hints, and none of their names is longer than it may be.  The markers of the
built-in dialect that names them fit up to the last 64-bit number. -/
theorem run_distinct :
    (∀ (m : Markers) (hints : List (Option String)), m.Fits hints.length →
      (m.run hints).length = hints.length ∧ ((m.run hints).map Marker.placeholder).Nodup ∧
        ((m.run hints).map Marker.id).Nodup ∧
        ∀ sigil style, m.factory = .named sigil style →
          ∀ marker ∈ m.run hints,
            ∃ name, marker.id = .name name ∧ name.utf8ByteSize ≤ style.maxLength) ∧
      ∀ count more, count + more ≤ twoPow 64 →
        Fits ⟨Dialect.sqlServer.markers, count⟩ more := by
  refine ⟨fun m hints fits => ⟨m.length_run hints, ?_, ?_, ?_⟩,
    fun count more small => fits_sqlServer small⟩
  · cases hints with
    | nil => exact List.nodup_nil
    | cons hint rest =>
        exact nodup_map_run fun p hp q hq a b same => Fits.position_eq fits hp hq same
  · cases hints with
    | nil => exact List.nodup_nil
    | cons hint rest => exact nodup_ids (Fits.hasRoom fits)
  · intro sigil style named marker mem
    obtain ⟨position, hint, -, -, rfl⟩ := exists_of_mem_run mem
    rw [named]
    exact ⟨_, rfl, style.utf8ByteSize_name_le position hint⟩

/-- Names of three bytes, with hints that are cut, empty or no letters, from the first number
to the tenth. -/
theorem run_distinct_three :
    let style : NameStyle := { stem := "P", maxLength := 3 }
    let m : Markers := ⟨.named "@" style, 1⟩
    let hints : List (Option String) :=
      [some "0", some "0", none, some "", some "é-", none, none, none, none, some "name"]
    m.Fits hints.length ∧ ((m.run hints).map Marker.placeholder).Nodup ∧
      ((m.run hints).map Marker.id).Nodup ∧
      ∀ marker ∈ m.run hints, ∃ name, marker.id = .name name ∧ name.utf8ByteSize ≤ 3 := by
  intro style m hints
  have fits : m.Fits hints.length := by
    rintro last same
    cases same
    decide
  obtain ⟨-, placeholders, ids, names⟩ := run_distinct.1 m hints fits
  exact ⟨fits, placeholders, ids, names "@" style rfl⟩

end Markers

end DataMapper
