import DataMapper.Dialect

/-!
# Runs of markers

`Markers.run` lists the markers that a sequence hands out for a list of hints.
A run splits where its hints do (`Markers.run_append`), and the marker at a place
of it is the one the factory makes for that position (`Markers.getElem?_run`).

Markers that bind by position have their position as the address.  Markers that
bind by name have different names as long as the name has room for its number,
whatever the hints: the number ends where the name does or where the underscore
of the hint stands, and no digit is an underscore.  `MarkerFactory.HasRoom` is
that condition and `Markers.nodup_ids` the statement.  Every built-in dialect
has room for every 64-bit position (`Dialect.hasRoom`).
-/

namespace DataMapper

/-! ## Cutting names -/

/-- The number of bytes of some characters. -/
def byteCount : List Char → Nat
  | [] => 0
  | c :: rest => c.utf8Size + byteCount rest

theorem byteCount_append (a b : List Char) : byteCount (a ++ b) = byteCount a + byteCount b := by
  induction a with
  | nil => simp [byteCount]
  | cons c rest ih => rw [List.cons_append, byteCount, byteCount, ih, Nat.add_assoc]

/-- Characters of one byte are as many as their bytes. -/
theorem byteCount_eq_length {cs : List Char} (h : ∀ c ∈ cs, c.utf8Size = 1) :
    byteCount cs = cs.length := by
  induction cs with
  | nil => rfl
  | cons c rest ih =>
      rw [byteCount, h c (List.mem_cons_self ..), ih fun c hc => h c (List.mem_cons_of_mem _ hc),
        List.length_cons, Nat.add_comm]

/-- A cut leaves a front that has room as it is. -/
theorem truncate?_append {room : Nat} {front : List Char} (h : byteCount front ≤ room)
    (rest : List Char) :
    truncate? room (front ++ rest)
      = (truncate? (room - byteCount front) rest).map (front ++ ·) := by
  induction front generalizing room with
  | nil => exact (Option.map_id' ..).symm
  | cons c front ih =>
      rw [byteCount] at h
      have some : 0 < c.utf8Size := c.utf8Size_pos
      have filled : room ≠ 0 := by omega
      have fits : c.utf8Size ≤ room := by omega
      have more : byteCount front ≤ room - c.utf8Size := by omega
      rw [List.cons_append, truncate?, if_neg filled, if_pos fits, ih more, Option.map_map,
        byteCount, Nat.sub_sub]
      rfl

/-- A cut gives nothing or begins as the text does. -/
theorem cases_of_truncate?_cons {room : Nat} {c : Char} {rest cut : List Char}
    (h : truncate? room (c :: rest) = some cut) : cut = [] ∨ ∃ more, cut = c :: more := by
  rw [truncate?] at h
  split at h
  next => exact .inl (Option.some.inj h).symm
  next =>
    split at h
    next =>
      obtain ⟨more, -, rfl⟩ := Option.map_eq_some_iff.mp h
      exact .inr ⟨more, rfl⟩
    next => cases h

/-- A cut leaves no more bytes than there is room. -/
theorem byteCount_le_of_truncate? {room : Nat} {cs cut : List Char}
    (h : truncate? room cs = some cut) : byteCount cut ≤ room := by
  induction cs generalizing room cut with
  | nil =>
      cases h
      exact Nat.zero_le room
  | cons c rest ih =>
      rw [truncate?] at h
      split at h
      next =>
        cases h
        exact Nat.zero_le room
      next =>
        split at h
        next fits =>
          obtain ⟨more, hmore, rfl⟩ := Option.map_eq_some_iff.mp h
          have left := ih hmore
          rw [byteCount]
          omega
        next => cases h

/-- What a hint adds to a name, cut or not, begins with an underscore unless it is empty. -/
theorem cases_of_truncate?_hintSuffix {room : Nat} {hint : Option String} {cut : List Char}
    (h : truncate? room (hintSuffix hint) = some cut) : cut = [] ∨ ∃ more, cut = '_' :: more := by
  unfold hintSuffix at h
  simp only at h
  split at h
  next => exact .inl (Option.some.inj h).symm
  next => exact cases_of_truncate?_cons h

/-! ## Names -/

/-- The digits of a number have one byte each. -/
theorem byteCount_digits (n : Nat) :
    byteCount (Nat.toDigits 10 n) = (Nat.toDigits 10 n).length := by
  apply byteCount_eq_length
  intro c hc
  have digit : c.isDigit = true :=
    Nat.isDigit_of_mem_toDigits (by decide) (by decide) hc
  exact utf8Size_of_isAlphanum (by rw [Char.isAlphanum, digit, Bool.or_true])

/-- A 64-bit number has at most 20 digits. -/
theorem length_toDigits_le {n : Nat} (h : n < twoPow 64) : (Nat.toDigits 10 n).length ≤ 20 := by
  rw [Nat.length_toDigits_le_iff (by decide) (by decide)]
  exact Nat.lt_trans h (by decide)

/-- A name with room for its number is the stem, the number, and a rest that
begins with an underscore unless it is empty. -/
theorem NameStyle.name_eq {style : NameStyle} {position : Nat}
    (h : byteCount style.stem.toList + (Nat.toDigits 10 position).length ≤ style.maxLength)
    (hint : Option String) :
    ∃ rest, (rest = [] ∨ ∃ cut, rest = '_' :: cut) ∧
      (style.name position hint).toList
        = style.stem.toList ++ (Nat.toDigits 10 position ++ rest) := by
  have room : byteCount (style.stem.toList ++ Nat.toDigits 10 position) ≤ style.maxLength := by
    rw [byteCount_append, byteCount_digits]
    exact h
  have digits : (toString position).toList = Nat.toDigits 10 position := Nat.toList_repr
  have cut := style.truncate?_wholeName position hint
  rw [wholeName, digits, ← List.append_assoc, truncate?_append room] at cut
  obtain ⟨rest, hrest, same⟩ := Option.map_eq_some_iff.mp cut
  rw [List.append_assoc] at same
  exact ⟨rest, cases_of_truncate?_hintSuffix hrest, same.symm⟩

/-- Digits that end or meet an underscore tell their number. -/
theorem digits_append_inj {m n : Nat} {a b : List Char}
    (ha : a = [] ∨ ∃ cut, a = '_' :: cut) (hb : b = [] ∨ ∃ cut, b = '_' :: cut)
    (h : Nat.toDigits 10 m ++ a = Nat.toDigits 10 n ++ b) : m = n := by
  have front : ∀ (k : Nat) (rest : List Char), (rest = [] ∨ ∃ cut, rest = '_' :: cut) →
      (Nat.toDigits 10 k ++ rest).takeWhile (· ≠ '_') = Nat.toDigits 10 k := by
    intro k rest hrest
    have digits : ∀ c ∈ Nat.toDigits 10 k, decide (c ≠ '_') = true := by
      intro c hc
      refine decide_eq_true ?_
      intro underscore
      rw [underscore] at hc
      exact Nat.underscore_not_in_toDigits hc
    rw [List.takeWhile_append_of_pos digits]
    rcases hrest with rfl | ⟨cut, rfl⟩
    · simp
    · simp
  have same : Nat.toDigits 10 m = Nat.toDigits 10 n := by
    rw [← front m a ha, h, front n b hb]
  rw [← Nat.ofDigitChars_ten_toDigits (n := m), same, Nat.ofDigitChars_ten_toDigits]

namespace MarkerFactory

/-- Whether the names of a factory have room for the numbers below a bound. -/
def HasRoom : MarkerFactory → Nat → Prop
  | named _ style, bound =>
      ∀ position < bound,
        byteCount style.stem.toList + (Nat.toDigits 10 position).length ≤ style.maxLength
  | _, _ => True

/-- Markers with room for their numbers have different addresses, whatever their hints. -/
theorem position_eq_of_id_eq {factory : MarkerFactory} {bound p q : Nat}
    (room : factory.HasRoom bound) (hp : p < bound) (hq : q < bound) {a b : Option String}
    (h : (factory.marker p a).id = (factory.marker q b).id) : p = q := by
  cases factory with
  | indexed sigil offset =>
      injection h
  | anonymous placeholder =>
      injection h
  | named sigil style =>
      obtain ⟨rest, hrest, hname⟩ := NameStyle.name_eq (room p hp) a
      obtain ⟨rest', hrest', hname'⟩ := NameStyle.name_eq (room q hq) b
      have names : style.name p a = style.name q b := by injection h
      rw [names, hname'] at hname
      exact (digits_append_inj hrest' hrest (List.append_cancel_left hname)).symm

/-- Markers that bind by position have their position as the address. -/
theorem id_eq_index {factory : MarkerFactory} (h : factory.isNamed = false) (position : Nat)
    (hint : Option String) : (factory.marker position hint).id = .index position := by
  cases factory with
  | indexed sigil offset => rfl
  | anonymous placeholder => rfl
  | named sigil style => cases h

end MarkerFactory

/-! ## Runs -/

namespace Markers

/-- The sequence when a number of markers more were handed out. -/
def after (m : Markers) (more : Nat) : Markers := ⟨m.factory, m.count + more⟩

@[simp] theorem after_zero (m : Markers) : m.after 0 = m := rfl

theorem after_after (m : Markers) (a b : Nat) : (m.after a).after b = m.after (a + b) := by
  simp [after, Nat.add_assoc]

/-- A run has one marker for each hint. -/
@[simp] theorem length_run (m : Markers) (hints : List (Option String)) :
    (m.run hints).length = hints.length := by
  induction hints generalizing m with
  | nil => rfl
  | cons hint rest ih => rw [run, List.length_cons, ih, List.length_cons]

/-- A run goes on where the run of the first hints stopped. -/
theorem run_append (m : Markers) (a b : List (Option String)) :
    m.run (a ++ b) = m.run a ++ (m.after a.length).run b := by
  induction a generalizing m with
  | nil => rfl
  | cons hint rest ih =>
      have later : (m.next hint).2 = m.after 1 := rfl
      rw [List.cons_append, run, run, ih, later, after_after, List.length_cons,
        Nat.add_comm 1, List.cons_append]

/-- The marker at a place of a run is the one the factory makes there. -/
theorem getElem?_run (m : Markers) (hints : List (Option String)) (k : Nat) :
    (m.run hints)[k]? = hints[k]?.map (m.factory.marker (m.count + k)) := by
  induction hints generalizing m k with
  | nil => rfl
  | cons hint rest ih =>
      cases k with
      | zero => rfl
      | succ k =>
          have position : m.count + (k + 1) = m.count + 1 + k := by omega
          rw [run, List.getElem?_cons_succ, List.getElem?_cons_succ, ih, position]
          rfl

/-- Each marker of a run is made for a position of the run. -/
theorem exists_of_mem_run {m : Markers} {hints : List (Option String)} {marker : Marker}
    (h : marker ∈ m.run hints) :
    ∃ position hint, m.count ≤ position ∧ position < m.count + hints.length ∧
      marker = m.factory.marker position hint := by
  obtain ⟨k, hk⟩ := List.mem_iff_getElem?.mp h
  rw [getElem?_run, Option.map_eq_some_iff] at hk
  obtain ⟨hint, hhint, rfl⟩ := hk
  have small : k < hints.length := (List.getElem?_eq_some_iff.mp hhint).1
  exact ⟨m.count + k, hint, by omega, by omega, rfl⟩

/-- What tells the position of a marker is different for the markers of a run. -/
theorem nodup_map_run {α : Type} {f : Marker → α} {m : Markers} {hints : List (Option String)}
    (tells : ∀ p < m.count + hints.length, ∀ q < m.count + hints.length, ∀ a b,
      f (m.factory.marker p a) = f (m.factory.marker q b) → p = q) :
    ((m.run hints).map f).Nodup := by
  induction hints generalizing m with
  | nil => exact List.nodup_nil
  | cons hint rest ih =>
      rw [List.length_cons, Nat.add_comm rest.length, ← Nat.add_assoc] at tells
      rw [run, List.map_cons, List.nodup_cons]
      refine ⟨?_, ih (m := m.after 1) tells⟩
      intro again
      obtain ⟨marker, hmem, same⟩ := List.mem_map.mp again
      obtain ⟨position, other, low, high, rfl⟩ := exists_of_mem_run (m := m.after 1) hmem
      have later : m.count < position := low
      have here := tells position high m.count (by omega) other hint same
      omega

/-- No two markers of a run with room for its numbers have one address. -/
theorem nodup_ids {m : Markers} {hints : List (Option String)}
    (room : m.factory.HasRoom (m.count + hints.length)) :
    ((m.run hints).map Marker.id).Nodup :=
  nodup_map_run fun _ hp _ hq _ _ same => MarkerFactory.position_eq_of_id_eq room hp hq same

end Markers

/-- The markers of a built-in dialect have room for every 64-bit position. -/
theorem Dialect.hasRoom {d : Dialect} (h : d ∈ Dialect.builtIn) :
    d.markers.HasRoom (twoPow 64) := by
  simp only [Dialect.builtIn, List.mem_cons, List.not_mem_nil, or_false] at h
  rcases h with rfl | rfl | rfl | rfl | rfl
  · trivial
  · trivial
  · trivial
  · trivial
  · intro position small
    have digits := length_toDigits_le small
    have stem : byteCount "P".toList = 1 := by decide
    show byteCount "P".toList + _ ≤ 32
    rw [stem]
    omega

end DataMapper
