import DataMapper.Settable

/-!
# Bind markers

A `Marker` stands in a statement for a value.  It has the placeholder that is
written and the `BindId` under which the value is bound.  A `MarkerFactory` is
the placeholder style of a dialect, and `MarkerFactory.marker` is the marker it
makes for a position, counted from zero, and an optional hint.

* Indexed markers write a sigil and the position moved by an offset, as a 64-bit
  number that begins again at zero after the greatest.
* Anonymous markers all look the same.
* Named markers write a sigil and a name.  The name is a stem, the position
  and, after an underscore, the ASCII letters and digits of the hint, if it has
  some.  It is cut to a greatest number of bytes.

The first two bind by position and the third by name.  `Markers` is a sequence
of markers, which is a factory and the number handed out.

A name that would be cut inside a character cannot be cut at all.  Only the
stem has characters of more than one byte, so whether names can be cut is known
of the stem alone, and a factory that could not hand out one marker is none
(`NameStyle.whole`).

A `Plan` lists the markers of a statement with their values, and
`Plan.bindings` the calls by which a driver statement receives them.
-/

namespace DataMapper

/-! ## Markers -/

/-- The address of a value in a driver statement. -/
inductive BindId where
  /-- A position, counted from zero. -/
  | index (position : Nat)
  /-- A name, without the sigil of the placeholder. -/
  | name (text : String)
  deriving DecidableEq, Repr

def BindId.text : BindId → String
  | index position => toString position
  | name text => text

/-- A placeholder and the address of its value. -/
structure Marker where
  placeholder : String
  id : BindId
  deriving DecidableEq, Repr

/-! ## Names -/

/-- The front of a text that has a number of bytes, the whole text when it has no more.  There is
none when the number falls inside a character. -/
def truncate? (room : Nat) : List Char → Option (List Char)
  | [] => some []
  | c :: rest =>
      if room = 0 then some []
      else if c.utf8Size ≤ room then (truncate? (room - c.utf8Size) rest).map (c :: ·)
      else none

/-- What a hint adds to a name. -/
def hintSuffix (hint : Option String) : List Char :=
  let letters := (hint.getD "").toList.filter Char.isAlphanum
  if letters.isEmpty then [] else '_' :: letters

/-- A name before it is cut. -/
def wholeName (stem : String) (position : Nat) (hint : Option String) : List Char :=
  stem.toList ++ ((toString position).toList ++ hintSuffix hint)

theorem utf8Size_of_isAlphanum {c : Char} (h : c.isAlphanum = true) : c.utf8Size = 1 := by
  rw [Char.utf8Size_eq_one_iff]
  rcases (Bool.or_eq_true ..).mp h with letter | digit
  · rcases (Bool.or_eq_true ..).mp letter with upper | lower
    · exact UInt32.le_trans (of_decide_eq_true upper).2 (by decide)
    · have high : c.val ≤ 'z'.val := of_decide_eq_true ((Bool.and_eq_true ..).mp lower).2
      exact UInt32.le_trans high (by decide)
  · have high : c.val ≤ '9'.val := of_decide_eq_true ((Bool.and_eq_true ..).mp digit).2
    exact UInt32.le_trans high (by decide)

/-- What follows the stem of a name has one byte for each character. -/
theorem utf8Size_of_mem_wholeName {position : Nat} {hint : Option String} {c : Char}
    (h : c ∈ (toString position).toList ++ hintSuffix hint) : c.utf8Size = 1 := by
  rcases List.mem_append.mp h with digit | suffix
  · have digits : (toString position).toList = Nat.toDigits 10 position := Nat.toList_repr
    rw [digits] at digit
    have isDigit : c.isDigit = true := Nat.isDigit_of_mem_toDigits (by decide) (by decide) digit
    exact utf8Size_of_isAlphanum (by rw [Char.isAlphanum, isDigit, Bool.or_true])
  · unfold hintSuffix at suffix
    simp only at suffix
    split at suffix
    next => cases suffix
    next =>
      rcases List.mem_cons.mp suffix with rfl | letter
      · decide
      · exact utf8Size_of_isAlphanum (List.mem_filter.mp letter).2

/-- Where each character has one byte, a text can be cut anywhere. -/
theorem isSome_truncate?_of_single {cs : List Char} (single : ∀ c ∈ cs, c.utf8Size = 1)
    (room : Nat) : (truncate? room cs).isSome = true := by
  induction cs generalizing room with
  | nil => rfl
  | cons c rest ih =>
      obtain ⟨here, later⟩ := List.forall_mem_cons.mp single
      rw [truncate?, here]
      split
      next => rfl
      next filled =>
        have fits : 1 ≤ room := Nat.pos_of_ne_zero filled
        rw [if_pos fits, Option.isSome_map, ih later]

/-- Whether a text can be cut does not depend on such characters at its end. -/
theorem isSome_truncate?_append {rest : List Char} (single : ∀ c ∈ rest, c.utf8Size = 1)
    (room : Nat) (front : List Char) :
    (truncate? room (front ++ rest)).isSome = (truncate? room front).isSome := by
  induction front generalizing room with
  | nil => exact isSome_truncate?_of_single single room
  | cons c front ih =>
      rw [List.cons_append, truncate?, truncate?]
      split
      next => rfl
      next =>
        split
        next => rw [Option.isSome_map, Option.isSome_map, ih]
        next => rfl

/-- Whether a name can be cut depends on its stem alone. -/
theorem isSome_truncate?_wholeName (stem : String) (maxLength position : Nat)
    (hint : Option String) :
    (truncate? maxLength (wholeName stem position hint)).isSome
      = (truncate? maxLength stem.toList).isSome :=
  isSome_truncate?_append (fun _ => utf8Size_of_mem_wholeName) maxLength stem.toList

/-- How markers are named. -/
structure NameStyle where
  /-- What every name begins with. -/
  stem : String
  /-- The greatest number of bytes of a name. -/
  maxLength : Nat
  /-- The greatest number does not fall inside a character of the stem. -/
  whole : (truncate? maxLength stem.toList).isSome = true := by decide
  deriving DecidableEq, Repr

/-- The name for a position. -/
def NameStyle.name (style : NameStyle) (position : Nat) (hint : Option String) : String :=
  String.ofList ((truncate? style.maxLength (wholeName style.stem position hint)).get
    ((isSome_truncate?_wholeName ..).trans style.whole))

/-- The name for a position is what its letters are cut to. -/
theorem NameStyle.truncate?_wholeName (style : NameStyle) (position : Nat)
    (hint : Option String) :
    truncate? style.maxLength (wholeName style.stem position hint)
      = some (style.name position hint).toList := by
  rw [name, String.toList_ofList, Option.some_get]

/-! ## Factories -/

/-- The placeholder style of a dialect. -/
inductive MarkerFactory where
  /-- A sigil and a counter that starts at an offset. -/
  | indexed (sigil : String) (offset : Nat)
  /-- The same placeholder everywhere. -/
  | anonymous (placeholder : String)
  /-- A sigil and a name. -/
  | named (sigil : String) (style : NameStyle)
  deriving DecidableEq, Repr

namespace MarkerFactory

def marker (factory : MarkerFactory) (position : Nat) (hint : Option String) : Marker :=
  match factory with
  | indexed sigil offset =>
      ⟨sigil ++ toString ((position + offset) % twoPow 64), .index position⟩
  | anonymous placeholder => ⟨placeholder, .index position⟩
  | named sigil style => ⟨sigil ++ style.name position hint, .name (style.name position hint)⟩

/-- Whether a marker tells its value from the others. -/
def isIdentifiable : MarkerFactory → Bool
  | anonymous _ => false
  | _ => true

def isNamed : MarkerFactory → Bool
  | named _ _ => true
  | _ => false

end MarkerFactory

/-- The markers of one statement: the factory and how many were handed out. -/
structure Markers where
  factory : MarkerFactory
  /-- How many markers were handed out. -/
  count : Nat := 0
  deriving DecidableEq, Repr

def Markers.next (m : Markers) (hint : Option String) : Marker × Markers :=
  (m.factory.marker m.count hint, ⟨m.factory, m.count + 1⟩)

/-- The markers handed out for a list of hints, in order. -/
def Markers.run (m : Markers) : List (Option String) → List Marker
  | [] => []
  | hint :: rest => (m.next hint).1 :: (m.next hint).2.run rest

/-! ## Plans -/

/-- One call to a driver statement. -/
inductive Binding where
  | value (id : BindId) (value : Value)
  | null (id : BindId) (type : SqlType)

/-- The address a call is made under. -/
def Binding.id : Binding → BindId
  | value id _ => id
  | null id _ => id

/-- The call that binds a settable under an address. -/
def Settable.bindTo (s : Settable) (id : BindId) : Binding :=
  match s.value with
  | some value => .value id value
  | none => .null id s.sqlType

/-- The markers of a statement with their values, in the order of their making. -/
abbrev Plan := List (Marker × Settable)

/-- The calls that bind a plan, one for each entry. -/
def Plan.bindings (plan : Plan) : List Binding :=
  plan.map fun entry => entry.2.bindTo entry.1.id

/-- A statement text with its plan. -/
structure Operation where
  sql : String
  plan : Plan

/-! ## Checks -/

example : (MarkerFactory.indexed "$" 1).marker 0 (some "id") = ⟨"$1", .index 0⟩ := by decide
example : (MarkerFactory.named "@" { stem := "P", maxLength := 32 }).marker 2 (some "first name")
    = ⟨"@P2_firstname", .name "P2_firstname"⟩ := by decide
example : (MarkerFactory.named ":" { stem := "param", maxLength := 2 }).marker 0 none
    = ⟨":pa", .name "pa"⟩ := by decide
example : truncate? 1 (wholeName "é" 0 none) = none := by decide

end DataMapper
