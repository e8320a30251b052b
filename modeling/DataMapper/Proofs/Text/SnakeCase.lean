import DataMapper.Text.LetterCase
import Mathlib

/-!
# What names in snake case are

The snake case of a name has the characters of the name in their order, with the ASCII capitals
made small and underscores put before some of them (`Underscored`).  Capitals beyond ASCII begin
words as others do, but they keep their case.

* They are the capitals of the snake case (`upper_mem_snakeCase_iff`).
* One that begins no word may begin one once the ASCII capitals around it are small.  So the snake
  case of a name changes in a second pass exactly when the name is `Unsettled`
  (`snakeCase_again_iff`).
* Small ASCII capitals alone make the lower case of a name exactly when its characters beyond ASCII
  are their own lower case (`asciiLower_eq_lower_iff`).

A name without such characters has its lower case with underscores put in, and a second pass does
not change it (`snakeCase_of_forall`).
-/

namespace DataMapper.Text

/-! ## Letters of ASCII -/

/-- Whether a character is a capital that keeps its case when ASCII capitals are made small. -/
def keepsCase (c : Char) : Bool := isUpper c && !c.isUpper

variable {c : Char}

theorem toNat_lt_of_isAlpha (alpha : c.isAlpha = true) : c.toNat < 128 := by
  simp [Char.isAlpha, Char.isUpper, Char.isLower, UInt32.le_iff_toNat_le] at alpha
  omega

theorem toNat_lt_of_isUpper (capital : c.isUpper = true) : c.toNat < 128 :=
  toNat_lt_of_isAlpha (by simp [Char.isAlpha, capital])

theorem toNat_toLower_lt (capital : c.isUpper = true) : c.toLower.toNat < 128 :=
  toNat_lt_of_isAlpha (by simp [Char.isAlpha, capital])

/-- A capital of ASCII is a capital. -/
theorem isUpper_of_ascii (capital : c.isUpper = true) : isUpper c = true := by
  simp [isUpper, toNat_lt_of_isUpper capital, capital]

theorem toLower_of_isUpper_eq_false (other : isUpper c = false) : c.toLower = c := by
  refine Char.toLower_eq_of_not_isUpper fun capital => ?_
  simp [isUpper_of_ascii capital] at other

theorem toLower_of_beyond (beyond : 128 ≤ c.toNat) : c.toLower = c := by
  refine Char.toLower_eq_of_not_isUpper fun capital => ?_
  have small : c.toNat < 128 := toNat_lt_of_isUpper capital
  omega

theorem isUpper_of_keepsCase (keeps : keepsCase c = true) : isUpper c = true :=
  (Bool.and_eq_true_iff.mp keeps).1

/-- A capital that keeps its case is none of ASCII. -/
theorem beyond_of_keepsCase (keeps : keepsCase c = true) : 128 ≤ c.toNat := by
  by_contra small
  simp [keepsCase, isUpper, Nat.lt_of_not_le small] at keeps

/-- The capitals that are left are those that keep their case. -/
theorem isUpper_toLower (c : Char) : isUpper c.toLower = keepsCase c := by
  cases capital : c.isUpper with
  | false => simp [keepsCase, capital, Char.toLower_eq_of_not_isUpper]
  | true => simp [keepsCase, capital, isUpper, toNat_toLower_lt capital]

/-- The capitals of ASCII become small letters. -/
theorem isLower_toLower (c : Char) : isLower c.toLower = (isLower c || c.isUpper) := by
  cases capital : c.isUpper with
  | false => simp [capital, Char.toLower_eq_of_not_isUpper]
  | true => simp [isLower, toNat_toLower_lt capital, Char.isAlpha, capital]

/-! ## Underscores -/

/-- Whether a character is a capital that begins a word, given the characters around it. -/
def isInitial (before : Option Char) (c : Char) (next : Option Char) : Bool :=
  isUpper c && beginsWord before next

/-- The snake case of a first character and those that follow it. -/
theorem snakeCaseFrom_cons (before : Option Char) (c : Char) (rest : List Char) :
    snakeCaseFrom before (c :: rest) =
      (if isInitial before c rest.head? then ['_'] else [])
        ++ c.toLower :: snakeCaseFrom (some c) rest := by
  rw [snakeCaseFrom]
  cases capital : isUpper c with
  | false => simp [isInitial, capital, toLower_of_isUpper_eq_false capital]
  | true => cases begins : beginsWord before rest.head? <;> simp [isInitial, capital, begins]

theorem ne_underscore (capital : isUpper c = true) : c ≠ '_' := by
  rintro rfl
  exact absurd capital (by decide)

theorem isInitial_underscore (before next : Option Char) : isInitial before '_' next = false := by
  have other : isUpper '_' = false := by decide
  simp [isInitial, other]

theorem isInitial_after_underscore (c : Char) (next : Option Char) :
    isInitial (some '_') c next = false := by
  have small : isLower '_' = false := by decide
  have capital : isUpper '_' = false := by decide
  simp [isInitial, beginsWord, small, capital]

/-- Whether the second text is the first with an underscore put before some of its characters. -/
inductive Underscored : List Char → List Char → Prop where
  | nil : Underscored [] []
  | plain (c : Char) {chars text : List Char} (h : Underscored chars text) :
      Underscored (c :: chars) (c :: text)
  | underscore (c : Char) {chars text : List Char} (h : Underscored chars text) :
      Underscored (c :: chars) ('_' :: c :: text)

/-- The characters are kept, underscores apart. -/
theorem Underscored.mem_iff {chars text : List Char} (h : Underscored chars text)
    (other : c ≠ '_') : c ∈ text ↔ c ∈ chars := by
  induction h with
  | nil => rfl
  | plain d _ ih => simp [ih]
  | underscore d _ ih => simp [ih, other]

/-- The snake case of characters has them in order, with the ASCII capitals made small. -/
theorem underscored_snakeCaseFrom (before : Option Char) (chars : List Char) :
    Underscored (chars.map Char.toLower) (snakeCaseFrom before chars) := by
  induction chars generalizing before with
  | nil => exact .nil
  | cons c rest ih =>
      rw [snakeCaseFrom_cons, List.map_cons]
      split
      · exact .underscore _ (ih (some c))
      · exact .plain _ (ih (some c))

/-- The capitals of the snake case are the capitals beyond ASCII. -/
theorem upper_mem_snakeCaseFrom_iff (before : Option Char) (chars : List Char) :
    c ∈ snakeCaseFrom before chars ∧ isUpper c = true ↔ c ∈ chars ∧ keepsCase c = true := by
  have kept := underscored_snakeCaseFrom before chars
  constructor
  · intro ⟨mem, capital⟩
    have there : c ∈ chars.map Char.toLower := (kept.mem_iff (ne_underscore capital)).mp mem
    obtain ⟨d, hd, rfl⟩ := List.mem_map.mp there
    rw [isUpper_toLower] at capital
    rw [toLower_of_beyond (beyond_of_keepsCase capital)]
    exact ⟨hd, capital⟩
  · intro ⟨mem, keeps⟩
    have capital : isUpper c = true := isUpper_of_keepsCase keeps
    refine ⟨(kept.mem_iff (ne_underscore capital)).mpr ?_, capital⟩
    exact List.mem_map.mpr ⟨c, mem, toLower_of_beyond (beyond_of_keepsCase keeps)⟩

/-! ## A second pass -/

/-- Whether a capital keeps its case and begins no word, but begins one once ASCII capitals are
small.  It comes after an ASCII capital, or after a capital that keeps its case and before an ASCII
capital that begins no word. -/
structure GainsUnderscore (before c : Char) (rest : List Char) : Prop where
  keeps : keepsCase c = true
  unmarked : beginsWord (some before) rest.head? = false
  gains : before.isUpper = true ∨ keepsCase before = true ∧
    ∃ next more, rest = next :: more ∧ next.isUpper = true ∧
      beginsWord (some c) more.head? = false

/-- Whether a character among others gains an underscore in a second pass. -/
inductive Unsettled : List Char → Prop where
  | here {before c : Char} {rest : List Char} (h : GainsUnderscore before c rest) :
      Unsettled (before :: c :: rest)
  | later {before : Char} {rest : List Char} (h : Unsettled rest) : Unsettled (before :: rest)

/-- What is unsettled has a capital that keeps its case. -/
theorem Unsettled.exists_keepsCase {chars : List Char} (h : Unsettled chars) :
    ∃ c ∈ chars, keepsCase c = true := by
  induction h with
  | @here before c rest gains => exact ⟨c, by simp, gains.keeps⟩
  | later _ ih =>
      obtain ⟨c, mem, keeps⟩ := ih
      exact ⟨c, List.mem_cons_of_mem _ mem, keeps⟩

theorem not_unsettled_nil : ¬ Unsettled [] := nofun

theorem not_unsettled_singleton (c : Char) : ¬ Unsettled [c] := by
  intro h
  cases h with
  | later h => cases h

theorem unsettled_cons_cons_iff {before : Char} {rest : List Char} :
    Unsettled (before :: c :: rest) ↔ GainsUnderscore before c rest ∨ Unsettled (c :: rest) := by
  constructor
  · intro h
    cases h with
    | here h => exact .inl h
    | later h => exact .inr h
  · intro h
    cases h with
    | inl h => exact .here h
    | inr h => exact .later h

/-- The first character of a snake case is a small letter if the first character is a letter that
becomes small and no underscore is put before it. -/
theorem isLower_head_snakeCaseFrom (before : Option Char) (chars : List Char) :
    (snakeCaseFrom before chars).head?.any isLower = true ↔
      ∃ c rest, chars = c :: rest ∧ isInitial before c rest.head? = false ∧
        (isLower c = true ∨ c.isUpper = true) := by
  cases chars with
  | nil => simp [snakeCaseFrom]
  | cons c rest =>
      have underscore : isLower '_' = false := by decide
      rw [snakeCaseFrom_cons]
      cases initial : isInitial before c rest.head? with
      | false => simp [initial, isLower_toLower]
      | true => simp [initial, underscore]

/-- A capital that begins no word begins one in a second pass if it gains an underscore. -/
theorem isInitial_again_iff {before : Char} {rest : List Char}
    (unmarked : isInitial (some before) c rest.head? = false) :
    isInitial (some before.toLower) c.toLower (snakeCaseFrom (some c) rest).head? = true ↔
      GainsUnderscore before c rest := by
  have again : isInitial (some before.toLower) c.toLower (snakeCaseFrom (some c) rest).head? = true ↔
      keepsCase c = true ∧ ((isLower before = true ∨ before.isUpper = true) ∨
        keepsCase before = true ∧ (snakeCaseFrom (some c) rest).head?.any isLower = true) := by
    simp [isInitial, beginsWord, isUpper_toLower, isLower_toLower]
  rw [again, isLower_head_snakeCaseFrom]
  constructor
  · intro ⟨keeps, gains⟩
    have capital : isUpper c = true := isUpper_of_keepsCase keeps
    rw [isInitial, capital, Bool.true_and] at unmarked
    refine ⟨keeps, unmarked, ?_⟩
    simp only [beginsWord, Option.any_some, Bool.or_eq_false_iff, Bool.and_eq_false_iff] at unmarked
    rcases gains with (small | ascii) | ⟨beyond, next, more, rfl, initial, small | ascii⟩
    · simp [small] at unmarked
    · exact .inl ascii
    · simp [isUpper_of_keepsCase beyond, small] at unmarked
    · refine .inr ⟨beyond, next, more, rfl, ascii, ?_⟩
      simpa [isInitial, isUpper_of_ascii ascii] using initial
  · intro ⟨keeps, _, gains⟩
    refine ⟨keeps, ?_⟩
    rcases gains with ascii | ⟨beyond, next, more, rfl, ascii, unmarked⟩
    · exact .inl (.inr ascii)
    · exact .inr ⟨beyond, next, more, rfl, by simp [isInitial, unmarked], .inr ascii⟩

theorem unsettled_toList_cons_iff {before : Option Char} {rest : List Char} :
    Unsettled (before.toList ++ c :: rest) ↔
      (∃ a, before = some a ∧ GainsUnderscore a c rest) ∨ Unsettled (c :: rest) := by
  cases before with
  | none => simp
  | some a => simp [unsettled_cons_cons_iff]

/-- A second pass leaves the snake case of a first character and those that follow it as it is
if the character gains no underscore and the rest is left as it is. -/
theorem snakeCaseFrom_again_cons_iff (before : Option Char) (c : Char) (rest : List Char) :
    snakeCaseFrom (before.map Char.toLower) (snakeCaseFrom before (c :: rest))
        = snakeCaseFrom before (c :: rest) ↔
      ¬ (∃ a, before = some a ∧ GainsUnderscore a c rest) ∧
        snakeCaseFrom (some c.toLower) (snakeCaseFrom (some c) rest)
          = snakeCaseFrom (some c) rest := by
  rw [snakeCaseFrom_cons]
  cases initial : isInitial before c rest.head? with
  | true =>
      -- the underscore stays, and nothing is put behind it
      have none : ¬ ∃ a, before = some a ∧ GainsUnderscore a c rest := by
        rintro ⟨a, rfl, gains⟩
        simp [isInitial, gains.unmarked] at initial
      have underscore : '_'.toLower = '_' := by decide
      rw [if_pos rfl, List.singleton_append, snakeCaseFrom_cons, snakeCaseFrom_cons,
        isInitial_underscore, isInitial_after_underscore]
      simp [none, underscore]
  | false =>
      rw [if_neg Bool.false_ne_true, List.nil_append, snakeCaseFrom_cons]
      cases before with
      | none => simp [isInitial, beginsWord]
      | some a =>
          have gains := isInitial_again_iff initial
          rw [Option.map_some]
          cases again : isInitial (some a.toLower) c.toLower
              (snakeCaseFrom (some c) rest).head? with
          | true =>
              -- a capital stands where the second pass puts the underscore
              have gained : GainsUnderscore a c rest := gains.mp again
              have other : '_' ≠ c.toLower := by
                rw [toLower_of_beyond (beyond_of_keepsCase gained.keeps)]
                exact (ne_underscore (isUpper_of_keepsCase gained.keeps)).symm
              simp [gained, other]
          | false =>
              have none : ¬ GainsUnderscore a c rest := mt gains.mpr (by simp [again])
              simp [none]

/-- A second pass leaves a snake case as it is unless it gains an underscore. -/
theorem snakeCaseFrom_again_iff (before : Option Char) (chars : List Char) :
    snakeCaseFrom (before.map Char.toLower) (snakeCaseFrom before chars) = snakeCaseFrom before chars
      ↔ ¬ Unsettled (before.toList ++ chars) := by
  induction chars generalizing before with
  | nil =>
      cases before with
      | none => simp [snakeCaseFrom, not_unsettled_nil]
      | some a => simp [snakeCaseFrom, not_unsettled_singleton]
  | cons c rest ih =>
      have later := ih (some c)
      rw [Option.map_some, Option.toList_some, List.singleton_append] at later
      rw [snakeCaseFrom_again_cons_iff, later, unsettled_toList_cons_iff, not_or]

/-! ## Lower case -/

/-- In the lower case a first character becomes its small letter of ASCII exactly when it is one of
ASCII or its own lower case. -/
theorem lowerAfter_cons_iff (before : List Char) (c : Char) (rest others : List Char) :
    lowerAfter before (c :: rest) = c.toLower :: others ↔
      (128 ≤ c.toNat → lowerChar c = [c]) ∧ lowerAfter (c :: before) rest = others := by
  rw [lowerAfter]
  by_cases ascii : c.toNat < 128
  · have other : c.toNat ≠ 0x3a3 := by omega
    simp [lowerChar, ascii, other]
  · have beyond : 128 ≤ c.toNat := by omega
    rw [toLower_of_beyond beyond]
    by_cases sigma : c.toNat = 0x3a3
    · obtain rfl : c = Char.ofNat 0x3a3 := by rw [← sigma, Char.ofNat_toNat]
      have lowered : lowerChar (Char.ofNat 0x3a3) ≠ [Char.ofNat 0x3a3] := by decide +kernel
      refine iff_of_false (fun same => ?_) fun own => lowered (own.1 beyond)
      -- it becomes one of the two small sigmas
      rw [if_pos sigma] at same
      have first := (List.cons.inj same).1
      split at first <;> exact absurd first (by decide)
    · by_cases dotted : c.toNat = 0x130
      · obtain rfl : c = Char.ofNat 0x130 := by rw [← dotted, Char.ofNat_toNat]
        have lowered : lowerChar (Char.ofNat 0x130) = ['i', Char.ofNat 0x307] := by decide +kernel
        simp [lowered]
      · simp [lowerChar, ascii, sigma, dotted, beyond]

/-- The lower case of characters is that of ASCII exactly when each character beyond ASCII is its
own lower case. -/
theorem lowerAfter_eq_iff (before chars : List Char) :
    lowerAfter before chars = chars.map Char.toLower ↔
      ∀ c ∈ chars, 128 ≤ c.toNat → lowerChar c = [c] := by
  induction chars generalizing before with
  | nil => simp [lowerAfter]
  | cons c rest ih =>
      rw [List.map_cons, lowerAfter_cons_iff, ih (c :: before), List.forall_mem_cons]

/-! ## Names -/

variable {name : String}

theorem underscored_asciiLower (name : String) :
    Underscored (asciiLower name).toList (snakeCase name).toList := by
  rw [asciiLower, snakeCase, String.toList_ofList, String.toList_ofList]
  exact underscored_snakeCaseFrom none name.toList

theorem upper_mem_snakeCase_iff :
    c ∈ (snakeCase name).toList ∧ isUpper c = true ↔ c ∈ name.toList ∧ keepsCase c = true := by
  rw [snakeCase, String.toList_ofList]
  exact upper_mem_snakeCaseFrom_iff none name.toList

theorem snakeCase_again_iff :
    snakeCase (snakeCase name) = snakeCase name ↔ ¬ Unsettled name.toList := by
  rw [snakeCase, snakeCase, String.toList_ofList, String.ofList_inj]
  exact snakeCaseFrom_again_iff none name.toList

theorem asciiLower_eq_lower_iff :
    asciiLower name = lower name ↔ ∀ c ∈ name.toList, 128 ≤ c.toNat → lowerChar c = [c] := by
  rw [asciiLower, lower, String.ofList_inj, eq_comm]
  exact lowerAfter_eq_iff [] name.toList

/-- A name has its lower case with underscores put in, without capitals and settled, if none of its
characters beyond ASCII is a capital or has another lower case. -/
theorem snakeCase_of_forall
    (plain : ∀ c ∈ name.toList, 128 ≤ c.toNat → isUpper c = false ∧ lowerChar c = [c]) :
    (∀ c ∈ (snakeCase name).toList, isUpper c = false) ∧
      snakeCase (snakeCase name) = snakeCase name ∧
      Underscored (lower name).toList (snakeCase name).toList := by
  have small : ∀ c ∈ name.toList, keepsCase c = false := by
    intro c mem
    refine Bool.eq_false_iff.mpr fun keeps => ?_
    have other := (plain c mem (beyond_of_keepsCase keeps)).1
    simp [isUpper_of_keepsCase keeps] at other
  refine ⟨fun c mem => ?_, ?_, ?_⟩
  · refine Bool.eq_false_iff.mpr fun capital => ?_
    obtain ⟨there, keeps⟩ := upper_mem_snakeCase_iff.mp ⟨mem, capital⟩
    simp [small c there] at keeps
  · refine snakeCase_again_iff.mpr fun unsettled => ?_
    obtain ⟨c, mem, keeps⟩ := unsettled.exists_keepsCase
    simp [small c mem] at keeps
  · rw [← asciiLower_eq_lower_iff.mpr fun c mem beyond => (plain c mem beyond).2]
    exact underscored_asciiLower name

example : snakeCase "StraßeID" = "straße_id" := by decide +kernel

/-- The snake case of a name has the characters of the name in order, with the ASCII capitals made
small and underscores put before some of them.

* Its capitals are the capitals of the name beyond ASCII.
* Its own snake case is the same exactly when none of those gains an underscore.
* The name with its ASCII capitals made small is the lower case of the name exactly when each
  character beyond ASCII is its own lower case. -/
theorem underscored_snakeCase (name : String) :
    Underscored (asciiLower name).toList (snakeCase name).toList ∧
      (∀ c, c ∈ (snakeCase name).toList ∧ isUpper c = true ↔
        c ∈ name.toList ∧ keepsCase c = true) ∧
      (snakeCase (snakeCase name) = snakeCase name ↔ ¬ Unsettled name.toList) ∧
      (asciiLower name = lower name ↔ ∀ c ∈ name.toList, 128 ≤ c.toNat → lowerChar c = [c]) :=
  ⟨underscored_asciiLower name, fun _ => upper_mem_snakeCase_iff, snakeCase_again_iff,
    asciiLower_eq_lower_iff⟩

/-- A capital beyond ASCII stays in the snake case, and behind an ASCII capital it gains an
underscore in a second pass. -/
theorem snakeCase_capital_beyond :
    snakeCase "Étude" = "Étude" ∧ isUpper 'É' = true ∧ lower "Étude" = "étude" ∧
      snakeCase "AÉ" = "aÉ" ∧ snakeCase (snakeCase "AÉ") = "a_É" := by
  decide +kernel

end DataMapper.Text
