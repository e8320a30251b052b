import DataMapper.Proofs.Template.Placeholders
import Mathlib.Tactic.SplitIfs

/-!
# Placeholders and bytes

The scanner reads characters, and a text is stored as bytes.  `byteChars` is the
text of the bytes, each byte being the character with its code, so that regions and
placeholders are defined of bytes as they are of characters.

A character below 128 is one byte and is that byte.  Any other character is several
bytes from 128 on, and no such byte is a mark of a region, a sigil or a word character.
A scan passes over all such plain characters in the same way (`ScanMode.pass`).  So a scan
of the bytes marks each character as a scan of the characters does (`marksFrom_bytes`), and
it gives the same placeholders, at bytes in place of characters (`markPlaces_bytes`).

`Template.placeholders_of_parse` is the grammar of templates: what is reported at
which byte.
-/

namespace DataMapper

/-! ## The bytes of a text -/

/-- The bytes of a character, each as the character with its code. -/
def charBytes (c : Char) : List Char := (String.utf8EncodeChar c).map Char.ofUInt8

/-- The bytes of a text, each as the character with its code. -/
def byteChars (s : String) : List Char := s.toByteArray.data.toList.map Char.ofUInt8

/-- The bytes of a text are those of its characters. -/
theorem byteChars_eq (s : String) : byteChars s = s.toList.flatMap charBytes := by
  rw [byteChars, ← String.utf8Encode_toList, List.utf8Encode, List.data_toByteArray,
    List.toList_toArray, List.map_flatMap]
  rfl

theorem length_charBytes (c : Char) : (charBytes c).length = c.utf8Size := by
  rw [charBytes, List.length_map, String.length_utf8EncodeChar]

theorem toNat_ofUInt8 (b : UInt8) : (Char.ofUInt8 b).toNat = b.toNat := UInt8.toNat_toUInt32 b

theorem utf8EncodeChar_of_ascii {c : Char} (h : c.toNat < 128) :
    String.utf8EncodeChar c = [c.val.toUInt8] :=
  String.utf8EncodeChar_eq_singleton
    (Char.utf8Size_eq_one_iff.mpr (UInt32.le_iff_toNat_le.mpr (Nat.le_of_lt_succ h)))

theorem toNat_toUInt8_of_ascii {c : Char} (h : c.toNat < 128) : c.val.toUInt8.toNat = c.toNat := by
  rw [UInt32.toNat_toUInt8]
  exact Nat.mod_eq_of_lt (Nat.lt_trans h (by decide))

/-- A character below 128 is its own byte. -/
theorem charBytes_of_ascii {c : Char} (h : c.toNat < 128) : charBytes c = [c] := by
  have byte : (Char.ofUInt8 c.val.toUInt8).toNat = c.toNat := by
    rw [toNat_ofUInt8, toNat_toUInt8_of_ascii h]
  rw [charBytes, utf8EncodeChar_of_ascii h, List.map_singleton, List.singleton_inj]
  exact Char.ext (UInt32.toNat.inj byte)

/-- Any other character has bytes from 128 on only. -/
theorem forall_charBytes {c : Char} (h : ¬ c.toNat < 128) : ∀ d ∈ charBytes c, ¬ d.toNat < 128 := by
  have large : ¬ c.val.toNat ≤ 127 := fun small => h (Nat.lt_succ_of_le small)
  rw [charBytes, String.utf8EncodeChar, if_neg large]
  intro d hd
  obtain ⟨b, hb, rfl⟩ := List.mem_map.mp hd
  rw [toNat_ofUInt8]
  -- Each byte of two, three or four is a number below 64 or less, added to 128 or more.
  repeat' split at hb
  all_goals
    simp only [List.mem_cons, List.not_mem_nil, or_false] at hb
    rcases hb with rfl | rfl | rfl | rfl <;> rw [UInt8.toNat_ofNat'] <;> omega

theorem charBytes_ne_nil (c : Char) : charBytes c ≠ [] := by
  rw [← List.length_pos_iff, length_charBytes]
  exact c.utf8Size_pos

/-- A byte below 128 is at the beginning of the bytes of characters when it is the
first character. -/
theorem head?_flatMap_charBytes {cs : List Char} {d : Char} (h : d.toNat < 128) :
    (cs.flatMap charBytes).head? = some d ↔ cs.head? = some d := by
  cases cs with
  | nil => exact Iff.rfl
  | cons c rest =>
      rw [List.flatMap_cons]
      by_cases ascii : c.toNat < 128
      · rw [charBytes_of_ascii ascii]
        exact Iff.rfl
      · obtain ⟨first, others, bytes⟩ := List.exists_cons_of_ne_nil (charBytes_ne_nil c)
        have high : ¬ first.toNat < 128 :=
          forall_charBytes ascii first (by rw [bytes]; exact List.mem_cons_self ..)
        rw [bytes]
        constructor
        · intro found
          cases found
          exact absurd h high
        · intro found
          cases found
          exact absurd h ascii

/-! ## Scanning bytes -/

/-- A word character is below 128. -/
theorem toNat_of_word {c : Char} (word : Text.isAsciiWord c = true) : c.toNat < 128 := by
  have below (d : Char) (h : c.val ≤ d.val) (low : d.toNat < 128) : c.toNat < 128 :=
    Nat.lt_of_le_of_lt (UInt32.le_iff_toNat_le.mp h) low
  simp only [Text.isAsciiWord, Char.isAlphanum, Bool.or_eq_true, beq_iff_eq] at word
  rcases word with (letter | digit) | rfl
  · rcases (Bool.or_eq_true ..).mp letter with upper | lower
    · exact below 'Z' (of_decide_eq_true upper).2 (by decide)
    · exact below 'z' (of_decide_eq_true ((Bool.and_eq_true ..).mp lower).2) (by decide)
  · exact below '9' (of_decide_eq_true ((Bool.and_eq_true ..).mp digit).2) (by decide)
  · decide

/-- A sigil is below 128. -/
theorem toNat_of_sigil {c : Char} (sigil : isSigil c = true) : c.toNat < 128 := by
  simp only [isSigil, Bool.or_eq_true, beq_iff_eq] at sigil
  rcases sigil with ((rfl | rfl) | rfl) | rfl <;> decide

/-- A sigil is one byte. -/
theorem utf8Size_of_sigil {c : Char} (sigil : isSigil c = true) : c.utf8Size = 1 := by
  rw [← length_charBytes, charBytes_of_ascii (toNat_of_sigil sigil), List.length_singleton]

/-- A quote is below 128. -/
theorem toNat_of_quote {c : Char} (quote : isQuote c = true) : c.toNat < 128 := by
  simp only [isQuote, Bool.or_eq_true, beq_iff_eq] at quote
  rcases quote with rfl | rfl <;> decide

/-- Whether a character is none that a scan looks for: no word character, no sigil, and in
no mark of a region. -/
def isPlain (c : Char) : Bool :=
  !(blocksPlaceholder c || isQuote c || c == '-' || c == '/' || c == '*' || c == '\n')

theorem isPlain_iff {c : Char} : isPlain c = true ↔
    (Text.isAsciiWord c = false ∧ isSigil c = false) ∧ isQuote c = false ∧
      c ≠ '-' ∧ c ≠ '/' ∧ c ≠ '*' ∧ c ≠ '\n' := by
  simp [isPlain, blocksPlaceholder, and_assoc]

/-- A character from 128 on is plain. -/
theorem isPlain_of_not_ascii {c : Char} (high : ¬ c.toNat < 128) : isPlain c = true := by
  have differs {d : Char} (low : d.toNat < 128) : c ≠ d := fun same => high (same ▸ low)
  refine isPlain_iff.mpr ⟨⟨?_, ?_⟩, ?_, differs (by decide), differs (by decide),
    differs (by decide), differs (by decide)⟩
  · exact Bool.eq_false_iff.mpr fun word => high (toNat_of_word word)
  · exact Bool.eq_false_iff.mpr fun sigil => high (toNat_of_sigil sigil)
  · exact Bool.eq_false_iff.mpr fun quote => high (toNat_of_quote quote)

namespace ScanMode

/-- Whether quoted text, if a mode is in it, ends with a character below 128. -/
def Ascii : ScanMode → Prop
  | quoted quote => quote.toNat < 128
  | _ => True

/-- The mode after a plain character that does not end quoted text. -/
def pass : ScanMode → ScanMode
  | code _ => code false
  | quoted quote => quoted quote
  | lineComment => lineComment
  | commentOpening => comment
  | comment => comment
  | commentClosing => code false
  | name => code false

theorem pass_pass (mode : ScanMode) : mode.pass.pass = mode.pass := by
  cases mode <;> rfl

theorem Ascii.pass {mode : ScanMode} (h : mode.Ascii) : mode.pass.Ascii := by
  cases mode
  case quoted quote => exact h
  all_goals exact trivial

/-- All that a step can do: a character is text, a sigil, or one more of a name. -/
theorem step_cases (mode : ScanMode) (c : Char) (next : Option Char) :
    ((mode.step c next).1 = .text c ∧ (mode.step c next).2 ≠ name) ∨
      (isSigil c = true ∧ mode.step c next = (.sigil c, name)) ∨
      (mode = name ∧ Text.isAsciiWord c = true ∧ mode.step c next = (.name c, name)) := by
  have code (blocked : Bool) :
      ((stepCode blocked c next).1 = .text c ∧ (stepCode blocked c next).2 ≠ name) ∨
        (isSigil c = true ∧ stepCode blocked c next = (.sigil c, name)) := by
    rw [stepCode]
    split_ifs with quote line block begins
    · exact .inl ⟨rfl, by simp⟩
    · exact .inl ⟨rfl, by simp⟩
    · exact .inl ⟨rfl, by simp⟩
    · exact .inr ⟨begins.1, rfl⟩
    · exact .inl ⟨rfl, by simp⟩
  cases mode with
  | code blocked => exact (code blocked).imp_right .inl
  | name =>
      rw [step]
      split_ifs with word
      · exact .inr (.inr ⟨rfl, word, rfl⟩)
      · exact (code true).imp_right .inl
  | commentOpening => exact .inl ⟨rfl, by simp [step]⟩
  | commentClosing => exact .inl ⟨rfl, by simp [step]⟩
  | _ =>
      refine .inl ⟨rfl, ?_⟩
      simp only [step]
      split_ifs <;> simp

/-- Quoted text begins with a quote only. -/
theorem quoted_of_step {mode : ScanMode} {c d : Char} {next : Option Char}
    (h : (mode.step c next).2 = quoted d) : mode = quoted d ∨ isQuote d = true := by
  have code {blocked : Bool} (h : (stepCode blocked c next).2 = quoted d) : isQuote d = true := by
    rw [stepCode] at h
    split_ifs at h with quote
    cases h
    exact quote
  cases mode with
  | code blocked => exact .inr (code h)
  | name =>
      rw [step] at h
      split_ifs at h
      exact .inr (code h)
  | quoted quote =>
      rw [step] at h
      split_ifs at h
      exact .inl h
  | commentOpening => cases h
  | commentClosing => cases h
  | _ =>
      rw [step] at h
      split_ifs at h

/-- Quoted text begins with a quote, so it ends with one. -/
theorem ascii_step {mode : ScanMode} (h : mode.Ascii) (c : Char) (next : Option Char) :
    (mode.step c next).2.Ascii := by
  cases later : (mode.step c next).2 with
  | quoted d =>
      rcases quoted_of_step later with rfl | quote
      · exact h
      · exact toNat_of_quote quote
  | _ => exact trivial

/-- A plain character is text, and the scan passes over it in every mode in which it does
not end quoted text. -/
theorem step_of_isPlain {mode : ScanMode} {c : Char} (plain : isPlain c = true)
    (other : mode ≠ quoted c) (next : Option Char) : mode.step c next = (.text c, mode.pass) := by
  obtain ⟨⟨word, sigil⟩, quote, hyphen, slash, star, newline⟩ := isPlain_iff.mp plain
  have outside (blocked : Bool) : stepCode blocked c next = (.text c, code false) := by
    simp [stepCode, blocksPlaceholder, word, sigil, quote, hyphen, slash]
  cases mode with
  | code blocked => exact outside blocked
  | name => simp [step, word, outside, pass]
  | quoted quote =>
      have inside : c ≠ quote := fun closes => other (congrArg quoted closes.symm)
      simp [step, inside, pass]
  | lineComment => simp [step, newline, pass]
  | commentOpening => rfl
  | comment => simp [step, star, pass]
  | commentClosing => rfl

/-- A character from 128 on is text. -/
theorem step_of_not_ascii {mode : ScanMode} (h : mode.Ascii) {c : Char} (high : ¬ c.toNat < 128)
    (next : Option Char) : mode.step c next = (.text c, mode.pass) := by
  refine step_of_isPlain (isPlain_of_not_ascii high) (fun closes => ?_) next
  rw [closes] at h
  exact high h

/-- A step looks only whether the next character is one below 128. -/
theorem step_congr {next other : Option Char}
    (h : ∀ d : Char, d.toNat < 128 → (next = some d ↔ other = some d)) (mode : ScanMode)
    (c : Char) : mode.step c next = mode.step c other := by
  have start : next.any Text.isAsciiWordStart = other.any Text.isAsciiWordStart := by
    rw [Bool.eq_iff_iff, Option.any_eq_true, Option.any_eq_true]
    refine exists_congr fun d => and_congr_left fun begins => ?_
    exact h d (toNat_of_word (Text.isAsciiWord_of_isAsciiWordStart begins))
  have code (blocked : Bool) : stepCode blocked c next = stepCode blocked c other := by
    simp only [stepCode, h '-' (by decide), h '*' (by decide), start]
  cases mode with
  | code blocked => exact code blocked
  | name => rw [step, step, code]
  | comment => simp only [step, h '/' (by decide)]
  | _ => rfl

end ScanMode

/-- The marks of the bytes of a character. -/
def Mark.bytes : Mark → List Mark
  | .text c => (charBytes c).map .text
  | .sigil c => [.sigil c]
  | .name c => [.name c]

/-- The mark of a character below 128 is that of its byte. -/
theorem Mark.bytes_of_ascii {mark : Mark} (h : mark.char.toNat < 128) : mark.bytes = [mark] := by
  cases mark with
  | text c => exact congrArg (List.map Mark.text) (charBytes_of_ascii h)
  | sigil c => rfl
  | name c => rfl

/-- Bytes from 128 on are text. -/
theorem marksFrom_pass {mode : ScanMode} (h : mode.Ascii) {ds : List Char} (some : ds ≠ [])
    (high : ∀ d ∈ ds, ¬ d.toNat < 128) (rest : List Char) :
    marksFrom mode (ds ++ rest) = ds.map .text ++ marksFrom mode.pass rest := by
  induction ds generalizing mode with
  | nil => exact absurd rfl some
  | cons d others ih =>
      obtain ⟨first, later⟩ := List.forall_mem_cons.mp high
      rw [List.cons_append, marksFrom, ScanMode.step_of_not_ascii h first, List.map_cons,
        List.cons_append]
      cases others with
      | nil => rfl
      | cons => rw [ih h.pass (List.cons_ne_nil _ _) later, mode.pass_pass]

/-- The bytes of a text are marked as its characters are. -/
theorem marksFrom_bytes {mode : ScanMode} (h : mode.Ascii) (cs : List Char) :
    marksFrom mode (cs.flatMap charBytes) = (marksFrom mode cs).flatMap Mark.bytes := by
  induction cs generalizing mode with
  | nil => rfl
  | cons c rest ih =>
      rw [List.flatMap_cons, marksFrom, List.flatMap_cons]
      by_cases ascii : c.toNat < 128
      · have same : mode.step c (rest.flatMap charBytes).head? = mode.step c rest.head? :=
          ScanMode.step_congr (fun d hd => head?_flatMap_charBytes hd) mode c
        have alone : (mode.step c rest.head?).1.bytes = [(mode.step c rest.head?).1] :=
          Mark.bytes_of_ascii (by rw [ScanMode.char_step]; exact ascii)
        rw [charBytes_of_ascii ascii, List.singleton_append, marksFrom, same,
          ih (ScanMode.ascii_step h _ _), alone, List.singleton_append]
      · rw [marksFrom_pass h (charBytes_ne_nil c) (forall_charBytes ascii), ih h.pass,
          ScanMode.step_of_not_ascii h ascii, Mark.bytes]

/-- Every mark is made by a step. -/
theorem exists_step_of_mem_marksFrom {mode : ScanMode} {cs : List Char} {mark : Mark}
    (h : mark ∈ marksFrom mode cs) :
    ∃ (before : ScanMode) (c : Char) (next : Option Char), (before.step c next).1 = mark := by
  induction cs generalizing mode with
  | nil => cases h
  | cons c rest ih =>
      rw [marksFrom] at h
      rcases List.mem_cons.mp h with first | later
      · exact ⟨mode, c, rest.head?, first.symm⟩
      · exact ih later

/-- The characters of names are word characters. -/
theorem word_of_mem_marksFrom {mode : ScanMode} {cs : List Char} {c : Char}
    (h : .name c ∈ marksFrom mode cs) : Text.isAsciiWord c = true := by
  obtain ⟨before, d, next, mark⟩ := exists_step_of_mem_marksFrom h
  obtain ⟨other, -⟩ | ⟨-, step⟩ | ⟨-, word, step⟩ := before.step_cases d next
  · cases other.symm.trans mark
  · rw [step] at mark
    cases mark
  · rw [step] at mark
    cases mark
    exact word

/-- A character is marked as a sigil only if it is one. -/
theorem sigil_of_mem_marksFrom {mode : ScanMode} {cs : List Char} {c : Char}
    (h : .sigil c ∈ marksFrom mode cs) : isSigil c = true := by
  obtain ⟨before, d, next, mark⟩ := exists_step_of_mem_marksFrom h
  obtain ⟨other, -⟩ | ⟨sigil, step⟩ | ⟨-, -, step⟩ := before.step_cases d next
  · cases other.symm.trans mark
  · rw [step] at mark
    cases mark
    exact sigil
  · rw [step] at mark
    cases mark

/-! ## Places of bytes -/

/-- Characters below 128 have width one. -/
theorem widthOf_utf8Size {cs : List Char} (h : ∀ c ∈ cs, c.toNat < 128) :
    widthOf Char.utf8Size cs = cs.length := by
  induction cs with
  | nil => rfl
  | cons c rest ih =>
      obtain ⟨first, later⟩ := List.forall_mem_cons.mp h
      rw [widthOf, ih later, ← length_charBytes, charBytes_of_ascii first,
        List.length_singleton, List.length_cons, Nat.add_comm]

/-- What a name begins with is marked as a name. -/
theorem name_mem_of_piecesOf {marks : List Mark} {c : Char} (h : c ∈ (piecesOf marks).1) :
    .name c ∈ marks := by
  induction marks with
  | nil => cases h
  | cons mark rest ih =>
      cases mark with
      | name d =>
          rw [piecesOf] at h
          rcases List.mem_cons.mp h with rfl | later
          · exact List.mem_cons_self ..
          · exact List.mem_cons_of_mem _ (ih later)
      | text d => cases h
      | sigil d => cases h

/-- A name that goes on in the marks goes on in those of the bytes. -/
theorem fst_piecesOf_bytes (marks : List Mark) :
    (piecesOf (marks.flatMap Mark.bytes)).1 = (piecesOf marks).1 := by
  induction marks with
  | nil => rfl
  | cons mark rest ih =>
      rw [List.flatMap_cons]
      cases mark with
      | text c =>
          obtain ⟨first, others, bytes⟩ := List.exists_cons_of_ne_nil (charBytes_ne_nil c)
          rw [Mark.bytes, bytes]
          rfl
      | name c => rw [Mark.bytes, List.singleton_append, piecesOf, piecesOf, ih]
      | sigil c => rfl

/-- The bytes have the placeholders of the characters, at places counted in bytes. -/
theorem markPlaces_bytes {marks : List Mark} (ascii : ∀ c, .name c ∈ marks → c.toNat < 128)
    (place : Nat) :
    markPlaces (fun _ => 1) place (marks.flatMap Mark.bytes)
      = markPlaces Char.utf8Size place marks := by
  induction marks generalizing place with
  | nil => rfl
  | cons mark rest ih =>
      have later := ih fun c hc => ascii c (List.mem_cons_of_mem mark hc)
      rw [List.flatMap_cons]
      cases mark with
      | text c =>
          rw [Mark.bytes, markPlaces_texts, later, widthOf_one, length_charBytes, markPlaces_text]
      | name c => exact later place
      | sigil c =>
          have low : ∀ d ∈ (piecesOf rest).1, d.toNat < 128 := fun d hd =>
            ascii d (List.mem_cons_of_mem _ (name_mem_of_piecesOf hd))
          rw [Mark.bytes, List.singleton_append, markPlaces_sigil, markPlaces_sigil,
            fst_piecesOf_bytes, widthOf_one, widthOf_utf8Size low, later]

/-- The placeholders of a text, at places counted in bytes, are those of its bytes. -/
theorem placesOf_segmentsOf (sql : String) :
    placesOf Char.utf8Size 0 (Template.segmentsOf sql)
      = markPlaces (fun _ => 1) 0 (marksFrom (.code false) (byteChars sql)) := by
  have ascii : ∀ c, .name c ∈ marksFrom (.code false) sql.toList → c.toNat < 128 :=
    fun c hc => toNat_of_word (word_of_mem_marksFrom hc)
  have code : (ScanMode.code false).Ascii := trivial
  rw [byteChars_eq, marksFrom_bytes code, markPlaces_bytes ascii]
  rfl

/-! ## The grammar of templates -/

namespace Template

/-- The placeholders of a template with the bytes at which they begin. -/
def places (t : Template) : List (Nat × String) := placesOf Char.utf8Size 0 t.segments

/-- The bytes of a text have one list of regions, and a placeholder is reported at a
byte exactly when one begins there by `IsPlaceholder`.  None begins in a pair of
colons.  The reports are in the order of their bytes, and the names of the template
are the reported ones without later duplicates. -/
theorem placeholders_of_parse (sql : String) :
    ∃ regions, (∀ others, OpaqueFrom (byteChars sql) 0 others ↔ others = regions) ∧
      (∀ place name, (place, name) ∈ (parse sql).places ↔
        IsPlaceholder (byteChars sql) regions place name) ∧
      (∀ place, (byteChars sql)[place]? = some ':' → (byteChars sql)[place + 1]? = some ':' →
        ∀ name, (place, name) ∉ (parse sql).places ∧ (place + 1, name) ∉ (parse sql).places) ∧
      (parse sql).places.Pairwise (fun a b => a.1 < b.1) ∧
      (parse sql).names = ((parse sql).places.map Prod.snd).eraseDups := by
  obtain ⟨regions, found⟩ : ∃ regions, Finds (byteChars sql) 0 regions (parse sql).places := by
    rw [places, parse, placesOf_segmentsOf]
    exact finds_marksFrom [] (byteChars sql) (.inr rfl)
  have reported (place : Nat) (name : String) : (place, name) ∈ (parse sql).places ↔
      IsPlaceholder (byteChars sql) regions place name :=
    (found.mem_iff place name).trans (and_iff_right (Nat.zero_le place))
  have only (others : List (Nat × Nat)) : OpaqueFrom (byteChars sql) 0 others ↔ others = regions :=
    ⟨fun h => h.unique found.opaqueFrom, fun h => h ▸ found.opaqueFrom⟩
  refine ⟨regions, only, reported, fun place first second name => ⟨fun h => ?_, fun h => ?_⟩,
    (pairwise_placesOf _ _ _).1, ?_⟩
  · obtain ⟨c, next, begins⟩ := ((reported place name).mp h).begins
    cases next.symm.trans second
    cases begins
  · cases ((reported (place + 1) name).mp h).free place ':' rfl first
  · rw [names, distinct_eq_eraseDups, places, map_snd_placesOf, occurrences]

example : (parse "é :y").places = [(3, "y")] := by decide

end Template

end DataMapper
