import DataMapper.Proofs.Template.Scan
import Mathlib.Data.List.Basic
import Mathlib.Data.List.TakeWhile

/-!
# The placeholders of a text

`IsPlaceholder` says where a placeholder begins and what its name is, by the characters
around a place and the regions of the text.  It does not say how placeholders are found.

`Finds` says that a list of places and names holds exactly the placeholders from a
place on.  The list is made from the end of the text to its beginning, as a scan goes
on: nothing is found in a region (`Finds.opened`) or at any other character
(`Finds.plain`), and a placeholder is found before what is found after its name
(`Finds.name`).  `finds_marksFrom` is the induction over these three steps.
-/

namespace DataMapper

/-- Whether a placeholder of a name begins at a place of a text whose regions are
given: the place is outside the regions and has a sigil, no word character or sigil
is before it, and the name is the longest run of word characters after it and
begins with one that is no digit. -/
structure IsPlaceholder (text : List Char) (regions : List (Nat × Nat)) (place : Nat)
    (name : String) : Prop where
  outside : ∀ region ∈ regions, place < region.1 ∨ region.2 ≤ place
  sigil : ∃ c, text[place]? = some c ∧ isSigil c = true
  free : ∀ earlier c, place = earlier + 1 → text[earlier]? = some c → blocksPlaceholder c = false
  begins : ∃ c, text[place + 1]? = some c ∧ Text.isAsciiWordStart c = true
  run : name.toList = (text.drop (place + 1)).takeWhile Text.isAsciiWord

/-- Whether the last of some characters lets no placeholder begin after it. -/
def lastBlocks (cs : List Char) : Bool := cs.getLast?.any blocksPlaceholder

theorem lastBlocks_append_singleton (cs : List Char) (c : Char) :
    lastBlocks (cs ++ [c]) = blocksPlaceholder c := by
  rw [lastBlocks, List.getLast?_concat, Option.any_some]

/-- The character before a place is the last of those before. -/
theorem forall_getElem?_iff {p : Char → Bool} (before rest : List Char) :
    (∀ earlier c, before.length = earlier + 1 → (before ++ rest)[earlier]? = some c →
      p c = false) ↔ before.getLast?.any p = false := by
  rcases List.eq_nil_or_concat' before with rfl | ⟨init, last, rfl⟩
  · refine ⟨fun _ => rfl, fun _ earlier c h => ?_⟩
    cases h
  · rw [List.getLast?_concat, Option.any_some]
    have there : (init ++ [last] ++ rest)[init.length]? = some last := by simp
    constructor
    · intro h
      exact h init.length last (by simp) there
    · intro h earlier c count found
      have same : earlier = init.length := by simpa using count.symm
      rw [same, there] at found
      cases found
      exact h

theorem getElem?_length_add_one (before rest : List Char) (c : Char) :
    (before ++ c :: rest)[before.length + 1]? = rest.head? := by
  have after : (before ++ c :: rest).drop (before.length + 1) = rest := by simp
  rw [← List.head?_drop, after]

/-- A placeholder at a character, told by what is before it and what is after it. -/
theorem isPlaceholder_iff {before rest : List Char} {c : Char} {regions : List (Nat × Nat)}
    {name : String} :
    IsPlaceholder (before ++ c :: rest) regions before.length name ↔
      (∀ region ∈ regions, before.length < region.1 ∨ region.2 ≤ before.length) ∧
        isSigil c = true ∧ lastBlocks before = false ∧
        rest.head?.any Text.isAsciiWordStart = true ∧
        name.toList = rest.takeWhile Text.isAsciiWord := by
  have here : (before ++ c :: rest)[before.length]? = some c := by simp
  have after : (before ++ c :: rest).drop (before.length + 1) = rest := by simp
  have next : (before ++ c :: rest)[before.length + 1]? = rest.head? :=
    getElem?_length_add_one before rest c
  constructor
  · rintro ⟨outside, ⟨d, hd, sigil⟩, free, ⟨first, hfirst, begins⟩, run⟩
    rw [here] at hd
    cases hd
    rw [next] at hfirst
    rw [after] at run
    refine ⟨outside, sigil, (forall_getElem?_iff before _).mp free, ?_, run⟩
    rw [hfirst]
    exact begins
  · rintro ⟨outside, sigil, free, begins, run⟩
    obtain ⟨first, hfirst, begins⟩ := (Option.any_eq_true _ _).mp begins
    exact ⟨outside, ⟨c, here, sigil⟩, (forall_getElem?_iff before _).mpr free,
      ⟨first, next.trans hfirst, begins⟩, by rw [after]; exact run⟩

/-- A character after which no placeholder can begin opens no region. -/
theorem RegionKind.not_opens_of_blocksPlaceholder (kind : RegionKind) {text : List Char}
    {place : Nat} {c : Char} (here : text[place]? = some c) (blocks : blocksPlaceholder c = true) :
    ¬ kind.Opens text place := by
  rintro ⟨after, h⟩
  rw [← List.head?_drop, ← h] at here
  cases kind <;> cases here <;> cases blocks

theorem blocksPlaceholder_of_sigil {c : Char} (sigil : isSigil c = true) :
    blocksPlaceholder c = true := by
  rw [blocksPlaceholder, sigil, Bool.or_true]

theorem blocksPlaceholder_of_word {c : Char} (word : Text.isAsciiWord c = true) :
    blocksPlaceholder c = true := by
  rw [blocksPlaceholder, word, Bool.true_or]

/-- A word character is no sigil. -/
theorem isSigil_of_word {c : Char} (word : Text.isAsciiWord c = true) : isSigil c = false := by
  rw [Bool.eq_false_iff]
  intro sigil
  simp only [isSigil, Bool.or_eq_true, beq_iff_eq] at sigil
  rcases sigil with ((rfl | rfl) | rfl) | rfl <;> cases word

/-! ## What is found from a place on -/

/-- Whether some places and names are the placeholders of a text from a place on, its
regions from there on being given. -/
structure Finds (text : List Char) (start : Nat) (regions : List (Nat × Nat))
    (places : List (Nat × String)) : Prop where
  opaqueFrom : OpaqueFrom text start regions
  mem_iff : ∀ place name,
    (place, name) ∈ places ↔ start ≤ place ∧ IsPlaceholder text regions place name

namespace Finds

variable {text : List Char} {start : Nat} {regions : List (Nat × Nat)}
  {places : List (Nat × String)}

/-- Nothing is found at the end. -/
theorem nil (text : List Char) : Finds text text.length [] [] := by
  refine ⟨.nil text, fun place name => ⟨nofun, ?_⟩⟩
  rintro ⟨late, found⟩
  obtain ⟨c, hc, -⟩ := found.sigil
  rw [List.getElem?_eq_none late] at hc
  cases hc

/-- Nothing is found in a region. -/
theorem region {kind : RegionKind} {finish : Nat} (opened : kind.IsRegion text start finish)
    (h : Finds text finish regions places) :
    Finds text start ((start, finish) :: regions) places := by
  refine ⟨h.opaqueFrom.region opened, fun place name => (h.mem_iff place name).trans ?_⟩
  have longer := opened.lt
  constructor
  · rintro ⟨late, found⟩
    refine ⟨by omega, { found with outside := ?_ }⟩
    exact List.forall_mem_cons.mpr ⟨.inr late, found.outside⟩
  · rintro ⟨late, found⟩
    obtain ⟨first, later⟩ := List.forall_mem_cons.mp found.outside
    refine ⟨?_, { found with outside := later }⟩
    rcases first with early | past
    · exact absurd early (Nat.not_lt.mpr late)
    · exact past

/-- Nothing is found at a character that begins neither a region nor a placeholder. -/
theorem plain (none : ∀ kind : RegionKind, ¬ kind.Opens text start)
    (other : ∀ name, ¬ IsPlaceholder text regions start name)
    (h : Finds text (start + 1) regions places) : Finds text start regions places := by
  refine ⟨h.opaqueFrom.plain none, fun place name => (h.mem_iff place name).trans ?_⟩
  constructor
  · rintro ⟨late, found⟩
    exact ⟨Nat.le_of_succ_le late, found⟩
  · rintro ⟨late, found⟩
    refine ⟨Nat.lt_of_le_of_ne late ?_, found⟩
    rintro rfl
    exact other name found

/-- Nothing is found at word characters. -/
theorem words {count : Nat}
    (word : ∀ k < count, ∃ c, text[start + k]? = some c ∧ Text.isAsciiWord c = true)
    (h : Finds text (start + count) regions places) : Finds text start regions places := by
  induction count with
  | zero => exact h
  | succ count ih =>
      obtain ⟨c, here, isWord⟩ := word count (Nat.lt_succ_self count)
      refine ih (fun k small => word k (Nat.lt_succ_of_lt small)) (h.plain ?_ ?_)
      · intro kind
        exact kind.not_opens_of_blocksPlaceholder here (blocksPlaceholder_of_word isWord)
      · rintro name ⟨-, ⟨d, same, sigil⟩, -, -, -⟩
        cases here.symm.trans same
        rw [isSigil_of_word isWord] at sigil
        cases sigil

/-- A placeholder at the first place is found. -/
theorem cons {name : String} (placed : IsPlaceholder text regions start name)
    (h : Finds text (start + 1) regions places)
    (none : ∀ kind : RegionKind, ¬ kind.Opens text start) :
    Finds text start regions ((start, name) :: places) := by
  refine ⟨h.opaqueFrom.plain none, fun place other => ?_⟩
  rw [List.mem_cons, h.mem_iff, Prod.mk.injEq]
  constructor
  · rintro (⟨rfl, rfl⟩ | ⟨late, found⟩)
    · exact ⟨Nat.le_refl _, placed⟩
    · exact ⟨by omega, found⟩
  · rintro ⟨late, found⟩
    rcases Nat.eq_or_lt_of_le late with rfl | later
    · exact .inl ⟨rfl, String.toList_injective (found.run.trans placed.run.symm)⟩
    · exact .inr ⟨later, found⟩

end Finds

/-! ## What a scan finds -/

/-- The mark that stands in a text behind some characters. -/
theorem RegionKind.opens_append {kind : RegionKind} {before rest : List Char} :
    kind.Opens (before ++ rest) before.length ↔ kind.opening <+: rest := by
  rw [Opens, List.drop_left]

/-- Characters that all block end with one that does. -/
theorem lastBlocks_append {before cs : List Char} (some : cs ≠ [])
    (all : ∀ c ∈ cs, blocksPlaceholder c = true) : lastBlocks (before ++ cs) = true := by
  rcases List.eq_nil_or_concat' cs with rfl | ⟨init, last, rfl⟩
  · exact absurd rfl some
  · rw [← List.append_assoc, lastBlocks_append_singleton]
    exact all last (by simp)

/-- A sigil and the name after it block. -/
theorem lastBlocks_name (before rest : List Char) {c : Char} (sigil : isSigil c = true) :
    lastBlocks (before ++ c :: rest.takeWhile Text.isAsciiWord) = true := by
  refine lastBlocks_append nofun (List.forall_mem_cons.mpr ⟨?_, fun d hd => ?_⟩)
  · exact blocksPlaceholder_of_sigil sigil
  · exact blocksPlaceholder_of_word (List.mem_takeWhile_imp hd)

/-- A placeholder is found before what is found after its name. -/
theorem Finds.name {before rest : List Char} {c : Char} {regions : List (Nat × Nat)}
    {places : List (Nat × String)} (sigil : isSigil c = true) (free : lastBlocks before = false)
    (start : rest.head?.any Text.isAsciiWordStart = true)
    (h : Finds (before ++ c :: rest)
      (before.length + 1 + (rest.takeWhile Text.isAsciiWord).length) regions places) :
    Finds (before ++ c :: rest) before.length regions
      ((before.length, String.ofList (rest.takeWhile Text.isAsciiWord)) :: places) := by
  have outside : ∀ region ∈ regions, before.length < region.1 ∨ region.2 ≤ before.length := by
    intro region hregion
    have := h.opaqueFrom.after region hregion
    omega
  have placed := isPlaceholder_iff.mpr ⟨outside, sigil, free, start, String.toList_ofList⟩
  refine .cons placed (h.words fun k small => ?_) fun kind =>
    kind.not_opens_of_blocksPlaceholder ?_ (blocksPlaceholder_of_sigil sigil)
  · refine ⟨(rest.takeWhile Text.isAsciiWord)[k], ?_, ?_⟩
    · have split : before ++ c :: rest = (before ++ [c])
          ++ (rest.takeWhile Text.isAsciiWord ++ rest.dropWhile Text.isAsciiWord) := by
        rw [List.takeWhile_append_dropWhile, List.append_assoc, List.singleton_append]
      have shift : before.length + 1 + k = (before ++ [c]).length + k := by
        rw [List.length_append, List.length_singleton]
      rw [shift, split, List.getElem?_append_right (Nat.le_add_right ..), Nat.add_sub_cancel_left,
        List.getElem?_append_left small, List.getElem?_eq_getElem small]
    · exact List.mem_takeWhile_imp (List.getElem_mem small)
  · simp

/-- An opening mark and what is up to the end of the first closing mark are a region. -/
theorem RegionKind.isRegion_append (kind : RegionKind) {front rest : List Char}
    (ends : EndsAt kind.closing (front ++ rest) front.length) (before : List Char) :
    kind.IsRegion (before ++ (kind.opening ++ (front ++ rest))) before.length
      (before.length + (kind.opening.length + front.length)) := by
  refine ⟨opens_append.mpr ⟨front ++ rest, rfl⟩, front.length, ?_, (Nat.add_assoc ..).symm⟩
  rw [← List.append_assoc, ← List.length_append, List.drop_left]
  exact ends

/-- Nothing is found in a region that is opened at a place. -/
theorem Finds.opened {kind : RegionKind} {before front rest : List Char}
    {regions : List (Nat × Nat)} {places : List (Nat × String)}
    (ends : EndsAt kind.closing (front ++ rest) front.length)
    (h : Finds (before ++ (kind.opening ++ (front ++ rest)))
      (before.length + (kind.opening.length + front.length)) regions places) :
    Finds (before ++ (kind.opening ++ (front ++ rest))) before.length
      ((before.length, before.length + (kind.opening.length + front.length)) :: regions)
      places :=
  h.region (kind.isRegion_append ends before)

/-- What is before the first character after a region lets a placeholder begin. -/
theorem lastBlocks_region {kind : RegionKind} {front : List Char} {c : Char}
    (hfront : front.getLast? = some c) (hclosing : kind.closing.getLast? = some c)
    (before : List Char) : lastBlocks (before ++ (kind.opening ++ front)) = false := by
  rw [← List.append_assoc, lastBlocks, List.getLast?_append, hfront]
  exact kind.blocksPlaceholder_of_closing hclosing

/-- A scan outside all regions finds the placeholders from its place on.  It goes on
behind a region, behind a name or behind one character, and knows at each of them
whether the character before it blocks. -/
theorem finds_marksFrom (before cs : List Char) {blocked : Bool}
    (known : cs = [] ∨ lastBlocks before = blocked) :
    ∃ regions, Finds (before ++ cs) before.length regions
      (markPlaces (fun _ => 1) before.length (marksFrom (.code blocked) cs)) := by
  -- The scan goes on with fewer characters in each case, so the recursion is on their number.
  by_cases opens : ∃ kind : RegionKind, kind.opening <+: cs
  · obtain ⟨kind, after, rfl⟩ := opens
    obtain ⟨front, rest, rfl, ends, marks, last⟩ := kind.scansTo after
    -- What is left is empty, or the region was closed by a mark that does not block.
    have closed : rest = [] ∨ lastBlocks (before ++ (kind.opening ++ front)) = false :=
      last.imp_right fun ⟨_, hfront, hclosing⟩ => lastBlocks_region hfront hclosing before
    obtain ⟨regions, found⟩ := finds_marksFrom (before ++ (kind.opening ++ front)) rest closed
    simp only [List.append_assoc, List.length_append] at found
    refine ⟨(before.length, before.length + (kind.opening.length + front.length)) :: regions, ?_⟩
    rw [kind.marksFrom_opening, marks, markPlaces_texts, markPlaces_texts, widthOf_one,
      widthOf_one, Nat.add_assoc]
    exact found.opened ends
  · have none (kind : RegionKind) : ¬ kind.opening <+: cs := fun h => opens ⟨kind, h⟩
    cases cs with
    | nil =>
        refine ⟨[], ?_⟩
        rw [List.append_nil]
        exact Finds.nil before
    | cons c rest =>
        have here (kind : RegionKind) : ¬ kind.Opens (before ++ c :: rest) before.length :=
          fun h => none kind (RegionKind.opens_append.mp h)
        have last : lastBlocks before = blocked := known.resolve_left nofun
        rw [marksFrom, ScanMode.step, ScanMode.stepCode_of_plain none]
        by_cases begins : isSigil c ∧ blocked = false ∧ rest.head?.any Text.isAsciiWordStart
        · rw [if_pos begins, marksFrom_name, markPlaces_sigil, markPlaces_names, piecesOf_names,
            piecesOf_marksFrom_code, List.append_nil, widthOf_one]
          obtain ⟨sigil, rfl, start⟩ := begins
          obtain ⟨regions, found⟩ :=
            finds_marksFrom (before ++ c :: rest.takeWhile Text.isAsciiWord)
              (rest.dropWhile Text.isAsciiWord) (.inr (lastBlocks_name before rest sigil))
          rw [List.append_assoc, List.cons_append, List.takeWhile_append_dropWhile,
            List.length_append, List.length_cons, ← Nat.add_assoc, Nat.add_right_comm] at found
          exact ⟨regions, found.name sigil last start⟩
        · rw [if_neg begins, markPlaces_text]
          obtain ⟨regions, found⟩ := finds_marksFrom (before ++ [c]) rest
            (.inr (lastBlocks_append_singleton before c))
          rw [List.append_assoc, List.length_append] at found
          refine ⟨regions, found.plain here fun name placed => begins ?_⟩
          obtain ⟨-, sigil, free, start, -⟩ := isPlaceholder_iff.mp placed
          exact ⟨sigil, last.symm.trans free, start⟩
termination_by cs.length
decreasing_by
  all_goals subst_vars
  · have := kind.opening_length_pos
    simp only [List.length_append]
    omega
  · exact Nat.lt_succ_of_le (List.length_dropWhile_le ..)
  · exact Nat.lt_succ_self _

/-! ## The names of a text -/

/-- Every text has regions. -/
theorem exists_opaqueFrom (text : List Char) : ∃ regions, OpaqueFrom text 0 regions := by
  obtain ⟨regions, found⟩ := finds_marksFrom [] text (.inr rfl)
  exact ⟨regions, found.opaqueFrom⟩

/-- The names of a template are those of the placeholders of its text. -/
theorem Template.mem_names_iff {text : String} {regions : List (Nat × Nat)}
    (opaqueFrom : OpaqueFrom text.toList 0 regions) {name : String} :
    name ∈ (parse text).names ↔ ∃ place, IsPlaceholder text.toList regions place name := by
  obtain ⟨found, h⟩ : ∃ regions, Finds text.toList 0 regions
      (placesOf (fun _ => 1) 0 (parse text).segments) :=
    finds_marksFrom [] text.toList (.inr rfl)
  rw [opaqueFrom.unique h.opaqueFrom, names, mem_distinct, occurrences,
    ← map_snd_placesOf (fun _ => 1) 0, List.mem_map]
  constructor
  · rintro ⟨⟨place, _⟩, hplace, rfl⟩
    exact ⟨place, ((h.mem_iff _ _).mp hplace).2⟩
  · rintro ⟨place, placed⟩
    exact ⟨(place, name), (h.mem_iff _ _).mpr ⟨Nat.zero_le place, placed⟩, rfl⟩

end DataMapper
