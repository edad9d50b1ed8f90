import DocQuery.Text.Split
import Mathlib.Data.List.Basic

/-! Pieces of a text.

A cut takes from the front of a text a piece that is free of what it looks for, and finds nothing
in a text that is free of it (`Finds`). So only the piece that is left after the last cut allowed
can have it. Joined by the separator, the pieces are the text again.

Splitting at blanks leaves out empty pieces. A limit counts cuts, though, and every blank takes
one: of a text with more blanks than that, the last piece is all that comes after so many blanks
(`splitBlank_of_lt`), be it words or blanks. -/
namespace DocQuery.Text

/-! ### Cuts -/

/-- The cut is made at the first place where a text has something, and goes on behind it. -/
structure Finds (cut : List Char → Option (List Char × List Char)) (Has : List Char → Prop) :
    Prop where
  shortens : ∀ {text before after}, cut text = some (before, after) → after.length < text.length
  before : ∀ {text before after}, cut text = some (before, after) → ¬ Has before
  nowhere : ∀ {text}, cut text = none → ¬ Has text

section Pieces
variable {cut : List Char → Option (List Char × List Char)} {Has : List Char → Prop}
  {limit limit' : Nat} {text piece : List Char} {i : Nat}

theorem pieces_ne_nil : pieces cut limit text ≠ [] := by
  unfold pieces
  split
  · exact List.cons_ne_nil _ _
  · split <;> exact List.cons_ne_nil _ _

theorem length_pieces_le : (pieces cut limit text).length ≤ limit + 1 := by
  induction limit generalizing text with
  | zero => exact Nat.le_refl 1
  | succ limit ih =>
    unfold pieces
    split
    · exact Nat.succ_le_succ ih
    · exact Nat.succ_le_succ (Nat.zero_le _)

namespace Finds

theorem cut_nil (h : Finds cut Has) : cut [] = none := by
  cases hcut : cut [] with
  | none => rfl
  | some found => exact absurd (h.shortens hcut) (Nat.not_lt_zero _)

theorem pieces_nil (h : Finds cut Has) : pieces cut limit [] = [[]] := by
  cases limit with
  | zero => rfl
  | succ limit => rw [pieces, h.cut_nil]

/-- A limit is none if it is not below the number of characters. -/
theorem pieces_eq_pieces (h : Finds cut Has) (hlimit : text.length ≤ limit)
    (hlimit' : text.length ≤ limit') : pieces cut limit text = pieces cut limit' text := by
  induction limit generalizing text limit' with
  | zero =>
    obtain rfl : text = [] := List.length_eq_zero_iff.mp (Nat.le_zero.mp hlimit)
    rw [h.pieces_nil, h.pieces_nil]
  | succ limit ih =>
    cases limit' with
    | zero =>
      obtain rfl : text = [] := List.length_eq_zero_iff.mp (Nat.le_zero.mp hlimit')
      rw [h.pieces_nil, h.pieces_nil]
    | succ limit' =>
      rw [pieces, pieces]
      cases hcut : cut text with
      | none => rfl
      | some found =>
        have hshorter := h.shortens hcut
        exact congrArg (found.1 :: ·) (ih (by omega) (by omega))

/-- Only what is left after as many cuts as are allowed can have what the cuts look for. -/
theorem eq_limit_of_has (h : Finds cut Has) (hpiece : (pieces cut limit text)[i]? = some piece)
    (hhas : Has piece) : i = limit := by
  induction limit generalizing text i with
  | zero =>
    have hlt : i < 1 := (List.getElem?_eq_some_iff.mp hpiece).1
    omega
  | succ limit ih =>
    rw [pieces] at hpiece
    cases hcut : cut text with
    | none =>
      rw [hcut] at hpiece
      obtain ⟨rfl, rfl⟩ : i = 0 ∧ text = piece := by
        cases i with
        | zero => exact ⟨rfl, Option.some.inj hpiece⟩
        | succ i => cases hpiece
      exact absurd hhas (h.nowhere hcut)
    | some found =>
      rw [hcut] at hpiece
      cases i with
      | zero =>
        cases hpiece
        exact absurd hhas (h.before hcut)
      | succ i => exact congrArg Nat.succ (ih hpiece)

/-- Without a limit no piece has it. -/
theorem not_has_of_length_le (h : Finds cut Has) (hlimit : text.length ≤ limit)
    (hpiece : piece ∈ pieces cut limit text) : ¬ Has piece := by
  induction limit generalizing text with
  | zero =>
    obtain rfl : text = [] := List.length_eq_zero_iff.mp (Nat.le_zero.mp hlimit)
    rw [h.pieces_nil, List.mem_singleton] at hpiece
    subst hpiece
    exact h.nowhere h.cut_nil
  | succ limit ih =>
    rw [pieces] at hpiece
    cases hcut : cut text with
    | none =>
      rw [hcut, List.mem_singleton] at hpiece
      subst hpiece
      exact h.nowhere hcut
    | some found =>
      rw [hcut] at hpiece
      have hshorter := h.shortens hcut
      rcases List.mem_cons.mp hpiece with rfl | hpiece
      · exact h.before hcut
      · exact ih (by omega) hpiece

end Finds

end Pieces

/-! ### Separators -/

section Separators
variable {separator start text before after piece : List Char} {i : Nat}

theorem afterStart?_eq_some_iff : afterStart? start text = some after ↔ text = start ++ after := by
  induction start generalizing text with
  | nil => exact Option.some_inj
  | cons a start ih =>
    cases text with
    | nil => exact ⟨nofun, nofun⟩
    | cons b text =>
      unfold afterStart?
      split
      · next hab =>
        subst hab
        rw [ih, List.cons_append, List.cons_inj_right]
      · next hab => exact ⟨nofun, fun heq => absurd (List.cons.inj heq).1.symm hab⟩

theorem afterStart?_eq_none_iff : afterStart? start text = none ↔ ¬ start <+: text := by
  rw [← Option.not_isSome_iff_eq_none, Option.isSome_iff_exists]
  exact not_congr (exists_congr fun after => afterStart?_eq_some_iff.trans eq_comm)

/-- The text is put together again of what is before and after the separator. -/
theorem eq_of_cut (h : cut separator text = some (before, after)) :
    text = before ++ separator ++ after := by
  induction text generalizing before with
  | nil => cases h
  | cons c rest ih =>
    rw [cut] at h
    split at h
    · next hstart =>
      cases h
      exact afterStart?_eq_some_iff.mp hstart
    · obtain ⟨⟨found, _⟩, hcut, heq⟩ := Option.map_eq_some_iff.mp h
      cases heq
      exact congrArg (c :: ·) (ih hcut)

theorem not_infix_of_cut_eq_none (hseparator : separator ≠ []) (h : cut separator text = none) :
    ¬ separator <:+: text := by
  induction text with
  | nil => exact fun hfound => hseparator (List.infix_nil.mp hfound)
  | cons c rest ih =>
    rw [cut] at h
    split at h
    · cases h
    · next hstart =>
      have hrest := ih (Option.map_eq_none_iff.mp h)
      rw [List.infix_cons_iff, not_or]
      exact ⟨afterStart?_eq_none_iff.mp hstart, hrest⟩

/-- The cut is made at the first separator. -/
theorem not_infix_of_cut (hseparator : separator ≠ [])
    (h : cut separator text = some (before, after)) : ¬ separator <:+: before := by
  induction text generalizing before with
  | nil => cases h
  | cons c rest ih =>
    rw [cut] at h
    split at h
    · cases h
      exact fun hfound => hseparator (List.infix_nil.mp hfound)
    · next hstart =>
      obtain ⟨⟨found, _⟩, hcut, heq⟩ := Option.map_eq_some_iff.mp h
      cases heq
      rw [List.infix_cons_iff, not_or]
      refine ⟨fun hat => afterStart?_eq_none_iff.mp hstart (hat.trans ?_), ih hcut⟩
      rw [eq_of_cut hcut, List.append_assoc, ← List.cons_append]
      exact List.prefix_append _ _

theorem finds_cut (hseparator : separator ≠ []) :
    Finds (cut separator) (separator <:+: ·) where
  shortens h := by
    have hpos : 0 < separator.length := List.length_pos_iff.mpr hseparator
    rw [eq_of_cut h, List.length_append, List.length_append]
    omega
  before h := not_infix_of_cut hseparator h
  nowhere h := not_infix_of_cut_eq_none hseparator h

theorem intercalate_pieces (limit : Nat) (text : List Char) :
    separator.intercalate (pieces (cut separator) limit text) = text := by
  induction limit generalizing text with
  | zero => exact List.intercalate_singleton
  | succ limit ih =>
    rw [pieces]
    cases hcut : cut separator text with
    | none => exact List.intercalate_singleton
    | some found =>
      show separator.intercalate (found.1 :: pieces (cut separator) limit found.2) = text
      rw [List.intercalate_cons_of_ne_nil pieces_ne_nil, ih]
      exact (eq_of_cut hcut).symm

theorem flatten_characters (limit : Nat) (text : List Char) :
    (characters limit text).flatten = text := by
  unfold characters
  rw [List.flatten_append, ← List.flatMap_def, List.flatMap_singleton']
  split
  · rw [List.flatten_singleton, List.take_append_drop]
  · next hlimit =>
    rw [List.take_of_length_le (Nat.not_lt.mp hlimit), List.flatten_nil, List.append_nil]

theorem intercalate_empty (pieces : List (List Char)) :
    ([] : List Char).intercalate pieces = pieces.flatten := by
  induction pieces with
  | nil => rfl
  | cons piece rest ih =>
    cases rest with
    | nil => rw [List.intercalate_singleton, List.flatten_singleton]
    | cons next rest =>
      rw [List.intercalate_cons_cons, List.append_nil, ih]
      exact List.flatten_cons.symm

theorem length_characters_le (limit : Nat) (text : List Char) :
    (characters limit text).length ≤ limit + 1 := by
  unfold characters
  rw [List.length_append, List.length_map, List.length_take]
  split
  · rw [List.length_singleton]
    omega
  · rw [List.length_nil]
    omega

theorem characters_of_length_le {limit : Nat} (hlimit : text.length ≤ limit) :
    characters limit text = text.map ([·]) := by
  unfold characters
  rw [List.take_of_length_le hlimit, if_neg (Nat.not_lt.mpr hlimit), List.append_nil]

/-! ### Splitting at a separator -/

theorem intercalate_splitAt (separator : List Char) (limit : Option Nat) (text : List Char) :
    separator.intercalate (splitAt separator limit text) = text := by
  unfold splitAt
  dsimp only
  split
  · next hempty =>
    rw [List.isEmpty_iff.mp hempty, intercalate_empty, flatten_characters]
  · exact intercalate_pieces _ text

theorem length_splitAt_le (separator : List Char) (limit : Nat) (text : List Char) :
    (splitAt separator (some limit) text).length ≤ limit + 1 := by
  unfold splitAt
  dsimp only
  split
  · exact length_characters_le limit text
  · exact length_pieces_le

/-- A piece that has the separator is what is left after the last cut. -/
theorem last_of_separator (hseparator : separator ≠ []) {limit : Option Nat}
    (hpiece : (splitAt separator limit text)[i]? = some piece) (hfound : separator <:+: piece) :
    limit = some i ∧ (splitAt separator limit text).length = i + 1 := by
  have hfinds := finds_cut hseparator
  have hsplit : splitAt separator limit text =
      pieces (cut separator) (limit.getD text.length) text :=
    if_neg fun hempty => hseparator (List.isEmpty_iff.mp hempty)
  rw [hsplit] at hpiece ⊢
  cases limit with
  | none =>
    have hmem := List.mem_of_getElem? hpiece
    exact absurd hfound (hfinds.not_has_of_length_le (Nat.le_refl _) hmem)
  | some limit =>
    obtain rfl : i = limit := hfinds.eq_limit_of_has hpiece hfound
    refine ⟨rfl, Nat.le_antisymm length_pieces_le ?_⟩
    exact (List.getElem?_eq_some_iff.mp hpiece).1

end Separators

/-! ### Splitting at blanks -/

/-- The text up to and with its `count`-th blank, and what comes after it. -/
def spanBlanks : (count : Nat) → List Char → List Char × List Char
  | 0, text => ([], text)
  | _ + 1, [] => ([], [])
  | count + 1, c :: rest =>
    let (front, rest) := spanBlanks (if isBlank c then count else count + 1) rest
    (c :: front, rest)

/-- The words of a text, which are what stands between its blanks. -/
def words (text : List Char) : List (List Char) := splitBlank none text

section Blanks
variable {text before after word : List Char} {b : Char} {n limit : Nat}

theorem exists_of_cutBlank (h : cutBlank text = some (before, after)) :
    ∃ b, isBlank b ∧ (∀ c ∈ before, ¬ isBlank c) ∧ text = before ++ b :: after := by
  induction text generalizing before with
  | nil => cases h
  | cons c rest ih =>
    rw [cutBlank] at h
    split at h
    · next hblank =>
      cases h
      exact ⟨c, hblank, nofun, rfl⟩
    · next hc =>
      obtain ⟨⟨found, _⟩, hcut, heq⟩ := Option.map_eq_some_iff.mp h
      cases heq
      obtain ⟨b, hblank, hbefore, rfl⟩ := ih hcut
      exact ⟨b, hblank, List.forall_mem_cons.mpr ⟨hc, hbefore⟩, rfl⟩

theorem not_blank_of_cutBlank (h : cutBlank text = none) : ∀ c ∈ text, ¬ isBlank c := by
  induction text with
  | nil => nofun
  | cons c rest ih =>
    rw [cutBlank] at h
    split at h
    · cases h
    · next hc => exact List.forall_mem_cons.mpr ⟨hc, ih (Option.map_eq_none_iff.mp h)⟩

theorem cutBlank_append (hbefore : ∀ c ∈ before, ¬ isBlank c) (hb : isBlank b) :
    cutBlank (before ++ b :: after) = some (before, after) := by
  induction before with
  | nil => exact if_pos hb
  | cons c before ih =>
    obtain ⟨hc, hbefore⟩ := List.forall_mem_cons.mp hbefore
    rw [List.cons_append, cutBlank, if_neg hc, ih hbefore]
    rfl

theorem cutBlank_of_not_blank (h : ∀ c ∈ text, ¬ isBlank c) : cutBlank text = none := by
  cases hcut : cutBlank text with
  | none => rfl
  | some found =>
    obtain ⟨b, hb, -, rfl⟩ := exists_of_cutBlank hcut
    exact absurd hb (h b (List.mem_append_right _ List.mem_cons_self))

theorem finds_cutBlank : Finds cutBlank fun text => ∃ c ∈ text, isBlank c where
  shortens h := by
    obtain ⟨b, -, -, rfl⟩ := exists_of_cutBlank h
    rw [List.length_append, List.length_cons]
    omega
  before h := by
    obtain ⟨-, -, hbefore, -⟩ := exists_of_cutBlank h
    exact fun ⟨c, hc, hblank⟩ => hbefore c hc hblank
  nowhere h := fun ⟨c, hc, hblank⟩ => not_blank_of_cutBlank h c hc hblank

/-- A text is taken blank by blank. -/
theorem blankInduction {motive : List Char → Prop}
    (last : ∀ text, (∀ c ∈ text, ¬ isBlank c) → motive text)
    (blank : ∀ before b after, (∀ c ∈ before, ¬ isBlank c) → isBlank b → motive after →
      motive (before ++ b :: after)) (text : List Char) : motive text := by
  induction hlength : text.length using Nat.strongRecOn generalizing text with
  | ind length ih =>
    cases hcut : cutBlank text with
    | none => exact last text (not_blank_of_cutBlank hcut)
    | some found =>
      obtain ⟨b, hb, hbefore, heq⟩ := exists_of_cutBlank hcut
      have hshorter := finds_cutBlank.shortens hcut
      rw [heq]
      exact blank found.1 b found.2 hbefore hb (ih _ (hlength ▸ hshorter) found.2 rfl)

theorem countP_eq_zero (h : ∀ c ∈ text, ¬ isBlank c) : text.countP isBlank = 0 :=
  List.countP_eq_zero.mpr h

theorem countP_append (hbefore : ∀ c ∈ before, ¬ isBlank c) (hb : isBlank b) :
    (before ++ b :: after).countP isBlank = after.countP isBlank + 1 := by
  rw [List.countP_append, countP_eq_zero hbefore, List.countP_cons_of_pos hb, Nat.zero_add]

/-- Blanks that a text has are counted off one by one. -/
theorem countInduction {motive : ∀ n text, n ≤ List.countP isBlank text → Prop}
    (zero : ∀ text, motive 0 text (Nat.zero_le _))
    (succ : ∀ n before b after (hbefore : ∀ c ∈ before, ¬ isBlank c) (hb : isBlank b)
      (h : n ≤ List.countP isBlank after), motive n after h →
        motive (n + 1) (before ++ b :: after) (countP_append hbefore hb ▸ Nat.succ_le_succ h))
    (n : Nat) (text : List Char) (h : n ≤ List.countP isBlank text) : motive n text h := by
  induction text using blankInduction generalizing n with
  | last text hfree =>
    obtain rfl : n = 0 := Nat.le_zero.mp (countP_eq_zero hfree ▸ h)
    exact zero text
  | blank before b after hbefore hb ih =>
    cases n with
    | zero => exact zero _
    | succ n =>
      have hafter : n + 1 ≤ after.countP isBlank + 1 := countP_append hbefore hb ▸ h
      have hafter := Nat.le_of_succ_le_succ hafter
      exact succ n before b after hbefore hb hafter (ih n hafter)

theorem spanBlanks_zero : spanBlanks 0 text = ([], text) := by
  cases text <;> rfl

theorem spanBlanks_append_blank (hbefore : ∀ c ∈ before, ¬ isBlank c) (hb : isBlank b) :
    spanBlanks (n + 1) (before ++ b :: after) =
      (before ++ b :: (spanBlanks n after).1, (spanBlanks n after).2) := by
  induction before with
  | nil => rw [List.nil_append, spanBlanks, if_pos hb]; rfl
  | cons c before ih =>
    obtain ⟨hc, hbefore⟩ := List.forall_mem_cons.mp hbefore
    rw [List.cons_append, spanBlanks, if_neg hc, ih hbefore]
    rfl

theorem append_spanBlanks (n : Nat) (text : List Char) :
    (spanBlanks n text).1 ++ (spanBlanks n text).2 = text := by
  induction text generalizing n with
  | nil => cases n <;> rfl
  | cons c rest ih =>
    cases n with
    | zero => rw [spanBlanks_zero, List.nil_append]
    | succ n =>
      rw [spanBlanks]
      exact congrArg (c :: ·) (ih _)

theorem countP_spanBlanks (h : n ≤ text.countP isBlank) :
    (spanBlanks n text).1.countP isBlank = n := by
  induction n, text, h using countInduction with
  | zero text =>
    rw [spanBlanks_zero]
    rfl
  | succ n before b after hbefore hb _ ih =>
    rw [spanBlanks_append_blank hbefore hb, countP_append hbefore hb, ih]

/-- What comes before the first blank is a piece, unless it is empty. -/
theorem splitBlank_append (hbefore : ∀ c ∈ before, ¬ isBlank c) (hb : isBlank b) :
    splitBlank (some (n + 1)) (before ++ b :: after) =
      [before].filter (fun piece => !piece.isEmpty) ++ splitBlank (some n) after := by
  show List.filter _ (pieces cutBlank (n + 1) (before ++ b :: after)) = _
  rw [pieces, cutBlank_append hbefore hb]
  exact List.filter_append [before] (pieces cutBlank n after)

theorem splitBlank_of_not_blank (h : ∀ c ∈ text, ¬ isBlank c) :
    splitBlank (some n) text = [text].filter fun piece => !piece.isEmpty := by
  cases n with
  | zero => rfl
  | succ n =>
    show List.filter _ (pieces cutBlank (n + 1) text) = _
    rw [pieces, cutBlank_of_not_blank h]

/-- Where every blank may be cut, no limit is felt. -/
theorem splitBlank_of_length_le (hlimit : text.length ≤ n) :
    splitBlank (some n) text = words text :=
  congrArg (List.filter _) (finds_cutBlank.pieces_eq_pieces hlimit (Nat.le_refl _))

/-- A limit that no text so long can reach is none. -/
theorem split_of_length_le (separator : Option (List Char)) (hlimit : text.length ≤ n) :
    split separator (some n) text = split separator none text := by
  cases separator with
  | none => exact splitBlank_of_length_le hlimit
  | some separator =>
    show splitAt separator (some n) text = splitAt separator none text
    unfold splitAt
    dsimp only
    split
    · show characters n text = characters text.length text
      rw [characters_of_length_le hlimit, characters_of_length_le (Nat.le_refl _)]
    · next hne =>
      have hseparator : separator ≠ [] := fun hempty => hne (List.isEmpty_iff.mpr hempty)
      exact (finds_cut hseparator).pieces_eq_pieces hlimit (Nat.le_refl _)

theorem words_of_not_blank (h : ∀ c ∈ text, ¬ isBlank c) :
    words text = [text].filter fun piece => !piece.isEmpty :=
  (splitBlank_of_length_le (Nat.le_refl _)).symm.trans (splitBlank_of_not_blank h)

theorem words_append (hbefore : ∀ c ∈ before, ¬ isBlank c) (hb : isBlank b) :
    words (before ++ b :: after) =
      [before].filter (fun piece => !piece.isEmpty) ++ words after := by
  have hlength : after.length ≤ before.length + after.length := Nat.le_add_left _ _
  rw [← splitBlank_of_length_le hlength, ← splitBlank_append hbefore hb]
  refine (splitBlank_of_length_le (Nat.le_of_eq ?_)).symm
  rw [List.length_append, List.length_cons, Nat.add_assoc]

theorem not_blank_of_mem_words (h : word ∈ words text) : ∀ c ∈ word, ¬ isBlank c := by
  have hmem := (List.mem_filter.mp h).1
  have hfree := finds_cutBlank.not_has_of_length_le (Nat.le_refl _) hmem
  exact fun c hc hblank => hfree ⟨c, hc, hblank⟩

/-- A limit that the blanks do not exceed makes no difference. -/
theorem splitBlank_of_countP_le (h : text.countP isBlank ≤ n) :
    splitBlank (some n) text = words text := by
  induction text using blankInduction generalizing n with
  | last text hfree => rw [splitBlank_of_not_blank hfree, words_of_not_blank hfree]
  | blank before b after hbefore hb ih =>
    rw [countP_append hbefore hb] at h
    cases n with
    | zero => exact absurd h (Nat.not_succ_le_zero _)
    | succ n =>
      rw [splitBlank_append hbefore hb, words_append hbefore hb, ih (Nat.le_of_succ_le_succ h)]

/-- Of a text with more blanks than cuts, what comes after the last cut stays as it is. -/
theorem splitBlank_of_lt_countP (h : n < text.countP isBlank) :
    splitBlank (some n) text = words (spanBlanks n text).1 ++ [(spanBlanks n text).2] := by
  induction text using blankInduction generalizing n with
  | last text hfree => exact absurd (countP_eq_zero hfree ▸ h) (Nat.not_lt_zero _)
  | blank before b after hbefore hb ih =>
    cases n with
    | zero =>
      have hne : (!(before ++ b :: after).isEmpty) = true := by cases before <;> rfl
      rw [spanBlanks_zero]
      exact List.filter_cons_of_pos (p := fun piece : List Char => !piece.isEmpty) hne
    | succ n =>
      rw [countP_append hbefore hb] at h
      rw [splitBlank_append hbefore hb, spanBlanks_append_blank hbefore hb,
        words_append hbefore hb, ih (Nat.lt_of_succ_lt_succ h), List.append_assoc]

theorem words_spanBlanks (h : n ≤ text.countP isBlank) :
    words text = words (spanBlanks n text).1 ++ words (spanBlanks n text).2 := by
  induction n, text, h using countInduction with
  | zero text =>
    rw [spanBlanks_zero]
    rfl
  | succ n before b after hbefore hb _ ih =>
    rw [spanBlanks_append_blank hbefore hb, words_append hbefore hb, words_append hbefore hb, ih,
      List.append_assoc]

/-- No blank ends more than one word. -/
theorem length_words_spanBlanks_le (h : n ≤ text.countP isBlank) :
    (words (spanBlanks n text).1).length ≤ n := by
  induction n, text, h using countInduction with
  | zero text =>
    rw [spanBlanks_zero]
    exact Nat.le_refl 0
  | succ n before b after hbefore hb _ ih =>
    have hfirst := List.length_filter_le (fun piece => !piece.isEmpty) [before]
    rw [spanBlanks_append_blank hbefore hb, words_append hbefore hb, List.length_append]
    rw [List.length_singleton] at hfirst
    omega

theorem exists_blank_spanBlanks (h : n < text.countP isBlank) :
    ∃ c ∈ (spanBlanks n text).2, isBlank c := by
  have hcount := congrArg (List.countP isBlank) (append_spanBlanks n text)
  rw [List.countP_append, countP_spanBlanks (Nat.le_of_lt h)] at hcount
  exact List.countP_pos_iff.mp (by omega)

theorem splitBlank_ne_words (h : n < text.countP isBlank) :
    splitBlank (some n) text ≠ words text := by
  intro heq
  obtain ⟨c, hc, hblank⟩ := exists_blank_spanBlanks h
  have hmem : (spanBlanks n text).2 ∈ words text := by
    rw [← heq, splitBlank_of_lt_countP h]
    exact List.mem_append_right _ List.mem_cons_self
  exact not_blank_of_mem_words hmem c hc hblank

/-- The cut text starts with the words of the uncut one, as far as it is cut. -/
def StartsLike {α : Type} (limit : Nat) (limited all : List α) : Prop :=
  (∀ i < limit, i < all.length → limited[i]? = all[i]?) ∧ (all.length ≤ limit → limited = all)

theorem startsLike_map_iff {α β : Type} {f : α → β} (hf : Function.Injective f)
    {limited all : List α} :
    StartsLike n (limited.map f) (all.map f) ↔ StartsLike n limited all := by
  unfold StartsLike
  simp only [List.length_map, List.getElem?_map, (Option.map_injective hf).eq_iff,
    (List.map_injective_iff.mpr hf).eq_iff]

/-- A limited split starts like the unlimited one if the limit is not reached, or if each blank up
to the limit ends a word and there are words after them. -/
theorem startsLike_iff :
    StartsLike n (splitBlank (some n) text) (words text) ↔
      text.countP isBlank ≤ n ∨
        (words (spanBlanks n text).1).length = n ∧ words (spanBlanks n text).2 ≠ [] := by
  obtain hle | hlt := Nat.lt_or_ge n (text.countP isBlank) |>.symm
  · rw [splitBlank_of_countP_le hle]
    exact ⟨fun _ => .inl hle, fun _ => ⟨fun _ _ _ => rfl, fun _ => rfl⟩⟩
  have hwords := words_spanBlanks (Nat.le_of_lt hlt)
  have hlength := length_words_spanBlanks_le (Nat.le_of_lt hlt)
  have hne := splitBlank_ne_words hlt
  have hlonger : StartsLike n (splitBlank (some n) text) (words text) → n < (words text).length :=
    fun hlike => Nat.lt_of_not_le fun hle => hne (hlike.2 hle)
  rw [splitBlank_of_lt_countP hlt] at hne hlonger ⊢
  generalize hfront : words (spanBlanks n text).1 = front at *
  constructor
  · intro hlike
    have hall := hlonger hlike
    refine .inr ⟨Nat.le_antisymm hlength (Nat.le_of_not_lt fun hshort => ?_), fun hrest => ?_⟩
    · -- what is left has a blank, but stands where a word should be
      have hpiece := hlike.1 front.length hshort (Nat.lt_trans hshort hall)
      rw [List.getElem?_concat_length] at hpiece
      obtain ⟨c, hc, hblank⟩ := exists_blank_spanBlanks hlt
      exact not_blank_of_mem_words (List.mem_of_getElem? hpiece.symm) c hc hblank
    · rw [hwords, hrest, List.append_nil] at hall
      omega
  · rintro (hle | ⟨hfull, hrest⟩)
    · exact absurd hle (Nat.not_le_of_lt hlt)
    have hpos := List.length_pos_iff.mpr hrest
    rw [hwords]
    refine ⟨fun i hi _ => ?_, fun hle => ?_⟩
    · rw [List.getElem?_append_left (hfull ▸ hi), List.getElem?_append_left (hfull ▸ hi)]
    · rw [List.length_append] at hle
      omega

end Blanks

end DocQuery.Text
