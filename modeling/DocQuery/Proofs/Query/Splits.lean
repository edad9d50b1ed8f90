import DocQuery.Proofs.Query.Slices
import DocQuery.Proofs.Text.Split

/-! Splits.

A split at a separator loses nothing: joined by the separator, the pieces are the text
(`Query.run_split`). A split at blanks gives the words of the text. A limit of it counts blanks and
not words, so it gives the first words of the text only where each blank up to the limit ends a word
(`Query.run_split_words`). -/
namespace DocQuery
open Position

/-- The operands of a split. Without a separator, `null` stands for it if a limit follows. -/
def splitData : (separator? : Option String) → (limit? : Option Number) → List Json
  | none, none => []
  | none, some limit => [.null, .number limit]
  | some separator, limit? => .string separator :: (limit?.map Json.number).toList

/-- The pieces of a split. -/
def splitPieces (separator? : Option String) (limit? : Option Nat) (text : String) : List String :=
  (Text.split (separator?.map String.toList) limit? text.toList).map String.ofList

/-- The number of cuts that a split is limited to, as it is written and what it is. -/
def IsLimit (text : String) : Option Number → Option Nat → Prop :=
  Option.Rel fun limit n => limit.IsIndex text.toList.length n

/-- A limit that is read comes to the same pieces as the limit that is written. -/
theorem splitPieces_of_readAs {text : String} {n : Nat} {i : Int} (hread : ReadAs n i)
    (hn : Readable n text.toList.length) (separator? : Option String) :
    splitPieces separator? (some i.toNat) text = splitPieces separator? (some n) text := by
  unfold ReadAs at hread
  unfold Readable at hn
  by_cases heq : i = n
  · rw [heq, Int.toNat_natCast]
  have hlimit : text.toList.length ≤ i.toNat := by omega
  have hlimit' : text.toList.length ≤ n := by omega
  unfold splitPieces
  rw [Text.split_of_length_le _ hlimit, Text.split_of_length_le _ hlimit']

/-! ### Calls -/

namespace Call
variable {text : String} {limit? : Option Number} {n? : Option Nat}

theorem dispatch_split (hlimit : IsLimit text limit? n?) (separator? : Option String)
    (first : Argument) :
    dispatch ⟨.split, first :: (splitData separator? limit?).map .ofValue, []⟩
        (.value (.string text)) =
      pure (.value (.array ((splitPieces separator? n? text).map .string))) := by
  show (Call.split _ (.string text) >>= fun value => pure (Datum.value value) : Run Datum) = _
  have harray : ∀ n?, Json.array ((splitPieces separator? n? text).map .string) =
      .array ((Text.split (separator?.map String.toList) n? text.toList).map fun piece =>
        .string (String.ofList piece)) := fun n? => congrArg Json.array List.map_map
  cases hlimit with
  | none =>
    rw [harray]
    cases separator? <;> rfl
  | @some limit n hlimit =>
    obtain ⟨i, hi, hread⟩ := hlimit.1.exists_asInteger
    rw [← splitPieces_of_readAs hread hlimit.2, harray]
    have hinteger : (Argument.ofValue (.number limit)).integer = pure i := by
      show (liftM (Json.number limit).asInteger : Run Int) = _
      rw [hi]
      rfl
    cases separator? with
    | none | some _ =>
      show ((fun i : Int => some i.toNat) <$> (Argument.ofValue (.number limit)).integer >>= _) >>=
        _ = _
      rw [hinteger]
      rfl

end Call

/-! ### Queries -/

/-- The term of a split of what another term means. -/
def splitTerm (source : Json) (separator? : Option String) (limit? : Option Number) : Json :=
  methodTerm .split source ((splitData separator? limit?).map datumTerm) none

namespace Query
variable {settings : Settings} {source : Json} {context : Run.Context} {state after : Run.State}
  {text : String}

theorem Yields.run_splitTerm {limit? : Option Number} {n? : Option Nat}
    (hsource : Yields settings source context state (.ok (.string text)) after)
    (hlimit : IsLimit text limit? n?) (separator? : Option String) :
    run ⟨splitTerm source separator? limit?, settings⟩ context state =
      (.ok (.array ((splitPieces separator? n? text).map .string)), after) := by
  have hcount :
      Operation.split.descriptor.accepts ((splitData separator? limit?).length + 1) = true := by
    cases separator? <;> cases limit? <;> rfl
  have hsplit : Yields settings (splitTerm source separator? limit?) context state
      (Except.ok (Json.string text) >>= fun _ =>
        .ok (.array ((splitPieces separator? n? text).map .string))) after := by
    refine Yields.method rfl hcount (.inr rfl) hsource (fun found hfound => ?_)
      fun first found hfound => ?_
    · cases hfound
      rfl
    · cases hfound
      exact Call.dispatch_split hlimit separator? first
  exact hsplit.run_eq

/-- The pieces between separators are joined to the text by the separator. There is at most one
piece more than the limit has cuts, and that one alone, what is left after the last cut, can have
the separator in it. -/
theorem run_split {limit? : Option Number} {n? : Option Nat}
    (hsource : Yields settings source context state (.ok (.string text)) after)
    (hlimit : IsLimit text limit? n?) (separator : String) :
    ∃ pieces : List String,
      run ⟨splitTerm source (some separator) limit?, settings⟩ context state =
        (.ok (.array (pieces.map .string)), after) ∧
      separator.intercalate pieces = text ∧
      (∀ n, n? = some n → pieces.length ≤ n + 1) ∧
      (separator ≠ "" → ∀ i piece, pieces[i]? = some piece → piece.contains separator = true →
        n? = some i ∧ pieces.length = i + 1) := by
  refine ⟨_, hsource.run_splitTerm hlimit (some separator), ?_, ?_, ?_⟩
  · have hjoin := Text.intercalate_splitAt separator.toList n? text.toList
    rw [← String.toList_inj, String.toList_intercalate, splitPieces, List.map_map]
    have hid : String.toList ∘ String.ofList = id := funext fun chars => String.toList_ofList
    rw [hid, List.map_id]
    exact hjoin
  · rintro n rfl
    rw [splitPieces, List.length_map]
    exact Text.length_splitAt_le separator.toList n text.toList
  · intro hne i piece hpiece hcontains
    have hseparator : separator.toList ≠ [] := fun h => hne (String.toList_inj.mp h)
    rw [splitPieces, List.getElem?_map] at hpiece
    obtain ⟨chars, hchars, rfl⟩ := Option.map_eq_some_iff.mp hpiece
    rw [String.contains_string_iff, String.toList_ofList] at hcontains
    rw [splitPieces, List.length_map]
    exact Text.last_of_separator hseparator hchars hcontains

/-- Of separators that overlap, the first one is cut out, and the last piece keeps what a limit
leaves. -/
theorem run_split_overlapping :
    let context : Run.Context := ⟨⟨0, 0, 0⟩, fun _ => 0⟩
    let state : Run.State := ⟨.empty, 0⟩
    ∃ pieces : List String,
      run ⟨splitTerm (datumTerm (.string "äaaaaa")) (some "aa") (some (.integer 1)), {}⟩ context
        state = (.ok (.array (pieces.map .string)), state) ∧
      "aa".intercalate pieces = "äaaaaa" ∧ pieces.length ≤ 2 := by
  intro context state
  have hsource := Yields.datum {} (.string "äaaaaa") context state
  have hlimit : IsLimit "äaaaaa" (some (.integer 1)) (some 1) :=
    .some ⟨rfl, .inl (by decide)⟩
  obtain ⟨pieces, hrun, hjoin, hlength, -⟩ := run_split hsource hlimit "aa"
  exact ⟨pieces, hrun, hjoin, hlength 1 rfl⟩

/-- A text as what its characters spell. -/
def spelled (chars : List Char) : Json := .string (String.ofList chars)

theorem spelled_injective : Function.Injective spelled :=
  fun _ _ h => String.ofList_injective (Json.string.inj h)

/-- A split without a separator gives the words of the text. With a limit, each blank uses up a cut,
whether it ends a word or not, and what comes after the last cut is one piece as it stands. So the
limited split starts like the other one if no cut is missing, or if each cut ends a word and there
are words after the last one. -/
theorem run_split_words {limit : Number} {n : Nat}
    (hsource : Yields settings source context state (.ok (.string text)) after)
    (hlimit : limit.IsIndex text.toList.length n) :
    let blanks := text.toList.countP Text.isBlank
    let (front, rest) := Text.spanBlanks n text.toList
    ∃ all limited : List Json,
      run ⟨splitTerm source none none, settings⟩ context state = (.ok (.array all), after) ∧
      run ⟨splitTerm source none (some limit), settings⟩ context state =
        (.ok (.array limited), after) ∧
      all = (Text.words text.toList).map spelled ∧
      front ++ rest = text.toList ∧
      (n ≤ blanks → front.countP Text.isBlank = n) ∧
      (blanks ≤ n → limited = all) ∧
      (n < blanks → limited = (Text.words front ++ [rest]).map spelled) ∧
      (Text.StartsLike n limited all ↔
        blanks ≤ n ∨ (Text.words front).length = n ∧ Text.words rest ≠ []) := by
  dsimp only
  have hall := hsource.run_splitTerm .none none
  have hlimited := hsource.run_splitTerm (.some hlimit) none
  rw [splitPieces, List.map_map] at hall hlimited
  refine ⟨_, _, hall, hlimited, rfl, Text.append_spanBlanks n text.toList,
    Text.countP_spanBlanks, fun hle => ?_, fun hlt => ?_, ?_⟩
  · exact congrArg (List.map spelled) (Text.splitBlank_of_countP_le hle)
  · exact congrArg (List.map spelled) (Text.splitBlank_of_lt_countP hlt)
  · exact (Text.startsLike_map_iff spelled_injective).trans Text.startsLike_iff

/-- Each of the first two blanks ends a word, and there is a third one. -/
theorem run_split_words_two :
    let source := datumTerm (.string "ä b c  d")
    let context : Run.Context := ⟨⟨0, 0, 0⟩, fun _ => 0⟩
    let state : Run.State := ⟨.empty, 0⟩
    ∃ all limited : List Json,
      run ⟨splitTerm source none none, {}⟩ context state = (.ok (.array all), state) ∧
      run ⟨splitTerm source none (some (.integer 2)), {}⟩ context state =
        (.ok (.array limited), state) ∧
      limited = [.string "ä", .string "b", .string "c  d"] ∧
      Text.StartsLike 2 limited all := by
  intro source context state
  have hsource := Yields.datum {} (.string "ä b c  d") context state
  have hlimit : Number.IsIndex "ä b c  d".toList.length (.integer 2) (2 : Nat) :=
    ⟨rfl, .inl (by decide)⟩
  obtain ⟨all, limited, hall, hlimited, -, -, -, -, hcut, hlike⟩ := run_split_words hsource hlimit
  refine ⟨all, limited, hall, hlimited, (hcut (by decide +kernel)).trans ?_, hlike.mpr (.inr ?_)⟩
  · decide +kernel
  · decide +kernel

/-- A blank before the first word uses up the only cut, so the word is left with a blank before
it. -/
theorem run_split_words_blank_first :
    let source := datumTerm (.string "  a")
    let context : Run.Context := ⟨⟨0, 0, 0⟩, fun _ => 0⟩
    let state : Run.State := ⟨.empty, 0⟩
    run ⟨splitTerm source none none, {}⟩ context state = (.ok (.array [.string "a"]), state) ∧
      run ⟨splitTerm source none (some (.integer 1)), {}⟩ context state =
        (.ok (.array [.string " a"]), state) ∧
      ¬ Text.StartsLike 1 [Json.string " a"] [.string "a"] := by
  intro source context state
  have hsource := Yields.datum {} (.string "  a") context state
  have hlimit : IsLimit "  a" (some (.integer 1)) (some 1) := .some ⟨rfl, .inl (by decide)⟩
  refine ⟨?_, ?_, fun hlike => ?_⟩
  · refine (hsource.run_splitTerm .none none).trans ?_
    exact congrArg (fun value : Json => (Except.ok value, state)) (by decide +kernel)
  · refine (hsource.run_splitTerm hlimit none).trans ?_
    exact congrArg (fun value : Json => (Except.ok value, state)) (by decide +kernel)
  · exact absurd (hlike.2 (Nat.le_refl 1)) (by decide)

end Query

end DocQuery
