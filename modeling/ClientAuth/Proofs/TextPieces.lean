import Mathlib.Data.List.TakeWhile
import ClientAuth.Text.Blank
import ClientAuth.Text.Pieces

/-! Texts read back from their pieces: what is joined by a separator is split into the same
pieces, and what stands behind the last occurrence of a character is found there. -/
namespace ClientAuth.Text

variable {separator : Char} {piece rest : List Char}

theorem splitOn_eq_single (h : separator ∉ piece) : splitOn separator piece = [piece] := by
  induction piece with
  | nil => rfl
  | cons c piece ih =>
      rw [List.mem_cons, not_or] at h
      rw [splitOn, if_neg (Ne.symm h.1), ih h.2]

theorem splitOn_append (h : separator ∉ piece) (rest : List Char) :
    splitOn separator (piece ++ separator :: rest) = piece :: splitOn separator rest := by
  induction piece with
  | nil => rw [List.nil_append, splitOn, if_pos rfl]
  | cons c piece ih =>
      rw [List.mem_cons, not_or] at h
      rw [List.cons_append, splitOn, if_neg (Ne.symm h.1), ih h.2]

/-- Pieces that are joined by a separator are the pieces around it. -/
theorem splitOn_joinWith {pieces : List (List Char)} (hSome : pieces ≠ [])
    (h : ∀ piece ∈ pieces, separator ∉ piece) :
    splitOn separator (joinWith separator pieces) = pieces := by
  induction pieces with
  | nil => exact absurd rfl hSome
  | cons piece pieces ih =>
      have hPiece := h piece List.mem_cons_self
      cases pieces with
      | nil => exact splitOn_eq_single hPiece
      | cons next pieces =>
          rw [joinWith, splitOn_append hPiece,
            ih (List.cons_ne_nil next pieces) fun other hMem => h other (.tail piece hMem)]
          simp

theorem mem_joinWith {pieces : List (List Char)} {c : Char} (h : c ∈ joinWith separator pieces) :
    c = separator ∨ ∃ piece ∈ pieces, c ∈ piece := by
  induction pieces with
  | nil => cases h
  | cons piece pieces ih =>
      cases pieces with
      | nil => exact Or.inr ⟨piece, List.mem_cons_self, h⟩
      | cons next pieces =>
          rw [joinWith, List.mem_append, List.mem_cons] at h
          · rcases h with hFirst | hSame | hRest
            · exact Or.inr ⟨piece, List.mem_cons_self, hFirst⟩
            · exact Or.inl hSame
            · rcases ih hRest with hSame | ⟨other, hMem, hIn⟩
              · exact Or.inl hSame
              · exact Or.inr ⟨other, .tail piece hMem, hIn⟩
          · simp

theorem toList_intercalate_single (separator : Char) (texts : List String) :
    ((String.singleton separator).intercalate texts).toList =
      joinWith separator (texts.map String.toList) := by
  induction texts with
  | nil => rfl
  | cons text texts ih =>
      cases texts with
      | nil => simp [joinWith]
      | cons next texts =>
          rw [String.intercalate_cons_cons, String.toList_append, ih]
          simp [joinWith]

/-- Texts around a separator that none of them holds are told by the whole. -/
theorem intercalate_inj (separator : Char) {texts others : List String} (hTexts : texts ≠ [])
    (hOthers : others ≠ []) (hPlain : ∀ text ∈ texts, separator ∉ text.toList)
    (hOtherPlain : ∀ text ∈ others, separator ∉ text.toList)
    (h : (String.singleton separator).intercalate texts =
      (String.singleton separator).intercalate others) : texts = others := by
  have hSplit {texts : List String} (hSome : texts ≠ [])
      (hPlain : ∀ text ∈ texts, separator ∉ text.toList) :
      splitOn separator ((String.singleton separator).intercalate texts).toList =
        texts.map String.toList := by
    rw [toList_intercalate_single]
    refine splitOn_joinWith (mt List.map_eq_nil_iff.mp hSome) fun piece hMem => ?_
    obtain ⟨text, hText, rfl⟩ := List.mem_map.mp hMem
    exact hPlain text hText
  have hPieces := (hSplit hTexts hPlain).symm.trans (h ▸ hSplit hOthers hOtherPlain)
  exact (List.map_inj_right fun _ _ => String.toList_inj.mp).mp hPieces

theorem splitLast_append (front : List Char) (h : separator ∉ rest) :
    splitLast separator (front ++ separator :: rest) = (front, rest) := by
  have hBack : (front ++ separator :: rest).reverse =
      rest.reverse ++ separator :: front.reverse := by
    simp
  have hOther : ∀ c ∈ rest.reverse, decide (c ≠ separator) = true := by
    intro c hMem
    refine decide_eq_true fun hSame => h ?_
    rwa [← hSame, ← List.mem_reverse]
  rw [splitLast, if_pos (by simp), hBack]
  dsimp only
  rw [List.dropWhile_append_of_pos hOther, List.takeWhile_append_of_pos hOther]
  simp

/-- What is left behind the characters before the first mark starts with that one. -/
theorem dropWhile_mark {mark : Char} {chars : List Char}
    (h : chars.dropWhile (· ≠ mark) ≠ []) :
    chars.dropWhile (· ≠ mark) = mark :: (chars.dropWhile (· ≠ mark)).drop 1 := by
  have hMark := List.dropWhile_get_zero_not (· ≠ mark) chars (List.length_pos_iff.mpr h)
  generalize chars.dropWhile (· ≠ mark) = behind at h hMark ⊢
  cases behind with
  | nil => exact absurd rfl h
  | cons first rest =>
      obtain rfl : first = mark := by simpa using hMark
      rfl

/-- No mark is before the first one. -/
theorem mark_notMem_takeWhile (mark : Char) (chars : List Char) :
    mark ∉ chars.takeWhile (· ≠ mark) := by
  intro hMem
  have hPlain := List.mem_takeWhile_imp hMem
  exact absurd rfl (of_decide_eq_true hPlain)

/-- A text that holds nothing of a class stays as it is. -/
theorem trim_eq_self {drop : Char → Bool} {text : List Char} (h : ∀ c ∈ text, drop c = false) :
    trim drop text = text := by
  have hKept {part : List Char} (hPart : ∀ c ∈ part, drop c = false) :
      part.dropWhile drop = part := by
    cases part with
    | nil => rfl
    | cons c part => exact List.dropWhile_cons_of_neg (by simp [hPart c List.mem_cons_self])
  rw [trim, hKept h, hKept fun c hMem => h c (List.mem_reverse.mp hMem), List.reverse_reverse]

end ClientAuth.Text
