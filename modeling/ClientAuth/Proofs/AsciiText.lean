import ClientAuth.Api.Percent
import ClientAuth.Hex
import ClientAuth.Proofs.PlainText
import ClientAuth.Sorting
import ClientAuth.Text.Pieces

/-! ASCII kept. What is taken out of a text in ASCII, put together of such texts or encoded by
hexadecimal digits is in ASCII again, and ASCII behind a text adds no half to it. -/
namespace ClientAuth

namespace Text

/-- Texts in ASCII around separators in ASCII. -/
theorem isAscii_intercalate {separator : String} (hSeparator : IsAscii separator)
    {texts : List String} (h : ∀ text ∈ texts, IsAscii text) :
    IsAscii (separator.intercalate texts) := by
  induction texts with
  | nil => exact nofun
  | cons text texts ih =>
      cases texts with
      | nil => simpa using h text List.mem_cons_self
      | cons next texts =>
          rw [String.intercalate_cons_cons]
          have hRest := ih fun other hMem => h other (List.mem_cons_of_mem _ hMem)
          exact ((h text List.mem_cons_self).append hSeparator).append hRest

theorem IsAscii.of_append {first second : String} (h : IsAscii (first ++ second)) :
    IsAscii first ∧ IsAscii second := by
  constructor
  · intro c hMem
    exact h c (by simp [hMem])
  · intro c hMem
    exact h c (by simp [hMem])

theorem IsAscii.of_intercalate {separator : String} {texts : List String}
    (h : IsAscii (separator.intercalate texts)) : ∀ text ∈ texts, IsAscii text := by
  induction texts with
  | nil => exact nofun
  | cons first texts ih =>
      intro text hMem
      cases texts with
      | nil =>
          obtain rfl := List.mem_singleton.mp hMem
          simpa using h
      | cons next texts =>
          rw [String.intercalate_cons_cons] at h
          rcases List.mem_cons.mp hMem with rfl | hRest
          · exact h.of_append.1.of_append.1
          · exact ih h.of_append.2 text hRest

/-- What is made of characters of a text. -/
theorem IsAscii.ofList_subset {text : String} (h : IsAscii text) {part : List Char}
    (hPart : ∀ c ∈ part, c ∈ text.toList) : IsAscii (String.ofList part) :=
  isAscii_ofList fun c hMem => h c (hPart c hMem)

theorem mem_of_mem_splitOn {separator c : Char} {text piece : List Char}
    (hPiece : piece ∈ splitOn separator text) (hMem : c ∈ piece) : c ∈ text := by
  have hJoin (pieces : List (List Char)) (hPiece : piece ∈ pieces) :
      c ∈ joinWith separator pieces := by
    induction pieces with
    | nil => nomatch hPiece
    | cons first pieces ih =>
        cases pieces with
        | nil =>
            obtain rfl := List.mem_singleton.mp hPiece
            exact hMem
        | cons next pieces =>
            rw [joinWith, List.mem_append]
            · rcases List.mem_cons.mp hPiece with rfl | hRest
              · exact Or.inl hMem
              · exact Or.inr (List.mem_cons_of_mem _ (ih hRest))
            · simp
  rw [← joinWith_splitOn separator text]
  exact hJoin _ hPiece

theorem mem_of_mem_trim {drop : Char → Bool} {c : Char} {text : List Char}
    (h : c ∈ trim drop text) : c ∈ text := by
  have hDrop {part : List Char} (hMem : c ∈ part.dropWhile drop) : c ∈ part :=
    (List.dropWhile_sublist drop).subset hMem
  rw [trim, List.mem_reverse] at h
  exact hDrop (List.mem_reverse.mp (hDrop h))

theorem mem_of_mem_wordsBy {drop : Char → Bool} {c : Char} {text word : List Char}
    (hWord : word ∈ wordsBy drop text) (hMem : c ∈ word) : c ∈ text := by
  induction text generalizing word with
  | nil => nomatch hWord
  | cons first rest ih =>
      have hAlone {word : List Char} (hWord : word = [first]) (hMem : c ∈ word) :
          c ∈ first :: rest := by
        rw [hWord, List.mem_singleton] at hMem
        exact List.mem_cons.mpr (Or.inl hMem)
      rw [wordsBy.eq_def] at hWord
      dsimp only at hWord
      split at hWord
      · exact List.mem_cons_of_mem _ (ih hWord hMem)
      split at hWord
      · exact hAlone (List.mem_singleton.mp hWord) hMem
      split at hWord
      · rcases List.mem_cons.mp hWord with hFirst | hLater
        · exact hAlone hFirst hMem
        · exact List.mem_cons_of_mem _ (ih hLater hMem)
      split at hWord
      · exact hAlone (List.mem_singleton.mp hWord) hMem
      next later more hLater =>
        rw [hLater] at ih
        rcases List.mem_cons.mp hWord with rfl | hMore
        · rcases List.mem_cons.mp hMem with hSame | hMem
          · exact List.mem_cons.mpr (Or.inl hSame)
          · exact List.mem_cons_of_mem _ (ih List.mem_cons_self hMem)
        · exact List.mem_cons_of_mem _ (ih (List.mem_cons_of_mem _ hMore) hMem)

/-- ASCII behind a text adds no half. -/
theorem any_isHalf_append (front : List Char) {rest : List Char} (h : ∀ c ∈ rest, c.toNat < 128) :
    (codes (front ++ rest)).any isHalf = (codes front).any isHalf := by
  have hRest {text : List Char} (hText : ∀ c ∈ text, c.toNat < 128) :
      (codes text).any isHalf = false := by
    have hWhole := isWhole_of_isAscii (isAscii_ofList hText)
    rwa [isWhole, String.toList_ofList, Bool.not_eq_true'] at hWhole
  induction front using codes.induct with
  | case1 => exact hRest h
  | case2 d =>
      by_cases hMark : d = mark
      · -- A mark without a partner takes the character behind it, which makes no half of it.
        cases rest with
        | nil => rfl
        | cons c rest =>
            have hFirst := h c List.mem_cons_self
            have hCode : c.toNat - shift = 0 := by
              simp only [shift]
              omega
            have hOther : c ≠ mark := by
              rintro rfl
              exact absurd hFirst (by decide)
            have hTail := hRest fun e hMem => h e (List.mem_cons_of_mem _ hMem)
            simp only [List.cons_append, List.nil_append, codes, hMark, if_true, if_neg hOther,
              hCode, List.any_cons, hTail]
            decide
      · rw [List.cons_append, List.nil_append, codes_cons hMark, List.any_cons, hRest h]
        rfl
  | case3 d front ih =>
      simp only [List.cons_append, codes, if_true, List.any_cons, ih]
  | case4 d e front hMark ih =>
      simp only [List.cons_append, codes_cons hMark, List.any_cons] at ih ⊢
      rw [ih]

theorem isWhole_append {first second : String} (hFirst : isWhole first = true)
    (hSecond : IsAscii second) : isWhole (first ++ second) = true := by
  rw [isWhole, Bool.not_eq_true'] at hFirst ⊢
  rw [String.toList_append, any_isHalf_append _ hSecond, hFirst]

end Text

theorem Percent.toNat_lt_of_isUnreserved {c : Char} (h : isUnreserved c = true) :
    c.toNat < 128 := by
  have hBound {last : Char} (hLast : last.toNat < 128) (hMem : c ≤ last) : c.toNat < 128 :=
    Nat.lt_of_le_of_lt (UInt32.le_iff_toNat_le.mp hMem) hLast
  simp only [isUnreserved, Bool.or_eq_true, Bool.and_eq_true, decide_eq_true_eq, List.mem_cons,
    List.not_mem_nil, or_false] at h
  rcases h with ((⟨-, h⟩ | ⟨-, h⟩) | ⟨-, h⟩) | rfl | rfl | rfl | rfl
  · exact hBound (by decide) h
  · exact hBound (by decide) h
  · exact hBound (by decide) h
  all_goals decide

/-- Percent-encoding leaves nothing beyond ASCII. -/
theorem Percent.isAscii_encode {isSafe : Char → Bool} (h : ∀ c, isSafe c = true → c.toNat < 128)
    (text : List Char) : Text.IsAscii (String.ofList (encode isSafe text)) := by
  have hDigit (value : Nat) (hValue : value < 16) : (upperDigit value).toNat < 128 := by
    revert value
    decide
  apply Text.isAscii_ofList
  intro c hMem
  obtain ⟨d, -, hMem⟩ := List.mem_flatMap.mp hMem
  split at hMem
  next hSafe =>
    obtain rfl := List.mem_singleton.mp hMem
    exact h c hSafe
  next =>
    obtain ⟨byte, -, hMem⟩ := List.mem_flatMap.mp hMem
    have hByte : byte.toNat < 256 := byte.toNat_lt
    simp only [encodeByte, List.mem_cons, List.not_mem_nil, or_false] at hMem
    rcases hMem with rfl | rfl | rfl
    · decide
    · exact hDigit _ (by omega)
    · exact hDigit _ (by omega)

theorem Hex.isAscii_encode (bytes : Bytes) : Text.IsAscii (encode bytes) := by
  have hDigit (value : Nat) (hValue : value < 16) : (digit value).toNat < 128 := by
    revert value
    decide
  apply Text.isAscii_ofList
  intro c hMem
  obtain ⟨byte, -, hMem⟩ := List.mem_flatMap.mp hMem
  have hByte : byte.toNat < 256 := byte.toNat_lt
  simp only [List.mem_cons, List.not_mem_nil, or_false] at hMem
  rcases hMem with rfl | rfl
  · exact hDigit _ (by omega)
  · exact hDigit _ (by omega)

end ClientAuth
