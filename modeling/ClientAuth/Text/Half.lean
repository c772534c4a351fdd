/-! Texts that may hold halves of surrogate pairs. A half without its partner is
no character of Unicode, but an escape or a lenient encoding can spell one. In a
`String` a half is spelled by a mark, the last character before the surrogates,
and a character for private use; the mark itself is spelled twice, and every
other character once. So the order of spelled texts is that of their code
points. Main statement: the code points of a text are read back from its
spelling. -/
namespace ClientAuth.Text

/-- The distance from a surrogate to the code point of the character that spells
it, which is the number of surrogates. -/
def shift : Nat := 0x800

/-- Whether a code point is half of a surrogate pair. -/
def isHalf (code : Nat) : Bool := decide (0xD800 ≤ code ∧ code < 0xE000)

/-- The character in front of a half. -/
def mark : Char := '\ud7ff'

/-- The spelling of a code point. -/
def spell (code : Nat) : List Char :=
  if isHalf code then [mark, Char.ofNat (code + shift)]
  else if code = mark.toNat then [mark, mark]
  else [Char.ofNat code]

/-- The spelling of code points. -/
def ofCodes (codes : List Nat) : List Char := codes.flatMap spell

/-- The code points that a text spells. -/
def codes : List Char → List Nat
  | [] => []
  | [c] => [c.toNat]
  | c :: d :: rest =>
      if c = mark then (if d = mark then mark.toNat else d.toNat - shift) :: codes rest
      else c.toNat :: codes (d :: rest)

/-- The spelling of a text of whole characters. -/
def ofWhole (text : List Char) : List Char := ofCodes (text.map Char.toNat)

/-- Whether a text is one of Unicode, without halves. -/
def isWhole (text : String) : Bool := !(codes text.toList).any isHalf

theorem codes_cons {c : Char} (h : c ≠ mark) (rest : List Char) :
    codes (c :: rest) = c.toNat :: codes rest := by
  cases rest with
  | nil => rfl
  | cons d rest => simp [codes, h]

theorem toNat_ofNat {code : Nat} (h : code.isValidChar) : (Char.ofNat code).toNat = code := by
  rw [Char.ofNat, dif_pos h]
  rfl

theorem codes_spell_append {code : Nat} (h : code < 0x110000) (rest : List Char) :
    codes (spell code ++ rest) = code :: codes rest := by
  by_cases hHalf : isHalf code
  · have hRange : 0xD800 ≤ code ∧ code < 0xE000 := of_decide_eq_true hHalf
    have hNat : (Char.ofNat (code + shift)).toNat = code + shift :=
      toNat_ofNat (Or.inr ⟨by simp only [shift]; omega, by simp only [shift]; omega⟩)
    have hMark : Char.ofNat (code + shift) ≠ mark := by
      intro hEq
      have hBad : code + shift = 0xD7FF := hNat ▸ congrArg Char.toNat hEq
      simp only [shift] at hBad
      omega
    simp [spell, hHalf, codes, hMark, hNat]
  · have hRange : ¬(0xD800 ≤ code ∧ code < 0xE000) := fun h => hHalf (decide_eq_true h)
    by_cases hEq : code = mark.toNat
    · rw [spell, if_neg hHalf, if_pos hEq]
      simp [codes, hEq]
    · have hNat : (Char.ofNat code).toNat = code := toNat_ofNat (by
        by_cases hLow : code < 0xD800
        · exact Or.inl hLow
        · exact Or.inr ⟨by omega, h⟩)
      have hMark : Char.ofNat code ≠ mark := fun hSame => hEq (hNat ▸ congrArg Char.toNat hSame)
      simp [spell, hHalf, hEq, codes_cons hMark, hNat]

/-- A spelling tells the code points. -/
theorem codes_ofCodes {points : List Nat} (h : ∀ code ∈ points, code < 0x110000) :
    codes (ofCodes points) = points := by
  induction points with
  | nil => rfl
  | cons code rest ih =>
      rw [ofCodes, List.flatMap_cons, codes_spell_append (h code List.mem_cons_self)]
      exact congrArg (code :: ·) (ih fun other hOther => h other (List.mem_cons_of_mem _ hOther))

end ClientAuth.Text
