import ClientAuth.Text.Half

/-! Texts without the mark that spells halves: they are their own code points. Texts
in ASCII are among them, so that they have a UTF-8 form. -/
namespace ClientAuth.Text

/-- Without a mark a text is spelled character by character. -/
theorem codes_eq_map {text : List Char} (h : ∀ c ∈ text, c ≠ mark) :
    codes text = text.map Char.toNat := by
  induction text with
  | nil => rfl
  | cons c rest ih =>
      rw [codes_cons (h c List.mem_cons_self), ih fun d hd => h d (List.mem_cons_of_mem _ hd)]
      rfl

/-- Every character of a text is in ASCII. -/
def IsAscii (text : String) : Prop := ∀ c ∈ text.toList, c.toNat < 128

instance (text : String) : Decidable (IsAscii text) :=
  List.decidableBAll (fun c : Char => c.toNat < 128) text.toList

theorem IsAscii.append {first second : String} (hFirst : IsAscii first) (hSecond : IsAscii second) :
    IsAscii (first ++ second) := by
  intro c hMem
  rw [String.toList_append, List.mem_append] at hMem
  exact hMem.elim (hFirst c) (hSecond c)

theorem isAscii_ofList {text : List Char} (h : ∀ c ∈ text, c.toNat < 128) :
    IsAscii (String.ofList text) := by
  intro c hMem
  rw [String.toList_ofList] at hMem
  exact h c hMem

/-- Neither the mark nor a half is in ASCII. -/
theorem isWhole_of_isAscii {text : String} (h : IsAscii text) : isWhole text = true := by
  have hMark : ∀ c ∈ text.toList, c ≠ mark := by
    intro c hMem hEq
    have hBound := h c hMem
    rw [hEq] at hBound
    exact absurd hBound (by decide)
  rw [isWhole, codes_eq_map hMark, Bool.not_eq_true', List.any_eq_false]
  intro code hMem
  obtain ⟨c, hChar, rfl⟩ := List.mem_map.mp hMem
  have hBound := h c hChar
  simp only [isHalf, decide_eq_true_eq]
  omega

end ClientAuth.Text
