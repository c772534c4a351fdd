import ClientAuth.Text.Quoted

/-! The code points of joined texts. Main statement: `lackMessage_append`, by which a fault of an
encoding tells nothing of what stands behind the codes that it names. -/
namespace ClientAuth.Text

/-- A character other than the mark ends a spelling: what comes after it is spelled on its own. -/
theorem codes_append_cons {c : Char} (h : c ≠ mark) (front rest : List Char) :
    codes (front ++ c :: rest) = codes (front ++ [c]) ++ codes rest := by
  induction front using codes.induct with
  | case1 => exact codes_cons h rest
  | case2 d =>
      by_cases hMark : d = mark
      · simp [codes, hMark]
      · simp only [List.cons_append, List.nil_append, codes_cons hMark, codes_cons h]
        rfl
  | case3 d front ih => simp only [List.cons_append, codes, if_true, ih]
  | case4 d e front hMark ih =>
      simp only [List.cons_append, codes_cons hMark] at ih ⊢
      rw [ih]

section

variable {isLacking : Nat → Bool} {rest : List Nat}

theorem takeWhile_lacking_append (codes : List Nat) (h : rest.any isLacking = false) :
    (codes ++ rest).takeWhile isLacking = codes.takeWhile isLacking := by
  induction codes with
  | nil =>
      cases rest with
      | nil => rfl
      | cons code rest =>
          rw [List.any_cons, Bool.or_eq_false_iff] at h
          exact List.takeWhile_cons_of_neg (by simp [h.1])
  | cons code codes ih =>
      rw [List.cons_append, List.takeWhile_cons, List.takeWhile_cons, ih]

/-- What an encoding lacks is told by the first codes that it lacks, whatever comes after. -/
theorem lackMessage_append (encoding reason : String) {codes : List Nat}
    (hSome : codes.any isLacking = true) (hNone : rest.any isLacking = false) :
    lackMessage encoding reason isLacking (codes ++ rest) =
      lackMessage encoding reason isLacking codes := by
  have hSplit : (codes ++ rest).takeWhile (!isLacking ·) = codes.takeWhile (!isLacking ·) ∧
      (codes ++ rest).dropWhile (!isLacking ·) = codes.dropWhile (!isLacking ·) ++ rest := by
    induction codes with
    | nil => nomatch hSome
    | cons code codes ih =>
        cases hCode : isLacking code with
        | true => simp [hCode]
        | false =>
            rw [List.any_cons, hCode, Bool.false_or] at hSome
            simp [hCode, ih hSome]
  rw [lackMessage, lackMessage, hSplit.1, hSplit.2, takeWhile_lacking_append _ hNone]

end

end ClientAuth.Text
