import Mathlib.Data.List.Basic
import ClientAuth.Json.Reader

/-! How deep a document may be nested. A reader goes forward through its text, so a document that
is nested too deep opens more brackets than there is room for; and brackets that are only opened
are too deep as soon as there are that many. -/
namespace ClientAuth

namespace Numeral

theorem run_suffix (value count : Nat) (input : List Char) :
    (run value count input).2.2 <:+ input := by
  induction input generalizing value count with
  | nil => exact List.suffix_rfl
  | cons c input ih =>
      rw [run]
      split
      · exact (ih _ _).trans (List.suffix_cons c input)
      · exact List.suffix_rfl

theorem sign_suffix (input : List Char) : (sign input).2 <:+ input := by
  rw [sign.eq_def]
  split
  · exact List.suffix_cons _ _
  · exact List.suffix_cons _ _
  · exact List.suffix_rfl

end Numeral

namespace Json

theorem skip_suffix (input : List Char) : skip input <:+ input := List.dropWhile_suffix _

theorem unit?_suffix {input rest : List Char} {value : Nat}
    (h : unit? input = some (value, rest)) : rest <:+ input := by
  rw [unit?.eq_def] at h
  split at h
  next a b c d more =>
    simp only [bind, Option.bind_eq_some_iff, Option.some.injEq, Prod.mk.injEq] at h
    obtain ⟨-, -, -, -, -, -, -, -, -, rfl⟩ := h
    exact ⟨[a, b, c, d], rfl⟩
  next => nomatch h

theorem escaped?_suffix {input rest : List Char} {code : Nat}
    (h : escaped? input = some (code, rest)) : rest <:+ input := by
  rw [escaped?] at h
  split at h
  next => nomatch h
  next value more hUnit =>
    have hMore := unit?_suffix hUnit
    split at h
    · split at h
      next behind =>
        split at h
        next low last hLow =>
          have hLast := (unit?_suffix hLow).trans ⟨['\\', 'u'], rfl⟩
          split at h
          · obtain ⟨-, rfl⟩ := Prod.mk.inj (Option.some.inj h)
            exact hLast.trans hMore
          · obtain ⟨-, rfl⟩ := Prod.mk.inj (Option.some.inj h)
            exact hMore
        next => nomatch h
      next =>
        obtain ⟨-, rfl⟩ := Prod.mk.inj (Option.some.inj h)
        exact hMore
    · obtain ⟨-, rfl⟩ := Prod.mk.inj (Option.some.inj h)
      exact hMore

theorem chars?_suffix {fuel : Nat} {done input rest : List Char} {text : String}
    (h : chars? fuel done input = some (text, rest)) : rest <:+ input := by
  fun_induction chars? fuel done input with
  | case1 => nomatch h
  | case2 => nomatch h
  | case3 =>
      cases h
      exact List.suffix_cons _ _
  | case4 fuel done behind code more hEscaped ih =>
      exact ((ih h).trans (escaped?_suffix hEscaped)).trans ⟨['\\', 'u'], rfl⟩
  | case5 => nomatch h
  | case6 fuel done letter behind c hSimple hEscape ih => exact (ih h).trans ⟨['\\', letter], rfl⟩
  | case7 => nomatch h
  | case8 => nomatch h
  | case9 fuel done c behind _ _ _ hPlain ih => exact (ih h).trans (List.suffix_cons c behind)

theorem fraction?_suffix {value digits places : Nat} {input rest : List Char}
    (h : fraction? value input = some (digits, places, rest)) : rest <:+ input := by
  rw [fraction?.eq_def] at h
  split at h
  next more =>
    have hRun := Numeral.run_suffix value 0 more
    split at h
    next value count behind hRead =>
      rw [hRead] at hRun
      split at h
      · nomatch h
      · cases h
        exact hRun.trans (List.suffix_cons '.' more)
  next => nomatch h

theorem exponent?_suffix {input rest : List Char} {value : Int}
    (h : exponent? input = some (value, rest)) : rest <:+ input := by
  rw [exponent?.eq_def] at h
  split at h
  next mark more =>
    split at h
    · have hRun := (Numeral.run_suffix 0 0 (Numeral.sign more).2).trans (Numeral.sign_suffix more)
      dsimp only at h
      split at h
      · nomatch h
      · obtain ⟨-, rfl⟩ := Prod.mk.inj (Option.some.inj h)
        exact hRun.trans (List.suffix_cons mark more)
    · nomatch h
  next => nomatch h

theorem number?_suffix {negative : Bool} {input rest : List Char} {data : Json}
    (h : number? negative input = some (data, rest)) : rest <:+ input := by
  rw [number?.eq_def] at h
  extract_lets start at h
  have hStart {whole count : Nat} {more : List Char} (hSome : start = some (whole, count, more)) :
      more <:+ input := by
    dsimp only [start] at hSome
    split at hSome
    next =>
      cases hSome
      exact List.suffix_cons _ _
    next =>
      have hRun := Numeral.run_suffix 0 0 input
      split at hSome
      · nomatch hSome
      · obtain ⟨-, hSame⟩ := Prod.mk.inj (Option.some.inj hSome)
        obtain ⟨-, rfl⟩ := Prod.mk.inj hSame
        exact hRun
  cases hRead : start with
  | none =>
    rw [hRead] at h
    nomatch h
  | some reading =>
    obtain ⟨whole, count, more⟩ := reading
    have hMore := hStart hRead
    rw [hRead] at h
    dsimp only at h
    split at h
    next digits places behind hFraction =>
      have hBehind := (fraction?_suffix hFraction).trans hMore
      split at h
      next e last hExponent =>
        obtain ⟨-, rfl⟩ := Prod.mk.inj (Option.some.inj h)
        exact (exponent?_suffix hExponent).trans hBehind
      next =>
        obtain ⟨-, rfl⟩ := Prod.mk.inj (Option.some.inj h)
        exact hBehind
    next =>
      split at h
      next e last hExponent =>
        obtain ⟨-, rfl⟩ := Prod.mk.inj (Option.some.inj h)
        exact (exponent?_suffix hExponent).trans hMore
      next =>
        split at h
        · nomatch h
        · obtain ⟨-, rfl⟩ := Prod.mk.inj (Option.some.inj h)
          exact hMore

theorem after?_suffix {word : String} {input rest : List Char}
    (h : after? word input = some rest) : rest <:+ input := by
  rw [after?] at h
  split at h
  · cases h
    exact List.drop_suffix _ _
  · nomatch h

theorem atom?_suffix {input rest : List Char} {data : Json}
    (h : atom? input = some (data, rest)) : rest <:+ input := by
  have hWord {word : String} {value : Json}
      (h : (after? word input).map (value, ·) = some (data, rest)) : rest <:+ input := by
    obtain ⟨more, hAfter, hSame⟩ := Option.map_eq_some_iff.mp h
    cases hSame
    exact after?_suffix hAfter
  rw [atom?.eq_def] at h
  split at h
  · exact hWord h
  · exact hWord h
  · exact hWord h
  · exact hWord h
  · exact hWord h
  · exact hWord h
  · exact (number?_suffix h).trans (List.suffix_cons _ _)
  · exact number?_suffix h

/-- The brackets in a text. -/
def brackets (input : List Char) : Nat := input.countP fun c => c = '[' || c = '\x7b'

/-- A reading within a room goes forward, or opens more brackets than there is room for. -/
inductive Forward {α : Type} (room : Nat) (input : List Char) : Reading α → Prop
  | read {value : α} {rest : List Char} (h : rest <:+ input) :
      Forward room input (.ok (value, rest))
  | malformed : Forward room input (.error .malformed)
  | tooDeep {inObject : Bool} (h : room < brackets input) :
      Forward room input (.error (.tooDeep inObject))

namespace Forward

variable {α : Type} {room : Nat} {input whole : List Char} {reading : Reading α}

theorem mono (h : Forward room input reading) (hSuffix : input <:+ whole) :
    Forward room whole reading := by
  cases h with
  | read hRest => exact .read (hRest.trans hSuffix)
  | malformed => exact .malformed
  | tooDeep hRoom => exact .tooDeep (Nat.lt_of_lt_of_le hRoom hSuffix.sublist.countP_le)

/-- Behind a bracket there is one room less. -/
theorem nest {c : Char} (hBracket : c = '[' ∨ c = '\x7b') (h : Forward room input reading) :
    Forward (room + 1) (c :: input) reading := by
  cases h with
  | read hRest => exact .read (hRest.trans (List.suffix_cons c input))
  | malformed => exact .malformed
  | tooDeep hRoom =>
      refine .tooDeep ?_
      rw [brackets, List.countP_cons_of_pos (by simpa using hBracket)]
      exact Nat.succ_lt_succ hRoom

/-- A fault stays what it is. -/
theorem retype {β : Type} {fault : ReadFault}
    (h : Forward room input (.error fault : Reading α)) :
    Forward room input (.error fault : Reading β) := by
  cases h with
  | malformed => exact .malformed
  | tooDeep hRoom => exact .tooDeep hRoom

theorem suffix {value : α} {rest : List Char}
    (h : Forward room input (.ok (value, rest))) : rest <:+ input := by
  cases h with
  | read hRest => exact hRest

theorem of_plain {result : Option (α × List Char)}
    (h : ∀ value rest, result = some (value, rest) → rest <:+ input) :
    Forward room input (plain result) := by
  cases result with
  | none => exact .malformed
  | some reading => exact .read (h reading.1 reading.2 rfl)

end Forward

section Reading

variable {fuel room : Nat} {input : List Char}

theorem forward_value
    (hItems : ∀ room input, Forward room input (items fuel room [] input))
    (hMembers : ∀ room input, Forward room input (members fuel room [] input)) :
    Forward room input (value (fuel + 1) room input) := by
  rw [value.eq_def]
  dsimp only
  split
  next rest =>
    refine .of_plain fun data last h => ?_
    obtain ⟨⟨content, behind⟩, hChars, hSame⟩ := Option.map_eq_some_iff.mp h
    cases hSame
    exact (chars?_suffix hChars).trans (List.suffix_cons '"' rest)
  next rest =>
    split
    · exact .tooDeep (by simp [brackets])
    next room =>
      refine .nest (.inl rfl) (.mono ?_ (skip_suffix rest))
      split
      next behind hSkip => exact .read (hSkip ▸ List.suffix_cons ']' behind)
      next => exact hItems _ _
  next rest =>
    split
    · exact .tooDeep (by simp [brackets])
    next room =>
      refine .nest (.inr rfl) (.mono ?_ (skip_suffix rest))
      split
      next behind hSkip => exact .read (hSkip ▸ List.suffix_cons '\x7d' behind)
      next => exact hMembers _ _
  next => exact .of_plain fun data rest h => atom?_suffix h

theorem forward_items {done : List Json} (hValue : Forward room input (value fuel room input))
    (hItems : ∀ done input, Forward room input (items fuel room done input)) :
    Forward room input (items (fuel + 1) room done input) := by
  rw [items.eq_def]
  dsimp only
  split
  next fault hFault =>
    rw [hFault] at hValue
    exact hValue.retype
  next item rest hRead =>
    rw [hRead] at hValue
    have hRest := (skip_suffix rest).trans hValue.suffix
    split
    next more hComma =>
      have hMore := (hComma ▸ List.suffix_cons ',' more).trans hRest
      exact (hItems _ _).mono ((skip_suffix more).trans hMore)
    next more hEnd => exact .read ((hEnd ▸ List.suffix_cons ']' more).trans hRest)
    next => exact .malformed

theorem forward_members {done : List (String × Json)}
    (hValue : ∀ input, Forward room input (value fuel room input))
    (hMembers : ∀ done input, Forward room input (members fuel room done input)) :
    Forward room input (members (fuel + 1) room done input) := by
  rw [members.eq_def]
  dsimp only
  split
  next text =>
    split
    next => exact .malformed
    next key rest hKey =>
      have hRest := ((skip_suffix rest).trans (chars?_suffix hKey)).trans
        (List.suffix_cons '"' text)
      split
      next more hColon =>
        have hMore := (hColon ▸ List.suffix_cons ':' more).trans hRest
        have hItem := (hValue (skip more)).mono ((skip_suffix more).trans hMore)
        split
        next fault hFault =>
          rw [hFault] at hItem
          exact hItem.retype
        next item behind hRead =>
          rw [hRead] at hItem
          have hBehind := (skip_suffix behind).trans hItem.suffix
          split
          next last hComma =>
            have hLast := (hComma ▸ List.suffix_cons ',' last).trans hBehind
            exact (hMembers _ _).mono ((skip_suffix last).trans hLast)
          next last hEnd => exact .read ((hEnd ▸ List.suffix_cons '\x7d' last).trans hBehind)
          next => exact .malformed
      next => exact .malformed
  next => exact .malformed

end Reading

theorem forward (fuel : Nat) :
    (∀ room input, Forward room input (value fuel room input)) ∧
      (∀ room done input, Forward room input (items fuel room done input)) ∧
      ∀ room done input, Forward room input (members fuel room done input) := by
  induction fuel with
  | zero => exact ⟨fun _ _ => .malformed, fun _ _ _ => .malformed, fun _ _ _ => .malformed⟩
  | succ fuel ih =>
      obtain ⟨ihValue, ihItems, ihMembers⟩ := ih
      exact ⟨fun _ _ => forward_value (fun _ _ => ihItems _ _ _) fun _ _ => ihMembers _ _ _,
        fun _ _ _ => forward_items (ihValue _ _) (ihItems _),
        fun _ _ _ => forward_members (ihValue _) (ihMembers _)⟩

/-- A document that is nested too deep opens more brackets than there is room for. -/
theorem lt_brackets_of_tooDeep {room : Nat} {input : List Char} {inObject : Bool}
    (h : readWithin room input = .error (.tooDeep inObject)) : room < brackets input := by
  have hForward := ((forward (2 * input.length + 2)).1 room (skip input)).mono (skip_suffix input)
  rw [readWithin] at h
  split at h
  next fault hFault =>
    cases h
    rw [hFault] at hForward
    cases hForward with
    | tooDeep hRoom => exact hRoom
  next =>
    split at h
    · nomatch h
    · nomatch h

theorem value_nested {fuel room : Nat} {rest : List Char} {fault : ReadFault}
    (h : value fuel room ('[' :: rest) = .error fault) :
    value (fuel + 2) (room + 1) ('[' :: '[' :: rest) = .error fault := by
  have hItems : items (fuel + 1) room [] ('[' :: rest) = .error fault := by
    rw [items, h]
  exact hItems

theorem value_opened {room fuel : Nat} (hFuel : 2 * room < fuel) (rest : List Char) :
    value fuel room (List.replicate (room + 1) '[' ++ rest) = .error (.tooDeep false) := by
  induction room generalizing fuel with
  | zero =>
      obtain ⟨fuel, rfl⟩ := Nat.exists_eq_succ_of_ne_zero (Nat.ne_of_gt hFuel)
      rfl
  | succ room ih =>
      obtain ⟨fuel, rfl⟩ : ∃ left, fuel = left + 2 := ⟨fuel - 2, by omega⟩
      exact value_nested (ih (by omega))

/-- Brackets that are only opened are too deep as soon as there is no room for one of them. -/
theorem readWithin_opened (room : Nat) (rest : List Char) :
    readWithin room (List.replicate (room + 1) '[' ++ rest) = .error (.tooDeep false) := by
  have hSkip : skip (List.replicate (room + 1) '[' ++ rest) =
      List.replicate (room + 1) '[' ++ rest := rfl
  rw [readWithin, hSkip, value_opened]
  simp
  omega

end Json
end ClientAuth
