import ClientAuth.Failure

/-! How outcomes follow each other: a value goes on to the next step, and an
interruption ends all that comes after it. -/
namespace ClientAuth

/-- A failure is of a family and carries the family's code. A failure of a service may
carry any other. -/
structure Failure.Is (failure : Failure) (kind : Kind) : Prop where
  family : failure.kind = kind
  named : failure.code = .text kind.code

/-- A fault is about a text that has no UTF-8 form. -/
def Fault.LacksForm (fault : Fault) : Prop :=
  ∃ text, Text.isWhole text = false ∧ fault = .notUnicode text

namespace Outcome

variable {α β : Type}

@[simp] theorem pure_eq (value : α) : (pure value : Outcome α) = .ok value := rfl

@[simp] theorem ok_bind (value : α) (next : α → Outcome β) :
    ((.ok value : Outcome α) >>= next) = next value := rfl

@[simp] theorem halt_bind (cause : Fault) (next : α → Outcome β) :
    ((halt cause : Outcome α) >>= next) = halt cause := rfl

/-- A sequence of steps comes to a value only if each of them does. -/
theorem bind_eq_ok {outcome : Outcome α} {next : α → Outcome β} {result : β} :
    (outcome >>= next) = .ok result ↔ ∃ value, outcome = .ok value ∧ next value = .ok result := by
  cases outcome with
  | ok value => simp
  | error interruption =>
      constructor
      · intro h
        nomatch h
      · rintro ⟨value, h, -⟩
        nomatch h

theorem toOption_eq_some {outcome : Outcome α} {value : α} :
    outcome.toOption = some value ↔ outcome = .ok value := by
  cases outcome with
  | ok other => simp [Except.toOption]
  | error interruption => simp [Except.toOption]

@[simp] theorem orHalt_some (cause : Fault) (value : α) :
    orHalt cause (some value) = .ok value := rfl

@[simp] theorem orHalt_none (cause : Fault) : (orHalt cause none : Outcome α) = halt cause := rfl

@[simp] theorem orFail_some (cause : Failure) (value : α) :
    orFail cause (some value) = .ok value := rfl

@[simp] theorem fail_ne_halt (failure : Failure) (fault : Fault) :
    (fail failure : Outcome α) ≠ halt fault := nofun

/-- A text either has a UTF-8 form or breaks the operation off. -/
theorem utf8_cases (text : String) :
    (Text.isWhole text = true ∧ ∃ bytes, utf8 text = .ok bytes) ∨
      (Text.isWhole text = false ∧ utf8 text = halt (.notUnicode text)) := by
  have hSome := Bytes.isSome_ofText? text
  cases hText : Bytes.ofText? text with
  | none =>
      rw [hText] at hSome
      exact Or.inr ⟨hSome.symm, by rw [utf8, hText, orHalt_none]⟩
  | some bytes =>
      rw [hText] at hSome
      exact Or.inl ⟨hSome.symm, bytes, by rw [utf8, hText, orHalt_some]⟩

theorem exists_utf8 {text : String} (h : Text.isWhole text = true) :
    ∃ bytes, utf8 text = .ok bytes := by
  rcases utf8_cases text with ⟨-, hBytes⟩ | ⟨hHalf, -⟩
  · exact hBytes
  · rw [h] at hHalf
    nomatch hHalf

end Outcome
end ClientAuth
