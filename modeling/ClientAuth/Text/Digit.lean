/-! Decimal digits of every script. Each script's ten digits stand together in
increasing order, so the table names only the zeros. -/
namespace ClientAuth.Text

/-- The zero of each run of ten decimal digits. -/
def digitZeros : List Nat :=
  [0x30, 0x660, 0x6f0, 0x7c0, 0x966, 0x9e6, 0xa66, 0xae6, 0xb66, 0xbe6, 0xc66, 0xce6, 0xd66,
   0xde6, 0xe50, 0xed0, 0xf20, 0x1040, 0x1090, 0x17e0, 0x1810, 0x1946, 0x19d0, 0x1a80, 0x1a90,
   0x1b50, 0x1bb0, 0x1c40, 0x1c50, 0xa620, 0xa8d0, 0xa900, 0xa9d0, 0xa9f0, 0xaa50, 0xabf0,
   0xff10, 0x104a0, 0x10d30, 0x11066, 0x110f0, 0x11136, 0x111d0, 0x112f0, 0x11450, 0x114d0,
   0x11650, 0x116c0, 0x11730, 0x118e0, 0x11950, 0x11c50, 0x11d50, 0x11da0, 0x16a60, 0x16ac0,
   0x16b50, 0x1d7ce, 0x1d7d8, 0x1d7e2, 0x1d7ec, 0x1d7f6, 0x1e140, 0x1e2f0, 0x1e950, 0x1fbf0]

/-- The value of a decimal digit of any script. -/
def decimalDigit? (c : Char) : Option Nat :=
  digitZeros.findSome? fun base =>
    if base ≤ c.toNat ∧ c.toNat < base + 10 then some (c.toNat - base) else none

/-- A digit of any script as the ASCII digit of the same value. -/
def plainDigit (c : Char) : Char :=
  match decimalDigit? c with
  | some value => Char.ofNat (48 + value)
  | none => c

/-- The value of a decimal digit, or of a Latin letter of either case standing
for ten and up. -/
def hexDigit? (c : Char) : Option Nat :=
  if 'a' ≤ c ∧ c ≤ 'f' then some (c.toNat - 'a'.toNat + 10)
  else if 'A' ≤ c ∧ c ≤ 'F' then some (c.toNat - 'A'.toNat + 10)
  else decimalDigit? c

theorem decimalDigit?_lt {c : Char} {value : Nat} (h : decimalDigit? c = some value) :
    value < 10 := by
  obtain ⟨base, _, hBase⟩ := List.exists_of_findSome?_eq_some h
  split at hBase
  · simp only [Option.some.injEq] at hBase
    omega
  · simp at hBase

theorem hexDigit?_lt {c : Char} {value : Nat} (h : hexDigit? c = some value) : value < 16 := by
  unfold hexDigit? at h
  split at h
  · next hc =>
      have hTop : c.toNat ≤ 'f'.toNat := hc.2
      simp only [Option.some.injEq] at h
      simp at hTop h
      omega
  · split at h
    · next hc =>
        have hTop : c.toNat ≤ 'F'.toNat := hc.2
        simp only [Option.some.injEq] at h
        simp at hTop h
        omega
    · exact Nat.lt_trans (decimalDigit?_lt h) (by decide)

end ClientAuth.Text
