import ClientAuth.Proofs.ModularPower
import ClientAuth.Srp.Ephemeral
import ClientAuth.Srp.Session

/-! The client's key pair. Main statement: `create_of_draw`, which finds the pair
in the first draw that gives a private value, since no power of the generator is
a multiple of the modulus. Which draws give one is not restricted. -/
namespace ClientAuth.Srp

theorem coprime_generator_modulus : Nat.Coprime generator modulus := by
  decide +kernel

theorem one_lt_modulus : 1 < modulus := by
  decide +kernel

/-- A public value is not zero in the group, whatever the private one is. -/
theorem publicValue_mod_ne_zero (secret : Nat) : publicValue secret % modulus ≠ 0 := by
  intro hZero
  rw [publicValue, Modular.power_eq, Nat.mod_mod] at hZero
  have hCoprime : Nat.Coprime (generator ^ secret) modulus :=
    coprime_generator_modulus.pow_left secret
  have hGcd : Nat.gcd (generator ^ secret) modulus = modulus :=
    Nat.gcd_eq_right (Nat.dvd_of_mod_eq_zero hZero)
  rw [hCoprime] at hGcd
  exact absurd hGcd (Nat.ne_of_lt one_lt_modulus)

/-- The pair is made of the first private value that is drawn. -/
theorem drawPair_of_drawPrivate {entropy rest : List Bytes} {secret : Nat}
    (h : drawPrivate entropy = (.ok secret, rest)) :
    drawPair entropy = (.ok ⟨secret, publicValue secret⟩, rest) := by
  induction entropy with
  | nil => nomatch h
  | cons draw entropy ih =>
      rw [drawPrivate] at h
      rw [drawPair]
      cases hDraw : privateValue? draw with
      | none =>
          rw [hDraw] at h
          exact ih h
      | some value =>
          rw [hDraw] at h
          obtain ⟨rfl, rfl⟩ : value = secret ∧ entropy = rest := by
            simpa using h
          exact if_neg (publicValue_mod_ne_zero value)

/-- The client of a pool id with a name, as soon as a private value is drawn. -/
theorem Client.create_of_draw {poolId pool : String} {entropy rest : List Bytes} {secret : Nat}
    (hPool : poolName poolId = .ok pool) (hDraw : drawPrivate entropy = (.ok secret, rest)) :
    Client.create poolId entropy = (.ok ⟨pool, some ⟨secret, publicValue secret⟩⟩, rest) := by
  rw [Client.create, hPool]
  dsimp only
  rw [drawPair_of_drawPrivate hDraw]

/-- A client that is made has a key pair. -/
theorem Client.exists_pair_of_create {poolId : String} {entropy rest : List Bytes}
    {client : Client} (h : create poolId entropy = (.ok client, rest)) :
    ∃ pool pair, client = ⟨pool, some pair⟩ := by
  rw [create] at h
  split at h
  · nomatch h
  next pool hPool =>
    split at h
    · cases h
      exact ⟨_, _, rfl⟩
    · nomatch h

end ClientAuth.Srp
