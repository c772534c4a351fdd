import ClientAuth.Crypto.ModPow
import ClientAuth.Failure
import ClientAuth.Srp.Group

/-! The client's ephemeral key pair, drawn from a queue of random byte strings,
and the requests for random bytes that are made for it. -/
namespace ClientAuth.Srp

/-- The private value that one draw of random bytes gives. A multiple of the
modulus gives none. -/
def privateValue? (draw : Bytes) : Option Nat :=
  let value := draw.toNat % modulus
  if value = 0 then none else some value

/-- The private value of the first draw that gives one, and the draws left. An
exhausted queue is no secure source of randomness. -/
def drawPrivate : List Bytes → Outcome Nat × List Bytes
  | [] => (.halt .noEntropy, [])
  | draw :: rest =>
      match privateValue? draw with
      | some value => (.ok value, rest)
      | none => drawPrivate rest

/-- The public value of a private one. -/
def publicValue (secret : Nat) : Nat := Modular.power modulus generator secret

/-- A private value and its public value, which is not zero. -/
structure Ephemeral where
  secret : Nat
  shared : Nat
deriving DecidableEq, Repr

/-- Draws key pairs until one has a public value other than zero. Powers of the
generator never vanish, so the first pair is taken. -/
def drawPair : List Bytes → Outcome Ephemeral × List Bytes
  | [] => (.halt .noEntropy, [])
  | draw :: rest =>
      match privateValue? draw with
      | some secret =>
          if publicValue secret % modulus = 0 then drawPair rest
          else (.ok ⟨secret, publicValue secret⟩, rest)
      | none => drawPair rest

/-- A source of random bytes: the strings that it has left, and the sizes of the
requests so far. -/
structure RandomSource where
  left : List Bytes
  requests : List Nat
deriving DecidableEq, Repr

namespace RandomSource

/-- One request. The next string comes as it is, however many bytes are asked
for; a source that has none is no secure one. -/
def request (source : RandomSource) (size : Nat) : Outcome Bytes × RandomSource :=
  match source.left with
  | [] => (.halt .noEntropy, ⟨[], source.requests ++ [size]⟩)
  | draw :: rest => (.ok draw, ⟨rest, source.requests ++ [size]⟩)

theorem length_of_request {source next : RandomSource} {size : Nat} {draw : Bytes}
    (h : source.request size = (.ok draw, next)) : next.left.length < source.left.length := by
  rw [request] at h
  split at h
  · nomatch h
  next hLeft =>
    obtain ⟨-, rfl⟩ := Prod.mk.inj h
    rw [hLeft]
    exact Nat.lt_succ_self _

/-- A private value: bytes are requested until they give one. -/
def drawPrivate (source : RandomSource) : Outcome Nat × RandomSource :=
  match _ : source.request ephemeralBytes with
  | (.error interruption, next) => (.error interruption, next)
  | (.ok draw, next) =>
      match privateValue? draw with
      | some value => (.ok value, next)
      | none => next.drawPrivate
termination_by source.left.length
decreasing_by exact length_of_request ‹_›

theorem length_of_drawPrivate {source next : RandomSource} {secret : Nat}
    (h : source.drawPrivate = (.ok secret, next)) : next.left.length < source.left.length := by
  fun_induction drawPrivate source with
  | case1 source interruption after hDraw => nomatch h
  | case2 source draw after hDraw value hValue =>
      obtain ⟨-, rfl⟩ := Prod.mk.inj h
      exact length_of_request hDraw
  | case3 source draw after hDraw hValue ih => exact Nat.lt_trans (ih h) (length_of_request hDraw)

/-- A key pair: private values are drawn until one has a public value that is
not zero. -/
def drawPair (source : RandomSource) : Outcome Ephemeral × RandomSource :=
  match _ : source.drawPrivate with
  | (.error interruption, next) => (.error interruption, next)
  | (.ok secret, next) =>
      if publicValue secret % modulus = 0 then next.drawPair
      else (.ok ⟨secret, publicValue secret⟩, next)
termination_by source.left.length
decreasing_by exact length_of_drawPrivate ‹_›

end RandomSource

theorem privateValue?_eq_some {draw : Bytes} {value : Nat} :
    privateValue? draw = some value ↔ value ≠ 0 ∧ value = Bytes.toNat draw % modulus := by
  unfold privateValue?
  grind

end ClientAuth.Srp
