import ClientAuth.Proofs.EphemeralDraw
import ClientAuth.Proofs.NumeralText
import ClientAuth.Proofs.TextPieces

/-! Requests for random bytes. A client asks for as many strings as it takes to find a private
value, and for no more. Main statement: `createFrom_requests`, for all pool ids and all queues of
strings of any lengths. -/
namespace ClientAuth

namespace Srp

variable {poolId pool : String} {vain queue : List Bytes} {draw : Bytes}

/-- A pool id with the name of the pool in it: what stands behind the first underscore, if that and
what stands before it are not empty. -/
def IsPoolId (poolId pool : String) : Prop :=
  ∃ region, poolId = region ++ "_" ++ pool ∧ '_' ∉ region.toList ∧ region ≠ "" ∧ pool ≠ ""

/-- A draw that gives a private value. -/
def Usable (draw : Bytes) : Prop := draw.toNat % modulus ≠ 0

/-- The key pair of a draw: a private value other than zero, and its power of the generator, which
is not zero either. -/
structure PairOf (draw : Bytes) (pair : Ephemeral) : Prop where
  secret : pair.secret = draw.toNat % modulus
  secret_bounds : 1 ≤ pair.secret ∧ pair.secret < modulus
  shared : pair.shared = generator ^ pair.secret % modulus
  shared_bounds : 1 ≤ pair.shared ∧ pair.shared < modulus

theorem toList_marked (region name : String) :
    (region ++ "_" ++ name).toList = region.toList ++ '_' :: name.toList := by
  rw [String.toList_append, String.toList_append, List.append_assoc]
  rfl

theorem isPoolId_of_poolName (h : poolName poolId = .ok pool) : IsPoolId poolId pool := by
  rw [poolName] at h
  split at h
  · cases h
  next hFull =>
    obtain rfl := Except.ok.inj h
    rw [Bool.or_eq_true, not_or, List.isEmpty_iff, List.isEmpty_iff] at hFull
    obtain ⟨hRegion, hName⟩ := hFull
    have hBehind : poolId.toList.dropWhile (· ≠ '_') ≠ [] :=
      fun hNil => hName (by rw [hNil]; rfl)
    refine ⟨String.ofList (poolId.toList.takeWhile (· ≠ '_')), ?_, ?_, ?_, ?_⟩
    · apply String.toList_inj.mp
      rw [toList_marked, String.toList_ofList, String.toList_ofList, ← Text.dropWhile_mark hBehind,
        List.takeWhile_append_dropWhile]
    · rw [String.toList_ofList]
      exact Text.mark_notMem_takeWhile '_' _
    · rwa [Ne, String.ofList_eq_empty_iff]
    · rwa [Ne, String.ofList_eq_empty_iff]

theorem poolName_of_isPoolId (h : IsPoolId poolId pool) : poolName poolId = .ok pool := by
  obtain ⟨region, rfl, hPlain, hRegion, hPool⟩ := h
  have hPass (c : Char) (hMem : c ∈ region.toList) : decide (c ≠ '_') = true :=
    decide_eq_true fun hMark => hPlain (hMark ▸ hMem)
  have hBefore : (region ++ "_" ++ pool).toList.takeWhile (· ≠ '_') = region.toList := by
    rw [toList_marked, List.takeWhile_append_of_pos hPass]
    exact List.append_nil _
  have hBehind : (region ++ "_" ++ pool).toList.dropWhile (· ≠ '_') = '_' :: pool.toList := by
    rw [toList_marked, List.dropWhile_append_of_pos hPass]
    rfl
  rw [poolName, hBefore, hBehind, if_neg]
  · exact congrArg Except.ok String.ofList_toList
  · rw [Bool.or_eq_true, not_or, List.isEmpty_iff, List.isEmpty_iff]
    exact ⟨mt String.toList_eq_nil_iff.mp hRegion, mt String.toList_eq_nil_iff.mp hPool⟩

theorem poolName_eq_fail (h : ∀ pool, ¬IsPoolId poolId pool) :
    poolName poolId = .fail (.invalidPoolId poolId) := by
  have hNone (pool : String) : poolName poolId ≠ .ok pool :=
    fun hPool => h pool (isPoolId_of_poolName hPool)
  rw [poolName] at hNone ⊢
  split
  · rfl
  next hFull =>
    rw [if_neg hFull] at hNone
    exact absurd rfl (hNone _)

theorem pairOf_usable (h : Usable draw) :
    PairOf draw ⟨draw.toNat % modulus, publicValue (draw.toNat % modulus)⟩ := by
  have hPublic : publicValue (draw.toNat % modulus) =
      generator ^ (draw.toNat % modulus) % modulus :=
    Modular.power_eq modulus generator _
  have hPositive : 0 < modulus := Nat.lt_trans Nat.zero_lt_one one_lt_modulus
  refine ⟨rfl, ⟨Nat.pos_of_ne_zero h, Nat.mod_lt _ hPositive⟩, hPublic, ?_, ?_⟩
  · have hNonzero := publicValue_mod_ne_zero (draw.toNat % modulus)
    rw [hPublic, Nat.mod_mod, ← hPublic] at hNonzero
    exact Nat.pos_of_ne_zero hNonzero
  · dsimp only
    rw [hPublic]
    exact Nat.mod_lt _ hPositive

/-- A draw of the requested length is far below the modulus. -/
theorem toNat_mod_of_length (h : draw.length = ephemeralBytes) :
    draw.toNat % modulus = draw.toNat := by
  have hShort : 256 ^ ephemeralBytes ≤ modulus := by decide +kernel
  exact Nat.mod_eq_of_lt (Nat.lt_of_lt_of_le (h ▸ draw.toNat_lt) hShort)

namespace RandomSource

theorem drawPrivate_nil (requests : List Nat) :
    drawPrivate ⟨[], requests⟩ = (.halt .noEntropy, ⟨[], requests ++ [ephemeralBytes]⟩) := by
  rw [drawPrivate]
  rfl

/-- One turn of the loop for a private value. -/
theorem drawPrivate_cons (draw : Bytes) (rest : List Bytes) (requests : List Nat) :
    drawPrivate ⟨draw :: rest, requests⟩ =
      match privateValue? draw with
      | some value => (.ok value, ⟨rest, requests ++ [ephemeralBytes]⟩)
      | none => drawPrivate ⟨rest, requests ++ [ephemeralBytes]⟩ := by
  rw [drawPrivate]
  rfl

theorem append_replicate (requests : List Nat) (count : Nat) :
    requests ++ [ephemeralBytes] ++ List.replicate count ephemeralBytes =
      requests ++ List.replicate (count + 1) ephemeralBytes := by
  rw [List.append_assoc, List.replicate_succ]
  rfl

theorem privateValue?_of_not_usable (h : ¬Usable draw) : privateValue? draw = none :=
  if_pos (not_not.mp h)

theorem privateValue?_of_usable (h : Usable draw) :
    privateValue? draw = some (draw.toNat % modulus) :=
  if_neg h

/-- The loop ends with the first usable draw, and all requests are alike. -/
theorem drawPrivate_of_usable (hVain : ∀ other ∈ vain, ¬Usable other) (hDraw : Usable draw)
    (rest : List Bytes) (requests : List Nat) :
    drawPrivate ⟨vain ++ draw :: rest, requests⟩ =
      (.ok (draw.toNat % modulus),
        ⟨rest, requests ++ List.replicate (vain.length + 1) ephemeralBytes⟩) := by
  induction vain generalizing requests with
  | nil => rw [List.nil_append, drawPrivate_cons, privateValue?_of_usable hDraw]; rfl
  | cons first vain ih =>
      rw [List.cons_append, drawPrivate_cons,
        privateValue?_of_not_usable (hVain first List.mem_cons_self)]
      dsimp only
      rw [ih (fun other hMem => hVain other (List.mem_cons_of_mem _ hMem)), append_replicate]
      rfl

/-- Without a usable draw the loop goes through the whole queue. -/
theorem drawPrivate_of_vain (hVain : ∀ draw ∈ queue, ¬Usable draw) (requests : List Nat) :
    drawPrivate ⟨queue, requests⟩ =
      (.halt .noEntropy,
        ⟨[], requests ++ List.replicate (queue.length + 1) ephemeralBytes⟩) := by
  induction queue generalizing requests with
  | nil => exact drawPrivate_nil requests
  | cons first queue ih =>
      rw [drawPrivate_cons, privateValue?_of_not_usable (hVain first List.mem_cons_self)]
      dsimp only
      rw [ih (fun other hMem => hVain other (List.mem_cons_of_mem _ hMem)), append_replicate]
      rfl

/-- The loop for a pair takes one private value, since its public value is never zero. -/
theorem drawPair_eq (source : RandomSource) :
    source.drawPair =
      (source.drawPrivate.1.map fun secret => ⟨secret, publicValue secret⟩,
        source.drawPrivate.2) := by
  rw [drawPair]
  split
  next hSecret => rw [hSecret]; rfl
  next secret next hSecret => rw [if_neg (publicValue_mod_ne_zero secret), hSecret]; rfl

end RandomSource

/-- Drawing from a queue is drawing from a source that gives its strings. -/
theorem drawPair_eq_source (queue : List Bytes) (requests : List Nat) :
    drawPair queue = ((RandomSource.drawPair ⟨queue, requests⟩).1,
      (RandomSource.drawPair ⟨queue, requests⟩).2.left) := by
  -- One pass over the strings, where the source has two loops: the outer one never turns again.
  induction queue generalizing requests with
  | nil => rw [RandomSource.drawPair_eq, RandomSource.drawPrivate_nil]; rfl
  | cons draw queue ih =>
      rw [RandomSource.drawPair_eq, RandomSource.drawPrivate_cons, drawPair]
      cases privateValue? draw with
      | none =>
          dsimp only
          rw [ih (requests ++ [ephemeralBytes]), RandomSource.drawPair_eq]
      | some secret =>
          dsimp only
          rw [if_neg (publicValue_mod_ne_zero secret)]
          rfl

namespace Client

theorem create_eq_createFrom (poolId : String) (queue : List Bytes) (requests : List Nat) :
    create poolId queue = ((createFrom poolId ⟨queue, requests⟩).1,
      (createFrom poolId ⟨queue, requests⟩).2.left) := by
  rw [create, createFrom, drawPair_eq_source queue requests]
  cases poolName poolId with
  | error interruption => rfl
  | ok pool =>
      dsimp only
      obtain ⟨outcome, next⟩ := RandomSource.drawPair ⟨queue, requests⟩
      cases outcome <;> rfl

/-- The client of a pool id with a name has what its source gives as a pair. -/
theorem createFrom_of_isPoolId (h : IsPoolId poolId pool) (source : RandomSource) :
    createFrom poolId source =
      (source.drawPrivate.1.map fun secret => ⟨pool, some ⟨secret, publicValue secret⟩⟩,
        source.drawPrivate.2) := by
  rw [createFrom, poolName_of_isPoolId h, RandomSource.drawPair_eq]
  cases source.drawPrivate.1 <;> rfl

theorem createFrom_of_not_isPoolId (h : ∀ pool, ¬IsPoolId poolId pool) (source : RandomSource) :
    createFrom poolId source = (.fail (.invalidPoolId poolId), source) := by
  rw [createFrom, poolName_eq_fail h]
  rfl

/-- A client of a pool asks for 128 bytes at a time until a string gives a private value, and takes
that one alone: its public value is not zero, so the outer loop has no second turn. Strings of 128
bytes that are not zero are taken as they are. Without a string that gives one the queue is used up,
and for a pool id without a name nothing is asked for. -/
theorem createFrom_requests (poolId : String) (queue : List Bytes) :
    create poolId queue =
        ((createFrom poolId ⟨queue, []⟩).1, (createFrom poolId ⟨queue, []⟩).2.left) ∧
      (∀ pool, IsPoolId poolId pool →
        (∀ vain draw rest, queue = vain ++ draw :: rest →
          (∀ other ∈ vain, ¬Usable other) → Usable draw →
          ∃ pair text, PairOf draw pair ∧
            RandomSource.drawPrivate ⟨queue, []⟩ =
              (.ok pair.secret, ⟨rest, List.replicate (vain.length + 1) 128⟩) ∧
            createFrom poolId ⟨queue, []⟩ =
              (.ok ⟨pool, some pair⟩, ⟨rest, List.replicate (vain.length + 1) 128⟩) ∧
            publicText ⟨pool, some pair⟩ = .ok text ∧
            Hex.toInt? text = some (pair.shared : Int) ∧
            (draw.length = 128 → pair.secret = draw.toNat)) ∧
        ((∀ draw ∈ queue, ¬Usable draw) →
          createFrom poolId ⟨queue, []⟩ =
            (.halt .noEntropy, ⟨[], List.replicate (queue.length + 1) 128⟩))) ∧
      (∀ draw : Bytes, draw.length = 128 → draw.toNat ≠ 0 → Usable draw) ∧
      ((∀ pool, ¬IsPoolId poolId pool) →
        ∃ failure, createFrom poolId ⟨queue, []⟩ = (.fail failure, ⟨queue, []⟩) ∧
          failure.Is .configuration) := by
  refine ⟨create_eq_createFrom poolId queue [], fun pool hPool => ⟨?_, ?_⟩, ?_, fun hNone => ?_⟩
  · rintro vain draw rest rfl hVain hDraw
    have hSecret := RandomSource.drawPrivate_of_usable hVain hDraw rest []
    refine ⟨_, _, pairOf_usable hDraw, hSecret, ?_, rfl, Hex.toInt?_ofNat _,
      toNat_mod_of_length⟩
    rw [createFrom_of_isPoolId hPool, hSecret]
    rfl
  · intro hVain
    rw [createFrom_of_isPoolId hPool, RandomSource.drawPrivate_of_vain hVain []]
    rfl
  · intro draw hLength hNonzero
    rwa [Usable, toNat_mod_of_length hLength]
  · exact ⟨_, createFrom_of_not_isPoolId hNone _, rfl, rfl⟩

/-- The second string is the first that gives a private value, and is read as it is. -/
theorem createFrom_requests_second :
    (∃ pair, pair.secret = Bytes.toNat (List.replicate 128 1) ∧
      createFrom "eu_P" ⟨[[0], List.replicate 128 1, [2]], []⟩ =
        (.ok ⟨"P", some pair⟩, ⟨[[2]], [128, 128]⟩)) ∧
      createFrom "eu_P" ⟨[[0], []], []⟩ = (.halt .noEntropy, ⟨[], [128, 128, 128]⟩) ∧
      ∃ failure, createFrom "_P" ⟨[[1]], []⟩ = (.fail failure, ⟨[[1]], []⟩) ∧
        failure.Is .configuration := by
  have hPool : IsPoolId "eu_P" "P" := ⟨"eu", by decide, by decide, by decide, by decide⟩
  have hNone (pool : String) : ¬IsPoolId "_P" pool := by
    intro h
    have hFail : poolName "_P" = .fail (.invalidPoolId "_P") := rfl
    nomatch hFail.symm.trans (poolName_of_isPoolId h)
  have hZero : ¬Usable [0] := by
    unfold Usable
    decide +kernel
  have hEmptyDraw : ¬Usable [] := by
    unfold Usable
    decide +kernel
  obtain ⟨-, hPair, hUsable, -⟩ := createFrom_requests "eu_P" [[0], List.replicate 128 1, [2]]
  obtain ⟨-, hEmpty, -, -⟩ := createFrom_requests "eu_P" [[0], []]
  obtain ⟨-, -, -, hRefused⟩ := createFrom_requests "_P" [[1]]
  refine ⟨?_, (hEmpty "P" hPool).2 ?_, hRefused hNone⟩
  · have hDraw : Usable (List.replicate 128 1) :=
      hUsable _ List.length_replicate (by decide +kernel)
    obtain ⟨pair, text, -, -, hMade, -, -, hSame⟩ :=
      (hPair "P" hPool).1 [[0]] (List.replicate 128 1) [[2]] rfl
        (fun draw hMem => List.mem_singleton.mp hMem ▸ hZero) hDraw
    exact ⟨pair, hSame List.length_replicate, hMade⟩
  · exact List.forall_mem_cons.mpr ⟨hZero, List.forall_mem_singleton.mpr hEmptyDraw⟩

end Client
end Srp
end ClientAuth
