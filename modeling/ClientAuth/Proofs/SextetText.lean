import ClientAuth.Base64

/-! Base64 read back. Main statement: the strict reader takes every text that the writer
writes and gives its bytes, whatever their number. -/
namespace ClientAuth.Base64

/-- The sextets of a byte string, the last one filled up with zero bits. -/
def sextets : Bytes → List Nat
  | [] => []
  | [a] => [a.toNat / 4, a.toNat % 4 * 16]
  | [a, b] => [a.toNat / 4, a.toNat % 4 * 16 + b.toNat / 16, b.toNat % 16 * 4]
  | a :: b :: c :: rest =>
      a.toNat / 4 :: (a.toNat % 4 * 16 + b.toNat / 16) :: (b.toNat % 16 * 4 + c.toNat / 64) ::
        c.toNat % 64 :: sextets rest

/-- The padding after a byte string, in characters. -/
def paddingCount (bytes : Bytes) : Nat := (3 - bytes.length % 3) % 3

theorem encodeChars_eq (bytes : Bytes) :
    encodeChars bytes =
      (sextets bytes).map symbol ++ List.replicate (paddingCount bytes) '=' := by
  fun_induction encodeChars bytes with
  | case1 => rfl
  | case2 a => rfl
  | case3 a b => rfl
  | case4 a b c rest ih =>
      have hCount : paddingCount (a :: b :: c :: rest) = paddingCount rest := by
        simp only [paddingCount, List.length_cons]
        omega
      rw [hCount, ih]
      rfl

theorem sextets_lt (bytes : Bytes) : ∀ value ∈ sextets bytes, value < 64 := by
  fun_induction sextets bytes with
  | case1 => simp
  | case2 a =>
      have := a.toNat_lt
      simp only [List.forall_mem_cons]
      grind
  | case3 a b =>
      have := a.toNat_lt
      have := b.toNat_lt
      simp only [List.forall_mem_cons]
      grind
  | case4 a b c rest ih =>
      have := a.toNat_lt
      have := b.toNat_lt
      have := c.toNat_lt
      simp only [List.forall_mem_cons]
      refine ⟨by omega, by omega, by omega, by omega, ih⟩

/-- Sextets are joined to the bytes that they come from. -/
theorem join_sextets (bytes : Bytes) : join (sextets bytes) = bytes := by
  fun_induction sextets bytes with
  | case1 => rfl
  | case2 a =>
      have := a.toNat_lt
      have hFirst : a.toNat / 4 * 4 + a.toNat % 4 * 16 / 16 = a.toNat := by omega
      simp only [join, hFirst, UInt8.ofNat_toNat]
  | case3 a b =>
      have := a.toNat_lt
      have := b.toNat_lt
      have hFirst : a.toNat / 4 * 4 + (a.toNat % 4 * 16 + b.toNat / 16) / 16 = a.toNat := by omega
      have hSecond :
          (a.toNat % 4 * 16 + b.toNat / 16) % 16 * 16 + b.toNat % 16 * 4 / 4 = b.toNat := by
        omega
      simp only [join, hFirst, hSecond, UInt8.ofNat_toNat]
  | case4 a b c rest ih =>
      have := a.toNat_lt
      have := b.toNat_lt
      have := c.toNat_lt
      have hFirst : a.toNat / 4 * 4 + (a.toNat % 4 * 16 + b.toNat / 16) / 16 = a.toNat := by omega
      have hSecond : (a.toNat % 4 * 16 + b.toNat / 16) % 16 * 16 +
          (b.toNat % 16 * 4 + c.toNat / 64) / 4 = b.toNat := by
        omega
      have hThird : (b.toNat % 16 * 4 + c.toNat / 64) % 4 * 64 + c.toNat % 64 = c.toNat := by omega
      simp only [join, hFirst, hSecond, hThird, UInt8.ofNat_toNat, ih]

theorem length_sextets (bytes : Bytes) :
    (sextets bytes).length + paddingCount bytes = (bytes.length + 2) / 3 * 4 := by
  have hLength := length_encodeChars bytes
  rw [encodeChars_eq] at hLength
  simpa using hLength

/-- The alphabet is read back. -/
theorem sextet?_symbol {value : Nat} (h : value < 64) : sextet? (symbol value) = some value := by
  revert value
  decide

theorem symbol_ne_padding {value : Nat} (h : value < 64) : symbol value ≠ '=' := by
  revert value
  decide

theorem mapM_sextet?_symbol {values : List Nat} (h : ∀ value ∈ values, value < 64) :
    (values.map symbol).mapM sextet? = some values := by
  induction values with
  | nil => rfl
  | cons value rest ih =>
      rw [List.forall_mem_cons] at h
      simp [sextet?_symbol h.1, ih h.2]

/-- Written bytes are read as themselves. -/
theorem decode?_encode (bytes : Bytes) : decode? (encode bytes) = some bytes := by
  have hSymbols : ∀ c ∈ (sextets bytes).map symbol, decide (c ≠ '=') = true := by
    intro c hMem
    obtain ⟨value, hValue, rfl⟩ := List.mem_map.mp hMem
    exact decide_eq_true (symbol_ne_padding (sextets_lt bytes value hValue))
  have hData : (encodeChars bytes).takeWhile (· ≠ '=') = (sextets bytes).map symbol := by
    rw [encodeChars_eq, List.takeWhile_append_of_pos hSymbols]
    simp
  have hPadding : (encodeChars bytes).dropWhile (· ≠ '=') =
      List.replicate (paddingCount bytes) '=' := by
    rw [encodeChars_eq, List.dropWhile_append_of_pos hSymbols]
    simp
  have hFits : paddingFits (sextets bytes).length (paddingCount bytes) = true := by
    have hLength := length_sextets bytes
    have hCount : paddingCount bytes < 3 := Nat.mod_lt _ (by decide)
    rw [paddingFits]
    split
    next hWhole =>
      simp only [Bool.or_eq_true, decide_eq_true_eq]
      omega
    next hOpen =>
      simp only [Bool.and_eq_true, decide_eq_true_eq]
      omega
  rw [decode?, encode, String.toList_ofList]
  simp only [hData, hPadding, List.length_map, List.length_replicate, hFits,
    mapM_sextet?_symbol (sextets_lt bytes), Option.map_some, join_sextets]
  simp

/-- Bytes are written as no empty text. -/
theorem encode_ne_empty {bytes : Bytes} (h : bytes ≠ []) : encode bytes ≠ "" := by
  intro hEmpty
  have hBytes := decode?_encode bytes
  rw [hEmpty, decode?_empty, Option.some.injEq] at hBytes
  exact h hBytes.symm

end ClientAuth.Base64
