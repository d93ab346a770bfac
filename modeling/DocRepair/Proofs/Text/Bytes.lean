import DocRepair.Text.Utf8

/-!
Bytes that have been decoded come back as they were.

Decoding cuts the bytes into well-formed sequences and single bytes that are carried as escapes.
Encoding writes each code point as the bytes it has been read from, because no well-formed sequence
stands for a surrogate, and only surrogates are escapes.
-/

namespace DocRepair

/-- A code point that has bytes in a file: a surrogate only if it carries a byte. -/
def CodePoint.IsWritable (c : CodePoint) : Prop :=
  c.isSurrogate = true → 0xDC80 ≤ c.val ∧ c.val ≤ 0xDCFF

def Text.HasBytes (t : Text) : Prop :=
  ∀ c ∈ t, c.IsWritable

namespace Utf8

/-- Continuation bytes, as numbers. -/
def IsTail (b : UInt8) : Prop := 0x80 ≤ b.toNat ∧ b.toNat ≤ 0xBF

theorem isTail_iff (b : UInt8) : isTail b = true ↔ IsTail b := by
  simp [isTail, IsTail, UInt8.le_iff_toNat_le]

/-- The well-formed sequences, with the numbers that they stand for. -/
inductive Spells (n : Nat) : List UInt8 → Prop
  | one {a : UInt8} (first : a.toNat < 0x80) (value : n = a.toNat) : Spells n [a]
  | two {a b : UInt8} (first : 0xC2 ≤ a.toNat ∧ a.toNat ≤ 0xDF) (second : IsTail b)
    (value : n = a.toNat % 0x20 * 0x40 + b.toNat % 0x40) : Spells n [a, b]
  | three {a b c : UInt8} (first : 0xE0 ≤ a.toNat ∧ a.toNat ≤ 0xEF)
    (second : IsTail b) (third : IsTail c)
    (shortest : a.toNat = 0xE0 → 0xA0 ≤ b.toNat) (scalar : a.toNat = 0xED → b.toNat ≤ 0x9F)
    (value : n = a.toNat % 0x10 * 0x1000 + b.toNat % 0x40 * 0x40 + c.toNat % 0x40) :
    Spells n [a, b, c]
  | four {a b c d : UInt8} (first : 0xF0 ≤ a.toNat ∧ a.toNat ≤ 0xF4)
    (second : IsTail b) (third : IsTail c) (fourth : IsTail d)
    (shortest : a.toNat = 0xF0 → 0x90 ≤ b.toNat) (bounded : a.toNat = 0xF4 → b.toNat ≤ 0x8F)
    (value : n = a.toNat % 8 * 0x40000 + b.toNat % 0x40 * 0x1000 + c.toNat % 0x40 * 0x40 +
      d.toNat % 0x40) : Spells n [a, b, c, d]

/-- A well-formed sequence stands for a scalar value. -/
theorem Spells.scalar {bytes : List UInt8} {n : Nat} (spells : Spells n bytes) :
    n < 0x110000 ∧ (n < 0xD800 ∨ 0xDFFF < n) := by
  cases spells with
  | one first value => omega
  | two first second value =>
    rw [IsTail] at second
    omega
  | three first second third shortest scalar value =>
    rw [IsTail] at second third
    omega
  | four first second third fourth shortest bounded value =>
    rw [IsTail] at second third fourth
    omega

/-- The bytes of a code point that is no surrogate, by the size of its number. -/
theorem encodeOne_scalar {c : CodePoint} (scalar : c.val < 0xD800 ∨ 0xDFFF < c.val) :
    encodeOne c =
      if c.val < 0x80 then [UInt8.ofNat c.val]
      else if c.val < 0x800 then
        [UInt8.ofNat (0xC0 + c.val / 0x40), UInt8.ofNat (0x80 + c.val % 0x40)]
      else if c.val < 0x10000 then
        [UInt8.ofNat (0xE0 + c.val / 0x1000), UInt8.ofNat (0x80 + c.val / 0x40 % 0x40),
          UInt8.ofNat (0x80 + c.val % 0x40)]
      else
        [UInt8.ofNat (0xF0 + c.val / 0x40000), UInt8.ofNat (0x80 + c.val / 0x1000 % 0x40),
          UInt8.ofNat (0x80 + c.val / 0x40 % 0x40), UInt8.ofNat (0x80 + c.val % 0x40)] := by
  have noEscape : c.byteEscape? = none := by
    rw [CodePoint.byteEscape?, if_neg (by omega)]
  rw [encodeOne, noEscape]

theorem ofNat_eq_of_toNat {n : Nat} {b : UInt8} (same : n = b.toNat) : UInt8.ofNat n = b := by
  rw [same, UInt8.ofNat_toNat]

theorem Spells.encodeOne_eq {bytes : List UInt8} {c : CodePoint} (spells : Spells c.val bytes) :
    encodeOne c = bytes := by
  rw [encodeOne_scalar spells.scalar.2]
  cases spells with
  | one first value => rw [if_pos (by omega), ofNat_eq_of_toNat value]
  | two first second value =>
    rw [IsTail] at second
    rw [if_neg (by omega), if_pos (by omega)]
    congr 2
    · exact ofNat_eq_of_toNat (by omega)
    · exact ofNat_eq_of_toNat (by omega)
  | three first second third shortest scalar value =>
    rw [IsTail] at second third
    rw [if_neg (by omega), if_neg (by omega), if_pos (by omega)]
    congr 3
    · exact ofNat_eq_of_toNat (by omega)
    · exact ofNat_eq_of_toNat (by omega)
    · exact ofNat_eq_of_toNat (by omega)
  | four first second third fourth shortest bounded value =>
    rw [IsTail] at second third fourth
    rw [if_neg (by omega), if_neg (by omega), if_neg (by omega)]
    congr 4
    · exact ofNat_eq_of_toNat (by omega)
    · exact ofNat_eq_of_toNat (by omega)
    · exact ofNat_eq_of_toNat (by omega)
    · exact ofNat_eq_of_toNat (by omega)

theorem val_ofNat {n : Nat} (inside : n < 0x110000) : (CodePoint.ofNat n).val = n := by
  rw [CodePoint.ofNat, dif_pos inside]

/-- What the first step of decoding says about the bytes. -/
inductive Step.Reads (bytes : List UInt8) : Step → Prop
  | scalar {c : CodePoint} {sequence after : List UInt8} (cut : bytes = sequence ++ after)
    (spells : Spells c.val sequence) : Reads bytes (.scalar c sequence.length)
  | invalid {first : UInt8} {after : List UInt8} {length : Nat} (cut : bytes = first :: after)
    (high : 0x80 ≤ first.toNat) : Reads bytes (.invalid length)

theorem Spells.reads {n : Nat} {sequence : List UInt8} (spells : Spells n sequence)
    (after : List UInt8) :
    Step.Reads (sequence ++ after) (.scalar (.ofNat n) sequence.length) :=
  .scalar rfl (by rw [val_ofNat spells.scalar.1]; exact spells)

/-- The range of the second byte depends on the first one: `low` is asked for after `short`, and
`high` after `long`. -/
theorem second_bounds {first b short long low high : UInt8} (tight : 0x80 ≤ low.toNat)
    (tight' : high.toNat ≤ 0xBF)
    (within : ((if first == short then low else 0x80) ≤ b &&
      b ≤ (if first == long then high else 0xBF)) = true) :
    IsTail b ∧ (first.toNat = short.toNat → low.toNat ≤ b.toNat) ∧
      (first.toNat = long.toNat → b.toNat ≤ high.toNat) := by
  simp only [Bool.and_eq_true, decide_eq_true_eq, UInt8.le_iff_toNat_le, beq_iff_eq,
    ← UInt8.toNat_inj] at within
  have least : (0x80 : UInt8).toNat = 0x80 := rfl
  have greatest : (0xBF : UInt8).toNat = 0xBF := rfl
  rw [IsTail]
  obtain ⟨below, above⟩ := within
  split at below <;> split at above <;> simp_all <;> omega

section

variable {first : UInt8} (rest : List UInt8)

theorem Step.Reads.refused (high : 0x80 ≤ first.toNat) (length : Nat) :
    (Step.invalid length).Reads (first :: rest) :=
  .invalid rfl high

/-- A first byte that asks for one more. -/
theorem reads_two (low : ¬first < 0x80) (lead : (0xC2 ≤ first && first ≤ 0xDF) = true) :
    (step first rest).Reads (first :: rest) := by
  have start : 0xC2 ≤ first.toNat ∧ first.toNat ≤ 0xDF := by
    simpa [UInt8.le_iff_toNat_le] using lead
  have high : 0x80 ≤ first.toNat := by omega
  rw [step.eq_def, if_neg low, if_pos lead]
  cases rest with
  | nil => exact .refused _ high 1
  | cons b rest =>
    simp only
    split
    · rename_i second
      exact Spells.reads (.two start ((isTail_iff b).mp second) rfl) rest
    · exact .refused _ high 1

/-- A first byte that asks for two more. -/
theorem reads_three (low : ¬first < 0x80) (longer : ¬(0xC2 ≤ first && first ≤ 0xDF) = true)
    (lead : (0xE0 ≤ first && first ≤ 0xEF) = true) :
    (step first rest).Reads (first :: rest) := by
  have start : 0xE0 ≤ first.toNat ∧ first.toNat ≤ 0xEF := by
    simpa [UInt8.le_iff_toNat_le] using lead
  have high : 0x80 ≤ first.toNat := by omega
  rw [step.eq_def, if_neg low, if_neg longer, if_pos lead]
  cases rest with
  | nil => exact .refused _ high 1
  | cons b rest =>
    simp only
    by_cases within : ((if first == 0xE0 then 0xA0 else 0x80) ≤ b &&
        b ≤ (if first == 0xED then 0x9F else 0xBF)) = true
    · obtain ⟨second, shortest, scalar⟩ := second_bounds (by decide) (by decide) within
      rw [if_pos within]
      cases rest with
      | nil => exact .refused _ high 2
      | cons c rest =>
        simp only
        split
        · rename_i third
          exact Spells.reads
            (.three start second ((isTail_iff c).mp third) shortest scalar rfl) rest
        · exact .refused _ high 2
    · rw [if_neg within]
      exact .refused _ high 1

/-- A first byte that asks for three more. -/
theorem reads_four (low : ¬first < 0x80) (longer : ¬(0xC2 ≤ first && first ≤ 0xDF) = true)
    (longer' : ¬(0xE0 ≤ first && first ≤ 0xEF) = true)
    (lead : (0xF0 ≤ first && first ≤ 0xF4) = true) :
    (step first rest).Reads (first :: rest) := by
  have start : 0xF0 ≤ first.toNat ∧ first.toNat ≤ 0xF4 := by
    simpa [UInt8.le_iff_toNat_le] using lead
  have high : 0x80 ≤ first.toNat := by omega
  rw [step.eq_def, if_neg low, if_neg longer, if_neg longer', if_pos lead]
  cases rest with
  | nil => exact .refused _ high 1
  | cons b rest =>
    simp only
    by_cases within : ((if first == 0xF0 then 0x90 else 0x80) ≤ b &&
        b ≤ (if first == 0xF4 then 0x8F else 0xBF)) = true
    · obtain ⟨second, shortest, bounded⟩ := second_bounds (by decide) (by decide) within
      rw [if_pos within]
      cases rest with
      | nil => exact .refused _ high 2
      | cons c rest =>
        simp only
        split
        · rename_i third
          cases rest with
          | nil => exact .refused _ high 3
          | cons d rest =>
            simp only
            split
            · rename_i fourth
              exact Spells.reads (.four start second ((isTail_iff c).mp third)
                ((isTail_iff d).mp fourth) shortest bounded rfl) rest
            · exact .refused _ high 3
        · exact .refused _ high 2
    · rw [if_neg within]
      exact .refused _ high 1

/-- A step reads a well-formed sequence, or it refuses a byte that is no code point alone. -/
theorem reads_step : (step first rest).Reads (first :: rest) := by
  by_cases low : first < 0x80
  · rw [step.eq_def, if_pos low]
    exact Spells.reads (.one (by simpa [UInt8.lt_iff_toNat_lt] using low) rfl) rest
  by_cases two : (0xC2 ≤ first && first ≤ 0xDF) = true
  · exact reads_two rest low two
  by_cases three : (0xE0 ≤ first && first ≤ 0xEF) = true
  · exact reads_three rest low two three
  by_cases four : (0xF0 ≤ first && first ≤ 0xF4) = true
  · exact reads_four rest low two three four
  · rw [step.eq_def, if_neg low, if_neg two, if_neg three, if_neg four]
    exact .refused _ (by simpa [UInt8.lt_iff_toNat_lt] using low) 1

end

/-! ### Whole files -/

theorem decodeFrom_drop (skip : Nat) (bytes : List UInt8) :
    decodeFrom skip bytes = decodeFrom 0 (bytes.drop skip) := by
  induction bytes generalizing skip with
  | nil => cases skip <;> simp [decodeFrom]
  | cons first rest ih =>
    cases skip with
    | zero => rfl
    | succ skip => rw [decodeFrom, ih, List.drop_succ_cons]

/-- A text that begins with what the bytes begin with. -/
inductive Decoded : List UInt8 → Text → Prop
  | nil : Decoded [] []
  | scalar {c : CodePoint} {sequence after : List UInt8} {t : Text}
    (spells : Spells c.val sequence) (rest : Decoded after t) :
    Decoded (sequence ++ after) (c :: t)
  | escape {first : UInt8} {after : List UInt8} {t : Text} (high : 0x80 ≤ first.toNat)
    (rest : Decoded after t) : Decoded (first :: after) (.ofByteEscape first :: t)

theorem Spells.length_pos {n : Nat} {sequence : List UInt8} (spells : Spells n sequence) :
    0 < sequence.length := by
  cases spells <;> simp

theorem decoded_decode (bytes : List UInt8) : Decoded bytes (decode bytes) := by
  induction total : bytes.length using Nat.strongRecOn generalizing bytes with
  | ind size ih =>
    cases bytes with
    | nil => exact .nil
    | cons first rest =>
      rw [decode, decodeFrom]
      have read : (step first rest).Reads (first :: rest) := reads_step rest
      generalize step first rest = outcome at read
      cases read with
      | @scalar c sequence after cut spells =>
        have some := spells.length_pos
        have later : decodeFrom (sequence.length - 1) rest = decode after := by
          rw [decode, decodeFrom_drop]
          have skipped := congrArg (List.drop sequence.length) cut
          rw [List.drop_left] at skipped
          rw [← skipped]
          obtain ⟨n, length⟩ := Nat.exists_eq_succ_of_ne_zero (Nat.ne_of_gt some)
          rw [length]
          rfl
        have shorter : after.length < size := by
          rw [← total, cut, List.length_append]
          omega
        simp only [later]
        rw [cut]
        exact .scalar spells (ih _ shorter after rfl)
      | @invalid _ _ _ cut high =>
        cases cut
        exact .escape high (ih _ (by simp [← total]) rest rfl)

theorem encodeOne_ofByteEscape {first : UInt8} (high : 0x80 ≤ first.toNat) :
    encodeOne (.ofByteEscape first) = [first] := by
  have bound := first.toNat_lt
  have escaped : (CodePoint.ofByteEscape first).byteEscape? = some first := by
    rw [CodePoint.byteEscape?, CodePoint.ofByteEscape, if_pos (by simp; omega)]
    exact congrArg some (ofNat_eq_of_toNat (by simp))
  rw [encodeOne, escaped]

/-- Bytes that have been decoded are encoded as they were. -/
theorem encode_decode (bytes : List UInt8) : encode (decode bytes) = bytes := by
  have decoded := decoded_decode bytes
  generalize decode bytes = t at decoded
  induction decoded with
  | nil => rfl
  | scalar spells rest ih => rw [encode, List.flatMap_cons, spells.encodeOne_eq, ← encode, ih]
  | escape high rest ih =>
    rw [encode, List.flatMap_cons, encodeOne_ofByteEscape high, ← encode, ih]
    rfl

/-- The only surrogates that come from bytes are escapes. -/
theorem hasBytes_decode (bytes : List UInt8) : (decode bytes).HasBytes := by
  have decoded := decoded_decode bytes
  generalize decode bytes = t at decoded
  induction decoded with
  | nil => simp [Text.HasBytes]
  | scalar spells rest ih =>
    refine List.forall_mem_cons.mpr ⟨fun surrogate => ?_, ih⟩
    have scalar := spells.scalar.2
    simp only [CodePoint.isSurrogate, Bool.and_eq_true, decide_eq_true_eq] at surrogate
    omega
  | @escape first _ _ high rest ih =>
    refine List.forall_mem_cons.mpr ⟨fun _ => ?_, ih⟩
    have bound := first.toNat_lt
    simp only [CodePoint.ofByteEscape]
    omega

/-- A text of code points that have bytes can be written. -/
theorem encodeStrict_of_hasBytes {t : Text} (writable : t.HasBytes) :
    encodeStrict t = .ok (encode t) := by
  have clean : ∀ offset, encodeErrorFrom? offset t = none := by
    induction t with
    | nil => exact fun _ => rfl
    | cons c rest ih =>
      intro offset
      obtain ⟨first, others⟩ := List.forall_mem_cons.mp writable
      have fits : ¬(c.isSurrogate && c.byteEscape?.isNone) = true := by
        rw [Bool.and_eq_true]
        rintro ⟨surrogate, none⟩
        have escape := first surrogate
        rw [CodePoint.byteEscape?, if_pos escape] at none
        cases none
      rw [encodeErrorFrom?, if_neg fits]
      exact ih others (offset + 1)
  rw [encodeStrict, clean 0]

end Utf8

end DocRepair
