/-
Whatever bytes a decoder is given, the text it makes is well-formed.

A text is well-formed if every high surrogate is followed by a low one and
every low one follows a high one. Well-formed texts behind each other are
well-formed (`WellFormed.append`), so for a decoder it is enough to look
at what one step makes.

# Repairing

The UTF-16s put U+FFFD in the place of every surrogate without its
partner, and what they leave is well-formed (`wellFormed_repair`). UTF-32
makes U+FFFD of everything that is no code point of text, and a code
point of text becomes a unit or a pair (`wellFormed_unitsOf`).

# UTF-8

UTF-8 needs an invariant: in the middle of a character (`Utf8.Clear`) the
bytes still owed can complete no code point that is a surrogate or beyond
U+10FFFF. A first byte establishes it by the range it gives the second
(`Utf8.first_clear`), a byte in that range keeps it (`Utf8.clear_next`),
and a byte outside makes U+FFFD of what came before and is looked at
again. So every step makes well-formed text and leaves a clear state
(`Utf8.step_clear`), and by induction on the bytes so does the whole.
-/
import SkillBuddy.DotNet.Encoding

namespace SkillBuddy.DotNet

-- ============================================ how texts are put together

@[simp] theorem wellFormed_nil : WellFormed [] := trivial

/-- A code unit that is no surrogate leaves the rest as it is. -/
theorem wellFormed_cons {u : CodeUnit} (hhigh : isHighSurrogate u = false)
    (hlow : isLowSurrogate u = false) {s : Str} :
    WellFormed (u :: s) ↔ WellFormed s := by
  refine ⟨WellFormed.tail hhigh, fun h => ?_⟩
  cases s with
  | nil => exact ⟨hhigh, hlow⟩
  | cons v rest =>
      rw [WellFormed, hhigh, if_neg Bool.false_ne_true]
      exact ⟨hlow, h⟩

/-- A pair leaves the rest as it is. -/
theorem wellFormed_pair {u v : CodeUnit} (hu : isHighSurrogate u = true)
    (hv : isLowSurrogate v = true) {s : Str} :
    WellFormed (u :: v :: s) ↔ WellFormed s := by
  rw [WellFormed, if_pos hu]
  exact ⟨And.right, And.intro hv⟩

/-- U+FFFD is no surrogate. -/
theorem wellFormed_replacement_cons {s : Str} :
    WellFormed (replacement :: s) ↔ WellFormed s :=
  wellFormed_cons rfl rfl

theorem wellFormed_replacement : WellFormed [replacement] :=
  wellFormed_replacement_cons.mpr wellFormed_nil

/-- Well-formed texts one behind the other. By induction on the first, a
pair at a time. -/
theorem WellFormed.append {s t : Str} (hs : WellFormed s)
    (ht : WellFormed t) : WellFormed (s ++ t) := by
  fun_induction WellFormed s with
  | case1 => exact ht
  | case2 u => exact (wellFormed_cons hs.1 hs.2).mpr ht
  | case3 u v rest hu ih =>
      rw [List.cons_append, List.cons_append, wellFormed_pair hu hs.1]
      exact ih hs.2
  | case4 u v rest hu ih =>
      rw [List.cons_append, wellFormed_cons (Bool.eq_false_iff.mpr hu) hs.1]
      exact ih hs.2

-- ============================================================ the repair

/-- Repaired text is well-formed. The cases are those of `repair`: a pair is
kept, a surrogate without its partner replaced, anything else kept. -/
theorem wellFormed_repair (s : Str) : WellFormed (repair s) := by
  fun_induction repair s with
  | case1 => exact wellFormed_nil
  | case2 u hu => exact wellFormed_replacement
  | case3 u hu =>
      rw [Bool.or_eq_true, not_or, Bool.not_eq_true, Bool.not_eq_true] at hu
      exact hu
  | case4 u v rest hu hv ih => exact (wellFormed_pair hu hv).mpr ih
  | case5 u v rest hu hv ih => exact wellFormed_replacement_cons.mpr ih
  | case6 u v rest hu hlow ih => exact wellFormed_replacement_cons.mpr ih
  | case7 u v rest hu hlow ih =>
      exact (wellFormed_cons (Bool.eq_false_iff.mpr hu)
        (Bool.eq_false_iff.mpr hlow)).mpr ih

/-- So repairing again changes nothing. -/
theorem repair_repair (s : Str) : repair (repair s) = repair s :=
  repair_of_wellFormed (wellFormed_repair s)

-- =========================================================== code points

/-- The code points that text can be made of: no surrogate, and at most
U+10FFFF. -/
def IsScalar (codePoint : Nat) : Prop :=
  codePoint < 0xD800 ∨ 0xDFFF < codePoint ∧ codePoint < 0x110000

/-- The units of a code point of text are well-formed. -/
theorem wellFormed_unitsOf {codePoint : Nat} (h : IsScalar codePoint) :
    WellFormed (unitsOf codePoint) := by
  unfold IsScalar at h
  have hnat : ∀ n, n < 0x10000 → (UInt16.ofNat n).toNat = n := by
    intro n hn
    rw [UInt16.toNat_ofNat']
    exact Nat.mod_eq_of_lt hn
  unfold unitsOf
  split
  · next hsmall =>
    have hhigh : isHighSurrogate (UInt16.ofNat codePoint) = false := by
      unfold isHighSurrogate
      rw [hnat _ hsmall, Bool.and_eq_false_iff, decide_eq_false_iff_not,
        decide_eq_false_iff_not]
      omega
    have hlow : isLowSurrogate (UInt16.ofNat codePoint) = false := by
      unfold isLowSurrogate
      rw [hnat _ hsmall, Bool.and_eq_false_iff, decide_eq_false_iff_not,
        decide_eq_false_iff_not]
      omega
    exact ⟨hhigh, hlow⟩
  · next hlarge =>
    have hhigh : isHighSurrogate
        (UInt16.ofNat (0xD800 + (codePoint - 0x10000) / 0x400)) = true := by
      unfold isHighSurrogate
      rw [hnat _ (by omega), Bool.and_eq_true, decide_eq_true_eq,
        decide_eq_true_eq]
      omega
    have hlow : isLowSurrogate
        (UInt16.ofNat (0xDC00 + (codePoint - 0x10000) % 0x400)) = true := by
      unfold isLowSurrogate
      rw [hnat _ (by omega), Bool.and_eq_true, decide_eq_true_eq,
        decide_eq_true_eq]
      omega
    exact (wellFormed_pair hhigh hlow).mpr wellFormed_nil

-- ================================================================= UTF-8

/-- In the middle of a character, whatever bytes complete it: what they
complete is a code point of text. -/
def Utf8.Clear (state : Utf8) : Prop :=
  1 ≤ state.owed ∧ 0x80 ≤ state.low ∧ state.high ≤ 0xBF
    ∧ ((64 * state.bits + (state.high - 0x80) + 1) * 64 ^ (state.owed - 1)
        ≤ 0xD800
      ∨ (0xE000 ≤ (64 * state.bits + (state.low - 0x80))
            * 64 ^ (state.owed - 1)
        ∧ (64 * state.bits + (state.high - 0x80) + 1)
            * 64 ^ (state.owed - 1) ≤ 0x110000))

/-- A first byte is well-formed by itself, or leaves a clear state. -/
theorem Utf8.first_clear (b : UInt8) :
    (∃ units, first b = .inl units ∧ WellFormed units)
    ∨ ∃ state, first b = .inr state ∧ Clear state := by
  have hb := b.toNat_lt
  unfold first
  dsimp only
  split
  · next h =>
    refine Or.inl ⟨_, rfl, ?_⟩
    have hunits := wellFormed_unitsOf
      (show IsScalar b.toNat from Or.inl (by omega))
    rwa [unitsOf, if_pos (by omega)] at hunits
  iterate 7
    split
    · refine Or.inr ⟨_, rfl, ?_⟩
      simp only [Clear, Nat.reducePow, Nat.reduceSub]
      omega
  exact Or.inl ⟨_, rfl, wellFormed_replacement⟩

/-- A byte that fits completes a code point of text, or leaves the state
after it clear. The bits gathered so far bound what the bytes still owed
can make of them. -/
theorem Utf8.clear_next {state : Utf8} (h : Clear state) {b : UInt8}
    (hlow : state.low ≤ b.toNat) (hhigh : b.toNat ≤ state.high) :
    (state.owed = 1 → IsScalar (64 * state.bits + b.toNat % 64))
    ∧ (state.owed ≠ 1 → Clear ⟨state.owed - 1, 0x80, 0xBF,
        64 * state.bits + b.toNat % 64⟩) := by
  obtain ⟨howed, hlow', hhigh', hrange⟩ := h
  have hmod : b.toNat % 64 = b.toNat - 0x80 := by omega
  constructor
  · intro hlast
    rw [hlast] at hrange
    unfold IsScalar
    omega
  · intro hmore
    obtain ⟨m, hm⟩ : ∃ m, state.owed = m + 2 :=
      ⟨state.owed - 2, by omega⟩
    rw [hm, show m + 2 - 1 = m + 1 from rfl] at hrange
    -- the bytes owed scale the range of this one by a power of 64
    have hle : (64 * state.bits + b.toNat % 64 + 1) * 64 ^ (m + 1)
        ≤ (64 * state.bits + (state.high - 0x80) + 1) * 64 ^ (m + 1) :=
      Nat.mul_le_mul_right _ (by omega)
    have hge : (64 * state.bits + (state.low - 0x80)) * 64 ^ (m + 1)
        ≤ (64 * state.bits + b.toNat % 64) * 64 ^ (m + 1) :=
      Nat.mul_le_mul_right _ (by omega)
    have hscale : ∀ n, 64 * n * 64 ^ m = n * 64 ^ (m + 1) := by
      intro n
      rw [Nat.pow_succ 64 m]
      ac_rfl
    have hmax : 64 * (64 * state.bits + b.toNat % 64) + (0xBF - 0x80) + 1
        = 64 * (64 * state.bits + b.toNat % 64 + 1) := by omega
    have hmin : 64 * (64 * state.bits + b.toNat % 64) + (0x80 - 0x80)
        = 64 * (64 * state.bits + b.toNat % 64) := by omega
    refine ⟨by dsimp only; omega, Nat.le_refl _, Nat.le_refl _, ?_⟩
    dsimp only
    rw [hm, show m + 2 - 1 - 1 = m from rfl, hmax, hmin, hscale, hscale]
    rcases hrange with hbelow | ⟨habove, hbound⟩
    · exact Or.inl (hle.trans hbelow)
    · exact Or.inr ⟨habove.trans hge, hle.trans hbound⟩

/-- What a byte makes is well-formed, and the state after it is clear. -/
theorem Utf8.step_clear {st : Option Utf8} (hst : ∀ s ∈ st, Clear s)
    (b : UInt8) :
    WellFormed (step st b).1 ∧ ∀ s ∈ (step st b).2, Clear s := by
  cases st with
  | none =>
      rw [step]
      rcases first_clear b with ⟨units, hunits, h⟩ | ⟨state, hstate, h⟩
      · rw [hunits]
        exact ⟨h, fun s hs => by cases hs⟩
      · rw [hstate]
        refine ⟨wellFormed_nil, fun s hs => ?_⟩
        obtain rfl := Option.some.inj hs
        exact h
  | some state =>
      have hnext := @clear_next state (hst state rfl) b
      rw [step]
      split
      · next hrange =>
        obtain ⟨hlast, hmore⟩ := hnext hrange.1 hrange.2
        dsimp only
        split
        · next h1 =>
          exact ⟨wellFormed_unitsOf (hlast h1), fun s hs => by cases hs⟩
        · next h1 =>
          refine ⟨wellFormed_nil, fun s hs => ?_⟩
          obtain rfl := Option.some.inj hs
          exact hmore h1
      · rcases first_clear b with ⟨units, hunits, h⟩ | ⟨state, hstate, h⟩
        · rw [hunits]
          exact ⟨wellFormed_replacement_cons.mpr h,
            fun s hs => by cases hs⟩
        · rw [hstate]
          refine ⟨wellFormed_replacement, fun s hs => ?_⟩
          obtain rfl := Option.some.inj hs
          exact h

/-- In whatever clear state it begins, the decoder makes well-formed
text. -/
theorem Utf8.wellFormed_decode {st : Option Utf8} (hst : ∀ s ∈ st, Clear s)
    (bytes : List UInt8) : WellFormed (decode st bytes) := by
  induction bytes generalizing st with
  | nil =>
      cases st with
      | none => exact wellFormed_nil
      | some state => exact wellFormed_replacement
  | cons b bytes ih =>
      obtain ⟨hunits, hclear⟩ := step_clear hst b
      rw [decode]
      exact hunits.append (ih hclear)

-- ==================================================== UTF-32, the reader

/-- UTF-32 in both byte orders; bytes that are left over are replaced. -/
theorem wellFormed_utf32Decode
    (codePoint : UInt8 → UInt8 → UInt8 → UInt8 → Nat)
    (bytes : List UInt8) : WellFormed (utf32Decode codePoint bytes) := by
  fun_induction utf32Decode codePoint bytes with
  | case1 a b c d rest ih =>
      refine WellFormed.append ?_ ih
      unfold utf32Units
      split
      · next h => exact wellFormed_unitsOf h
      · exact wellFormed_replacement
  | case2 => exact wellFormed_nil
  | case3 | case4 | case5 => exact wellFormed_replacement

/-- Every encoding makes well-formed text, of any bytes. -/
theorem wellFormed_getString (encoding : Encoding) (bytes : List UInt8) :
    WellFormed (encoding.getString bytes) := by
  cases encoding with
  | unicode => exact wellFormed_repair _
  | bigEndianUnicode => exact wellFormed_repair _
  | utf8 => exact Utf8.wellFormed_decode (fun s hs => by cases hs) bytes
  | utf32 => exact wellFormed_utf32Decode _ bytes
  | bigEndianUtf32 => exact wellFormed_utf32Decode _ bytes

/-- Whichever encoding it settles on, a `StreamReader` reads well-formed
text. -/
theorem wellFormed_readToEnd (encoding : Encoding) (bytes : List UInt8) :
    WellFormed (streamReaderReadToEnd encoding bytes) := by
  unfold streamReaderReadToEnd
  split
  · exact wellFormed_getString _ _
  · split
    · exact wellFormed_getString _ _
    · exact wellFormed_getString _ _

end SkillBuddy.DotNet
