/-
Bytes and text: the encodings `StreamReader` knows, and how it chooses one.

# The choice

A reader strips the preamble of the encoding it was given; failing that
it looks at the first bytes for the byte-order mark of any encoding, and
reads the rest in the encoding it finds (`detectEncoding`). The longer
marks are looked for first where one begins with another.

# The decoders

Bytes that are no text in the encoding, and lone surrogates, are read as
U+FFFD. UTF-8 is decoded by a machine that takes a byte at a time
(`Utf8`): it owes some bytes, and knows the range of the next one, so that
overlong forms and surrogates are refused where they begin. The UTF-16s
pair bytes and then repair surrogates (`repair`), UTF-32 takes four bytes
together.

# What they are used for

UTF-16LE undoes `Encoding.Unicode.GetBytes` on well-formed text
(`getString_unicode`), and no decoder makes more code units of its bytes
than its format allows: half of them, but for UTF-8, where a character of
one byte has one (`length_pairUp`, `length_utf32Decode`,
`Utf8.step_spec`).
-/
import Mathlib.Algebra.Order.Ring.Int
import SkillBuddy.DotNet.Text

namespace SkillBuddy.DotNet

-- ============================================================ surrogates

/-- `U+FFFD`, the replacement character. -/
def replacement : CodeUnit := 0xFFFD

/-- `char.IsHighSurrogate`. -/
def isHighSurrogate (u : CodeUnit) : Bool :=
  0xD800 ≤ u.toNat && u.toNat ≤ 0xDBFF

/-- `char.IsLowSurrogate`. -/
def isLowSurrogate (u : CodeUnit) : Bool :=
  0xDC00 ≤ u.toNat && u.toNat ≤ 0xDFFF

/-- Well-formed UTF-16: every surrogate is half of a pair. -/
def WellFormed : Str → Prop
  | [] => True
  | [u] => isHighSurrogate u = false ∧ isLowSurrogate u = false
  | u :: v :: rest =>
      if isHighSurrogate u then isLowSurrogate v = true ∧ WellFormed rest
      else isLowSurrogate u = false ∧ WellFormed (v :: rest)

/-- Lone surrogates become `U+FFFD`. -/
def repair : Str → Str
  | [] => []
  | [u] =>
      if isHighSurrogate u || isLowSurrogate u then [replacement] else [u]
  | u :: v :: rest =>
      if isHighSurrogate u then
        if isLowSurrogate v then u :: v :: repair rest
        else replacement :: repair (v :: rest)
      else if isLowSurrogate u then replacement :: repair (v :: rest)
      else u :: repair (v :: rest)

/-- The code units of a code point. -/
def unitsOf (codePoint : Nat) : Str :=
  if codePoint < 0x10000 then [UInt16.ofNat codePoint]
  else
    [UInt16.ofNat (0xD800 + (codePoint - 0x10000) / 0x400),
      UInt16.ofNat (0xDC00 + (codePoint - 0x10000) % 0x400)]

-- ================================================================ UTF-16

/-- The code unit of two bytes. -/
def pairBytes (low high : UInt8) : CodeUnit :=
  UInt16.ofNat (low.toNat + 256 * high.toNat)

/-- The low byte of a code unit. -/
def lowByte (u : CodeUnit) : UInt8 := UInt8.ofNat (u.toNat % 256)

/-- The high byte of a code unit. -/
def highByte (u : CodeUnit) : UInt8 := UInt8.ofNat (u.toNat / 256)

/-- The bytes of code units, the low byte first. -/
def littleEndian (s : Str) : List UInt8 :=
  s.flatMap fun u => [lowByte u, highByte u]

/-- `Encoding.Unicode.GetBytes(s)`. -/
def unicodeGetBytes (s : Str) : List UInt8 := littleEndian (repair s)

/-- Bytes paired up; a byte that is left over is no code unit. -/
def pairUp (pair : UInt8 → UInt8 → CodeUnit) : List UInt8 → Str
  | [] => []
  | [_] => [replacement]
  | a :: b :: rest => pair a b :: pairUp pair rest

-- ================================================================= UTF-8

/-- Where the UTF-8 decoder stands inside a character: how many bytes are
owed, the range of the next one, and the bits so far. -/
structure Utf8 where
  owed : Nat
  low : Nat
  high : Nat
  bits : Nat
  deriving DecidableEq, Repr

/-- A first byte: a whole character, or the start of a longer one. -/
def Utf8.first (b : UInt8) : Str ⊕ Utf8 :=
  let n := b.toNat
  if n ≤ 0x7F then .inl [UInt16.ofNat n]
  else if 0xC2 ≤ n ∧ n ≤ 0xDF then .inr ⟨1, 0x80, 0xBF, n - 0xC0⟩
  else if n = 0xE0 then .inr ⟨2, 0xA0, 0xBF, 0⟩
  else if n = 0xED then .inr ⟨2, 0x80, 0x9F, 0xD⟩
  else if 0xE1 ≤ n ∧ n ≤ 0xEF then .inr ⟨2, 0x80, 0xBF, n - 0xE0⟩
  else if n = 0xF0 then .inr ⟨3, 0x90, 0xBF, 0⟩
  else if 0xF1 ≤ n ∧ n ≤ 0xF3 then .inr ⟨3, 0x80, 0xBF, n - 0xF0⟩
  else if n = 0xF4 then .inr ⟨3, 0x80, 0x8F, 4⟩
  else .inl [replacement]

/-- A byte in a state: what it completes, and the state after it. A byte
that does not fit ends the character before it as `U+FFFD` and starts
anew. -/
def Utf8.step : Option Utf8 → UInt8 → Str × Option Utf8
  | none, b =>
      match first b with
      | .inl units => (units, none)
      | .inr state => ([], some state)
  | some state, b =>
      if state.low ≤ b.toNat ∧ b.toNat ≤ state.high then
        let bits := 64 * state.bits + b.toNat % 64
        if state.owed = 1 then (unitsOf bits, none)
        else ([], some ⟨state.owed - 1, 0x80, 0xBF, bits⟩)
      else
        match first b with
        | .inl units => (replacement :: units, none)
        | .inr state => ([replacement], some state)

/-- The text of bytes in UTF-8, from a state. -/
def Utf8.decode : Option Utf8 → List UInt8 → Str
  | none, [] => []
  | some _, [] => [replacement]
  | state, b :: bytes =>
      (step state b).1 ++ decode (step state b).2 bytes

-- ================================================================ UTF-32

/-- The text of a code point that UTF-32 names. -/
def utf32Units (codePoint : Nat) : Str :=
  if codePoint < 0xD800 ∨ 0xDFFF < codePoint ∧ codePoint < 0x110000 then
    unitsOf codePoint
  else [replacement]

/-- The text of bytes in UTF-32. -/
def utf32Decode (codePoint : UInt8 → UInt8 → UInt8 → UInt8 → Nat) :
    List UInt8 → Str
  | a :: b :: c :: d :: rest =>
      utf32Units (codePoint a b c d) ++ utf32Decode codePoint rest
  | [] => []
  | [_] | [_, _] | [_, _, _] => [replacement]

-- ============================================================= encodings

/-- The encodings a `StreamReader` may choose. -/
inductive Encoding where
  | unicode | bigEndianUnicode | utf8 | utf32 | bigEndianUtf32
  deriving DecidableEq, Repr

/-- `encoding.Preamble`. -/
def Encoding.preamble : Encoding → List UInt8
  | .unicode => [0xFF, 0xFE]
  | .bigEndianUnicode => [0xFE, 0xFF]
  | .utf8 => [0xEF, 0xBB, 0xBF]
  | .utf32 => [0xFF, 0xFE, 0, 0]
  | .bigEndianUtf32 => [0, 0, 0xFE, 0xFF]

/-- `encoding.GetString(bytes)`. -/
def Encoding.getString : Encoding → List UInt8 → Str
  | .unicode, bytes => repair (pairUp pairBytes bytes)
  | .bigEndianUnicode, bytes =>
      repair (pairUp (fun high low => pairBytes low high) bytes)
  | .utf8, bytes => Utf8.decode none bytes
  | .utf32, bytes => utf32Decode (fun a b c d =>
      a.toNat + 256 * (b.toNat + 256 * (c.toNat + 256 * d.toNat))) bytes
  | .bigEndianUtf32, bytes => utf32Decode (fun a b c d =>
      d.toNat + 256 * (c.toNat + 256 * (b.toNat + 256 * a.toNat))) bytes

/-- `StreamReader.DetectEncoding`: the encoding whose mark the bytes begin
with, and the bytes after it. -/
def detectEncoding : List UInt8 → Option (Encoding × List UInt8)
  | 0xFE :: 0xFF :: rest => some (.bigEndianUnicode, rest)
  | 0xFF :: 0xFE :: 0 :: 0 :: rest => some (.utf32, rest)
  | 0xFF :: 0xFE :: rest => some (.unicode, rest)
  | 0xEF :: 0xBB :: 0xBF :: rest => some (.utf8, rest)
  | 0 :: 0 :: 0xFE :: 0xFF :: rest => some (.bigEndianUtf32, rest)
  | _ => none

/-- `new StreamReader(stream, encoding).ReadToEnd()`: the preamble of the
encoding itself is looked for first, and ends the detection. -/
def streamReaderReadToEnd (encoding : Encoding) (bytes : List UInt8) : Str :=
  if encoding.preamble.isPrefixOf bytes then
    encoding.getString (bytes.drop encoding.preamble.length)
  else
    match detectEncoding bytes with
    | some (detected, rest) => detected.getString rest
    | none => encoding.getString bytes

-- =============================================== UTF-16LE there and back

@[simp] theorem littleEndian_nil : littleEndian [] = [] := rfl

@[simp] theorem littleEndian_cons (u : CodeUnit) (s : Str) :
    littleEndian (u :: s) = lowByte u :: highByte u :: littleEndian s := rfl

@[simp] theorem littleEndian_append (s t : Str) :
    littleEndian (s ++ t) = littleEndian s ++ littleEndian t :=
  List.flatMap_append

/-- A code unit has two bytes. -/
theorem length_littleEndian (s : Str) :
    (littleEndian s).length = 2 * s.length := by
  induction s with
  | nil => rfl
  | cons u s ih =>
      simp only [littleEndian_cons, List.length_cons, ih]
      omega

/-- A code unit is its two bytes. -/
theorem pairBytes_bytes (u : CodeUnit) :
    pairBytes (lowByte u) (highByte u) = u := by
  have hu := u.toNat_lt
  have hlow : (lowByte u).toNat = u.toNat % 256 := by
    rw [lowByte, UInt8.toNat_ofNat']
    omega
  have hhigh : (highByte u).toNat = u.toNat / 256 := by
    rw [highByte, UInt8.toNat_ofNat']
    omega
  rw [pairBytes, hlow, hhigh, Nat.mod_add_div, UInt16.ofNat_toNat]

/-- So pairing them gives the code units back. -/
theorem pairUp_littleEndian (s : Str) :
    pairUp pairBytes (littleEndian s) = s := by
  induction s with
  | nil => rfl
  | cons u s ih =>
      rw [littleEndian_cons, pairUp, pairBytes_bytes, ih]

/-- Well-formed text has nothing to repair. -/
theorem repair_of_wellFormed {s : Str} (h : WellFormed s) :
    repair s = s := by
  fun_induction repair s with
  | case1 => rfl
  | case2 u hu =>
      rw [WellFormed] at h
      rw [h.1, h.2] at hu
      cases hu
  | case3 u hu => rfl
  | case4 u v rest hu hv ih =>
      rw [WellFormed, if_pos hu] at h
      rw [ih h.2]
  | case5 u v rest hu hv ih =>
      rw [WellFormed, if_pos hu] at h
      exact absurd h.1 hv
  | case6 u v rest hu hv ih =>
      rw [WellFormed, if_neg hu] at h
      cases h.1.symm.trans hv
  | case7 u v rest hu hv ih =>
      rw [WellFormed, if_neg hu] at h
      rw [ih h.2]

/-- What follows a code unit that is no surrogate is well-formed. -/
theorem WellFormed.tail {u : CodeUnit} {s : Str}
    (hu : isHighSurrogate u = false) (h : WellFormed (u :: s)) :
    WellFormed s := by
  cases s with
  | nil => trivial
  | cons v rest =>
      rw [WellFormed, hu, if_neg Bool.false_ne_true] at h
      exact h.2

/-- `Encoding.Unicode` reads what it writes. -/
theorem getString_unicode {s : Str} (h : WellFormed s) :
    Encoding.unicode.getString (littleEndian s) = s := by
  rw [Encoding.getString, pairUp_littleEndian, repair_of_wellFormed h]

-- ===================================== how much text bytes can amount to

/-- A repaired surrogate takes the place of the lone one. -/
theorem length_repair (s : Str) : (repair s).length = s.length := by
  fun_induction repair s <;> simp_all

/-- A byte that is left over is one more. -/
theorem length_pairUp (pair : UInt8 → UInt8 → CodeUnit)
    (bytes : List UInt8) :
    (pairUp pair bytes).length = (bytes.length + 1) / 2 := by
  fun_induction pairUp pair bytes with
  | case1 => rfl
  | case2 => simp
  | case3 a b rest ih =>
      simp only [List.length_cons, ih]
      omega

/-- A code point has one code unit or two. -/
theorem length_unitsOf (codePoint : Nat) :
    (unitsOf codePoint).length ≤ 2 := by
  unfold unitsOf
  split
  · exact Nat.le_succ 1
  · exact Nat.le_refl 2

/-- UTF-32 makes at most two code units of four bytes. -/
theorem length_utf32Decode
    (codePoint : UInt8 → UInt8 → UInt8 → UInt8 → Nat)
    (bytes : List UInt8) :
    2 * (utf32Decode codePoint bytes).length ≤ bytes.length + 1 := by
  fun_induction utf32Decode codePoint bytes with
  | case1 a b c d rest ih =>
      have hunits : (utf32Units (codePoint a b c d)).length ≤ 2 := by
        unfold utf32Units
        split
        · exact length_unitsOf _
        · exact Nat.le_succ 1
      simp only [List.length_append, List.length_cons]
      omega
  | case2 => exact Nat.zero_le _
  | case3 | case4 | case5 =>
      simp only [List.length_cons, List.length_nil]
      omega

-- ========================================= what a byte of UTF-8 completes

/-- The bytes of characters of two to four bytes, and no others, are in
these bounds. -/
def Utf8.Inside (b : UInt8) : Prop := 0x80 ≤ b.toNat ∧ b.toNat ≤ 0xF4

/-- A state `k` bytes into a character: only characters of four bytes are
beyond 16 bits. -/
def Utf8.Within (k : Nat) : Option Utf8 → Prop
  | none => k = 0
  | some state =>
      1 ≤ k ∧ 1 ≤ state.owed ∧ 0x80 ≤ state.low ∧ state.high ≤ 0xBF
        ∧ (4 ≤ k + state.owed
          ∨ (state.bits + 1) * 64 ^ state.owed ≤ 0x10000)

/-- A first byte is a character of one byte or ill-formed, or starts a
longer one. -/
theorem Utf8.first_spec (b : UInt8) :
    (∃ u, first b = .inl [u] ∧ (u.toNat ≤ 0x7F ∨ u = replacement))
    ∨ ∃ state, first b = .inr state ∧ Inside b ∧ Within 1 (some state) := by
  have hb := b.toNat_lt
  unfold first Inside
  dsimp only
  split
  · next h =>
    refine Or.inl ⟨_, rfl, Or.inl ?_⟩
    rw [UInt16.toNat_ofNat']
    omega
  iterate 7
    split
    · refine Or.inr ⟨_, rfl, by omega, ?_⟩
      simp only [Within, Nat.reducePow]
      omega
  exact Or.inl ⟨_, rfl, Or.inr rfl⟩

/-- What a byte does: it completes a character of one byte or an
ill-formed one, or it goes on in a character, or completes one of at
least two bytes for each code unit. -/
theorem Utf8.step_spec {st : Option Utf8} {k : Nat} (hst : Within k st)
    (b : UInt8) :
    (∃ u units, (step st b).1 = u :: units
        ∧ (u.toNat ≤ 0x7F ∨ u = replacement))
    ∨ ((step st b).1 = [] ∧ Inside b ∧ Within (k + 1) (step st b).2)
    ∨ (2 * (step st b).1.length ≤ k + 1 ∧ Inside b
        ∧ (step st b).2 = none) := by
  cases st with
  | none =>
      obtain rfl : k = 0 := hst
      rcases first_spec b with ⟨u, hu, hsmall⟩ | ⟨state, hstate, hb, hw⟩
      · refine Or.inl ⟨u, [], ?_, hsmall⟩
        rw [step, hu]
      · refine Or.inr (Or.inl ?_)
        rw [step, hstate]
        exact ⟨rfl, hb, hw⟩
  | some state =>
      obtain ⟨hk, howed, hlow, hhigh, hbits⟩ := hst
      rw [step]
      split
      · next hrange =>
        have hb : Inside b := ⟨hlow.trans hrange.1, by omega⟩
        dsimp only
        split
        · next hlast =>
          refine Or.inr (Or.inr ⟨?_, hb, rfl⟩)
          rw [hlast] at hbits
          rcases hbits with hfour | hsmall
          · have := length_unitsOf (64 * state.bits + b.toNat % 64)
            dsimp only
            omega
          · have hmod := Nat.mod_lt b.toNat (show 0 < 64 by decide)
            rw [Nat.pow_one] at hsmall
            rw [unitsOf, if_pos (by omega)]
            simp only [List.length_singleton]
            omega
        · next hmore =>
          refine Or.inr (Or.inl ⟨rfl, hb, ?_⟩)
          obtain ⟨m, hm⟩ : ∃ m, state.owed = m + 2 :=
            ⟨state.owed - 2, by omega⟩
          rw [hm] at hbits
          refine ⟨by omega, by dsimp only; omega, Nat.le_refl _,
            Nat.le_refl _, ?_⟩
          dsimp only
          rw [hm, show m + 2 - 1 = m + 1 from rfl]
          rcases hbits with hfour | hsmall
          · exact Or.inl (by omega)
          · refine Or.inr (le_trans ?_ hsmall)
            have hmod := Nat.mod_lt b.toNat (show 0 < 64 by decide)
            calc (64 * state.bits + b.toNat % 64 + 1) * 64 ^ (m + 1)
                ≤ (64 * (state.bits + 1)) * 64 ^ (m + 1) :=
                  Nat.mul_le_mul_right _ (by omega)
              _ = (state.bits + 1) * 64 ^ (m + 2) := by
                  rw [Nat.pow_succ 64 (m + 1)]
                  ac_rfl
      · have hrep : ∃ units, (match first b with
            | .inl units => (replacement :: units, none)
            | .inr state => ([replacement], some state)
              : Str × Option Utf8).1 = replacement :: units := by
          rcases first_spec b with ⟨u, hu, -⟩ | ⟨state, hstate, -⟩
          · exact ⟨[u], by rw [hu]⟩
          · exact ⟨[], by rw [hstate]⟩
        obtain ⟨units, hunits⟩ := hrep
        exact Or.inl ⟨replacement, units, hunits, Or.inr rfl⟩

end SkillBuddy.DotNet
