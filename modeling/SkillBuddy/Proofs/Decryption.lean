/-
`Decrypt` after `Encrypt`.

# What cancels

Base64, the repair of spaces and AES cancel (`decryptInternal_encrypt`):
what is left is the text layer, UTF-16LE bytes without a mark on one side
and a `StreamReader` that looks for marks on the other. If the bytes begin
with no mark the reader reads what was written
(`detectEncoding_of_unmarked`).

# What does not

If they do, the text that is read is another one. U+FEFF is taken for a
mark and dropped. The other marks select another encoding for what is
behind them, and in every one of these but UTF-8 the text is too short:
two bytes are gone with the mark, and of the rest they make no more code
units than it has pairs of bytes.

For UTF-8 the bytes would have to be their own encoding, mark included.
That cannot be (`utf8_ne_self`): up to the first character of one byte
every character has at least two bytes for each code unit, so the decoder
is always at least three bytes ahead of the text it has produced, and all
bytes it has read so far are between 80 and F4; but the next code unit is
made of such bytes, and no character of one byte is. The invariant is the
hypothesis of `utf8_ahead`, which follows the decoder byte by byte.

So `Decrypt` undoes `Encrypt` exactly for texts that begin with none of
the marks (`decrypt_undoes_encrypt_iff`).
-/
import SkillBuddy.Core.Cryptography

namespace SkillBuddy

open DotNet

-- =========================================================== the property

/-- The texts whose UTF-16LE bytes begin with a byte-order mark: U+FEFF
(FF FE), U+FFFE (FE FF), U+BBEF and a code unit with the low byte BF
(EF BB BF), and U+0000 U+FFFE (00 00 FE FF). -/
def BeginsWithMark (s : Str) : Prop :=
  s.head? = some 0xFEFF ∨ s.head? = some 0xFFFE
    ∨ (s.head? = some 0xBBEF ∧ s.tail.head?.map lowByte = some 0xBF)
    ∨ (s.head? = some 0 ∧ s.tail.head? = some 0xFFFE)

instance (s : Str) : Decidable (BeginsWithMark s) :=
  inferInstanceAs (Decidable (_ ∨ _))

/-- Every `+` turned into a space, as decoding a URL does. -/
def plusToSpaces (s : Str) : Str :=
  s.map fun u => if u = unit '+' then unit ' ' else u

-- ======================================================== Base64 and AES

/-- A digit is its six bits, and neither a pad nor white space. -/
theorem base64Digit_spec : ∀ n, n < 64 →
    base64Value (base64Digit n) = some n ∧ base64Digit n ≠ unit '='
      ∧ isBase64Space (base64Digit n) = false := by
  decide

/-- Base64 contains no white space. -/
theorem isBase64Space_of_mem {bytes : List UInt8} {u : CodeUnit}
    (h : u ∈ toBase64String bytes) : isBase64Space u = false := by
  rcases Lib.Base64.mem_encode h with rfl | ⟨n, hn, rfl⟩
  · decide
  · exact (base64Digit_spec n hn).2.2

/-- Base64 gives the bytes back, by the library's law for its digits. -/
theorem fromBase64String_toBase64String (bytes : List UInt8) :
    fromBase64String (toBase64String bytes) = .ok bytes := by
  have hfilter : (toBase64String bytes).filter (fun u => !isBase64Space u)
      = toBase64String bytes := by
    refine List.filter_eq_self.mpr fun u hu => ?_
    rw [isBase64Space_of_mem hu]
    rfl
  rw [fromBase64String, hfilter, toBase64String, Lib.Base64.decode_encode
    (fun n hn => (base64Digit_spec n hn).1)
    (fun n hn => (base64Digit_spec n hn).2.1)]

/-- Text without spaces is repaired, whether its `+` are spaces or not. That
is why Base64 survives a URL. -/
theorem spacesToPlus_of_notMem {s : Str} (h : unit ' ' ∉ s) :
    Platform.spacesToPlus s = s
      ∧ Platform.spacesToPlus (plusToSpaces s) = s := by
  unfold Platform.spacesToPlus plusToSpaces
  rw [List.map_map]
  constructor
  · refine (List.map_congr_left fun u hu => ?_).trans (List.map_id s)
    have hne : u ≠ unit ' ' := by
      intro hspace
      subst hspace
      exact h hu
    exact if_neg hne
  · refine (List.map_congr_left fun u hu => ?_).trans (List.map_id s)
    dsimp only [Function.comp_apply, id]
    by_cases hplus : u = unit '+'
    · rw [if_pos hplus, if_pos rfl, hplus]
    · rw [if_neg hplus]
      have hne : u ≠ unit ' ' := by
        intro hspace
        subst hspace
        exact h hu
      exact if_neg hne

/-- Everything but the text layer cancels. -/
theorem decryptInternal_encrypt {platform : Platform}
    (hplatform : platform.Lawful) (key : Str) (salt : List UInt8)
    {s : Str} (hs : WellFormed s) :
    platform.decryptInternal key salt (platform.encryptInternal key salt s)
        = .ok (streamReaderReadToEnd .unicode (littleEndian s))
    ∧ platform.decryptInternal key salt
        (plusToSpaces (platform.encryptInternal key salt s))
        = .ok (streamReaderReadToEnd .unicode (littleEndian s)) := by
  have hspace : unit ' ' ∉ platform.encryptInternal key salt s :=
    fun h => absurd (isBase64Space_of_mem h) (by decide)
  obtain ⟨hself, hplus⟩ := spacesToPlus_of_notMem hspace
  have hdecrypt : (do
      let encryptedData ← fromBase64String
        (platform.encryptInternal key salt s)
      let bytes ← platform.aesDecrypt (platform.aesKey key salt)
        (platform.aesIV key salt) encryptedData
      pure (streamReaderReadToEnd .unicode bytes))
      = Except.ok (streamReaderReadToEnd .unicode (littleEndian s)) := by
    rw [Platform.encryptInternal, fromBase64String_toBase64String]
    dsimp only [bind, Except.bind]
    rw [hplatform.decrypt_encrypt, unicodeGetBytes,
      repair_of_wellFormed hs]
    rfl
  unfold Platform.decryptInternal
  rw [hself, hplus]
  exact ⟨hdecrypt, hdecrypt⟩

-- ==================================================== text as its own mark

/-- The second byte of a code unit is among the first bytes of the text,
if these reach that far. -/
theorem highByte_mem {s t : Str} {u : CodeUnit} {pre bytes : List UInt8}
    (h : littleEndian (s ++ u :: t) = pre ++ bytes)
    (hlong : 2 * s.length + 1 < pre.length) : highByte u ∈ pre := by
  have hget := congrArg (·[2 * s.length + 1]?) h
  rw [littleEndian_append, List.getElem?_append_right
    (by rw [length_littleEndian]; omega), length_littleEndian,
    List.getElem?_append_left hlong] at hget
  rw [show 2 * s.length + 1 - 2 * s.length = 1 by omega] at hget
  exact List.mem_of_getElem? hget.symm

/-- The UTF-8 decoder does not catch up with its own bytes: `pre` has been
read, `s` produced, and the decoder stands `k` bytes into a character. By
induction on the bytes that are left. -/
theorem utf8_ahead {bytes : List UInt8} :
    ∀ {st : Option Utf8} {k : Nat} {pre : List UInt8} {s : Str},
      Utf8.Within k st → (∀ b ∈ pre, Utf8.Inside b) →
      2 * s.length + 3 + k ≤ pre.length →
      littleEndian (s ++ Utf8.decode st bytes) ≠ pre ++ bytes := by
  induction bytes with
  | nil =>
      intro st k pre s hst _ hlong h
      have hlength := congrArg List.length h
      rw [length_littleEndian, List.length_append, List.length_append]
        at hlength
      cases st with
      | none =>
          rw [Utf8.decode] at hlength
          simp only [List.length_nil] at hlength
          omega
      | some state =>
          rw [Utf8.decode] at hlength
          simp only [List.length_cons, List.length_nil] at hlength
          have hk := hst.1
          omega
  | cons b bytes ih =>
      intro st k pre s hst hpre hlong h
      have hpre' : ∀ b', Utf8.Inside b → b' ∈ pre ++ [b] →
          Utf8.Inside b' := by
        intro b' hb hb'
        rcases List.mem_append.mp hb' with hb' | hb'
        · exact hpre b' hb'
        · obtain rfl := List.mem_singleton.mp hb'
          exact hb
      rw [Utf8.decode, ← List.append_assoc] at h
      rcases Utf8.step_spec hst b with
        ⟨u, units, hstep, hu⟩ | ⟨hstep, hb, hst'⟩ | ⟨hstep, hb, hst'⟩
      · -- a character of one byte, or none at all: its high byte is 00 or FF
        rw [hstep, List.append_assoc, List.cons_append] at h
        have hmem := hpre _ (highByte_mem h (by omega))
        have hbounds : (highByte u).toNat < 0x80
            ∨ (highByte u).toNat = 0xFF := by
          rcases hu with hu | rfl
          · left
            rw [highByte, UInt8.toNat_ofNat']
            omega
          · exact Or.inr rfl
        unfold Utf8.Inside at hmem
        omega
      · rw [hstep, List.append_nil, List.append_cons] at h
        refine ih hst' (fun b' => hpre' b' hb) ?_ h
        rw [List.length_append, List.length_singleton]
        omega
      · rw [List.append_cons pre] at h
        rw [hst'] at h
        refine @ih none 0 _ _ rfl (fun b' => hpre' b' hb) ?_ h
        rw [List.length_append, List.length_append, List.length_singleton]
        omega

/-- No text is what its own bytes after the mark EF BB BF say in UTF-8. -/
theorem utf8_ne_self {s : Str} {bytes : List UInt8}
    (h : littleEndian s = 0xEF :: 0xBB :: 0xBF :: bytes) :
    Encoding.utf8.getString bytes ≠ s := by
  intro hself
  have hmark : ∀ b ∈ [(0xEF : UInt8), 0xBB, 0xBF], Utf8.Inside b := by
    rw [List.forall_mem_cons, List.forall_mem_cons,
      List.forall_mem_singleton]
    exact ⟨⟨by decide, by decide⟩, ⟨by decide, by decide⟩,
      by decide, by decide⟩
  refine @utf8_ahead bytes none 0 [0xEF, 0xBB, 0xBF] [] rfl hmark
    (Nat.le_refl 3) ?_
  rw [List.nil_append]
  exact (congrArg littleEndian hself).trans h

-- ============================================================ the reader

/-- Text by its first two bytes. -/
theorem exists_of_littleEndian {s : Str} {a b : UInt8}
    {bytes : List UInt8} (h : littleEndian s = a :: b :: bytes) :
    ∃ t, s = pairBytes a b :: t ∧ littleEndian t = bytes := by
  cases s with
  | nil => cases h
  | cons u t =>
      rw [littleEndian_cons] at h
      injection h with ha h
      injection h with hb h
      rw [← ha, ← hb, pairBytes_bytes]
      exact ⟨t, rfl, h⟩

/-- A mark that is detected takes its own code units away and makes no
more of the rest. One case for each mark. -/
theorem detected_ne_self {s : Str} {encoding : Encoding}
    {bytes : List UInt8}
    (hdetect : detectEncoding (littleEndian s) = some (encoding, bytes))
    (hunmarked : s.head? ≠ some 0xFEFF) :
    encoding.getString bytes ≠ s := by
  have hFEFF : ∀ rest, littleEndian s ≠ 0xFF :: 0xFE :: rest := by
    intro rest hrest
    obtain ⟨t, rfl, -⟩ := exists_of_littleEndian hrest
    exact hunmarked rfl
  unfold detectEncoding at hdetect
  split at hdetect
  case h_1 rest hs =>
    obtain ⟨t, rfl, rfl⟩ := exists_of_littleEndian hs
    cases hdetect
    intro hself
    have hlength := congrArg List.length hself
    rw [Encoding.getString, length_repair, length_pairUp,
      length_littleEndian, List.length_cons] at hlength
    omega
  case h_2 rest hs => exact absurd hs (hFEFF _)
  case h_3 rest _ hs => exact absurd hs (hFEFF _)
  case h_4 rest hs =>
    cases hdetect
    exact utf8_ne_self hs
  case h_5 rest hs =>
    obtain ⟨t, rfl, ht⟩ := exists_of_littleEndian hs
    obtain ⟨t, rfl, rfl⟩ := exists_of_littleEndian ht
    cases hdetect
    intro hself
    have hlength := congrArg List.length hself
    rw [Encoding.getString] at hlength
    have hbound := length_utf32Decode (fun a b c d =>
      d.toNat + 256 * (c.toNat + 256 * (b.toNat + 256 * a.toNat)))
      (littleEndian t)
    rw [hlength, length_littleEndian, List.length_cons,
      List.length_cons] at hbound
    omega
  case h_6 => cases hdetect

/-- Only a mark is detected. -/
theorem detectEncoding_of_unmarked {s : Str} (h : ¬BeginsWithMark s) :
    detectEncoding (littleEndian s) = none := by
  unfold BeginsWithMark at h
  unfold detectEncoding
  split
  case h_1 rest hs =>
    obtain ⟨t, rfl, -⟩ := exists_of_littleEndian hs
    exact absurd (Or.inr (Or.inl rfl)) h
  case h_2 rest hs =>
    obtain ⟨t, rfl, -⟩ := exists_of_littleEndian hs
    exact absurd (Or.inl rfl) h
  case h_3 rest _ hs =>
    obtain ⟨t, rfl, -⟩ := exists_of_littleEndian hs
    exact absurd (Or.inl rfl) h
  case h_4 rest hs =>
    obtain ⟨t, rfl, ht⟩ := exists_of_littleEndian hs
    cases t with
    | nil => cases ht
    | cons v t =>
        injection ht with hv
        refine absurd (Or.inr (Or.inr (Or.inl ⟨rfl, ?_⟩))) h
        rw [List.tail_cons, List.head?_cons, Option.map_some, hv]
  case h_5 rest hs =>
    obtain ⟨t, rfl, ht⟩ := exists_of_littleEndian hs
    obtain ⟨t, rfl, -⟩ := exists_of_littleEndian ht
    exact absurd (Or.inr (Or.inr (Or.inr ⟨rfl, rfl⟩))) h
  case h_6 => rfl

/-- A mark other than U+FEFF is detected. -/
theorem detectEncoding_of_marked {s : Str} (h : BeginsWithMark s)
    (hunmarked : s.head? ≠ some 0xFEFF) :
    ∃ encoding bytes,
      detectEncoding (littleEndian s) = some (encoding, bytes) := by
  rcases h with h | h | ⟨h, hnext⟩ | ⟨h, hnext⟩
  · exact absurd h hunmarked
  · obtain ⟨t, rfl⟩ := List.head?_eq_some_iff.mp h
    exact ⟨_, _, rfl⟩
  · obtain ⟨t, rfl⟩ := List.head?_eq_some_iff.mp h
    cases t with
    | nil => cases hnext
    | cons v t =>
        have hv : lowByte v = 0xBF := Option.some.inj hnext
        rw [littleEndian_cons, littleEndian_cons, hv]
        exact ⟨_, _, rfl⟩
  · obtain ⟨t, rfl⟩ := List.head?_eq_some_iff.mp h
    obtain ⟨t, rfl⟩ := List.head?_eq_some_iff.mp hnext
    exact ⟨_, _, rfl⟩

/-- A `StreamReader` on UTF-16LE bytes reads the text exactly if it begins
with no mark. -/
theorem readToEnd_littleEndian_iff {s : Str} (hs : WellFormed s) :
    streamReaderReadToEnd .unicode (littleEndian s) = s
      ↔ ¬BeginsWithMark s := by
  unfold streamReaderReadToEnd
  by_cases hmark : s.head? = some 0xFEFF
  · obtain ⟨t, rfl⟩ := List.head?_eq_some_iff.mp hmark
    have hread : Encoding.unicode.getString
        ((littleEndian (0xFEFF :: t)).drop 2) = t :=
      getString_unicode (WellFormed.tail rfl hs)
    refine ⟨fun h => ?_, fun h => absurd (Or.inl rfl) h⟩
    have hlength := congrArg List.length (hread.symm.trans h)
    rw [List.length_cons] at hlength
    omega
  · have hpreamble :
        ¬Encoding.unicode.preamble.isPrefixOf (littleEndian s) := by
      intro hprefix
      obtain ⟨rest, hrest⟩ := List.isPrefixOf_iff_prefix.mp hprefix
      obtain ⟨t, rfl, -⟩ := exists_of_littleEndian hrest.symm
      exact hmark rfl
    rw [if_neg hpreamble]
    by_cases hmarked : BeginsWithMark s
    · obtain ⟨encoding, bytes, hdetect⟩ :=
        detectEncoding_of_marked hmarked hmark
      rw [hdetect]
      exact ⟨fun h => absurd h (detected_ne_self hdetect hmark),
        fun h => absurd hmarked h⟩
    · rw [detectEncoding_of_unmarked hmarked]
      exact ⟨fun _ => hmarked, fun _ => getString_unicode hs⟩

/-- `DecryptInternal` returns what `EncryptInternal` was given, also after
every `+` has become a space, exactly if the text begins with no
byte-order mark. That AES decrypts what it encrypted is the platform's. -/
theorem decrypt_undoes_encrypt_iff {platform : Platform}
    (hplatform : platform.Lawful) (key : Str) (salt : List UInt8)
    {s : Str} (hs : WellFormed s) :
    (platform.decryptInternal key salt
        (platform.encryptInternal key salt s) = .ok s
      ∧ platform.decryptInternal key salt
          (plusToSpaces (platform.encryptInternal key salt s)) = .ok s)
      ↔ ¬BeginsWithMark s := by
  obtain ⟨hself, hplus⟩ := decryptInternal_encrypt hplatform key salt hs
  rw [hself, hplus, and_self_iff, Except.ok.injEq]
  exact readToEnd_littleEndian_iff hs

-- =============================================================== examples

namespace Recorded

/-- `"Hi"` as bytes. -/
def hiBytes : List UInt8 := [0x48, 0, 0x69, 0]

/-- What is derived from the key `"key"` and the salt 01 to 08. -/
def keyBytes : List UInt8 :=
  [0x3E, 0x99, 0x44, 0xA9, 0x3C, 0xCC, 0x7B, 0x7F, 0xE0, 0x9E, 0xF7, 0xB2,
    0xCF, 0x11, 0x61, 0x73, 0xCB, 0xA5, 0xF1, 0x14, 0xD4, 0xF7, 0xBA, 0x3D,
    0x1D, 0x53, 0xEF, 0x0B, 0x36, 0x60, 0x87, 0x30, 0xD9, 0x86, 0x2D, 0x26,
    0xE3, 0xC9, 0x89, 0x95, 0xD3, 0x27, 0x32, 0x6D, 0x94, 0x95, 0xA8, 0xB8]

/-- What is derived from the key `"new"` and that salt. -/
def newBytes : List UInt8 :=
  [0xB7, 0x99, 0x7F, 0x03, 0x84, 0x99, 0x0A, 0xFC, 0x09, 0xC1, 0x0E, 0x38,
    0x57, 0xA7, 0x64, 0xB6, 0xA6, 0xE0, 0xAE, 0x67, 0x59, 0x6E, 0x4A, 0x87,
    0x3D, 0x83, 0x12, 0xC0, 0x26, 0x57, 0x5B, 0xE9, 0x1C, 0xC2, 0xBA, 0xAD,
    0xBD, 0x92, 0x6D, 0xF4, 0x9B, 0x9B, 0x4B, 0x3C, 0x22, 0xD5, 0x06, 0x91]

/-- `"Hi"` under the key `"key"`. -/
def hiCipher : List UInt8 :=
  [0xDE, 0x09, 0x2F, 0x6C, 0xF5, 0x71, 0x48, 0x84, 0x9B, 0xB5, 0x69, 0xD2,
    0x35, 0xDF, 0xFD, 0xFF]

/-- The same of U+FEFF before `"Hi"`. -/
def markedCipher : List UInt8 :=
  [0x9C, 0xCD, 0xFA, 0x67, 0x9A, 0x14, 0xAD, 0xE6, 0x83, 0x9E, 0x53, 0xF7,
    0x83, 0x50, 0x7D, 0x22]

/-- A platform that answers as the real one does for these keys, the salt
and these texts: the ciphertext of one key is no ciphertext of another. -/
def platform : Platform where
  deriveBytes password _ _ cb :=
    (if password = str "key" then keyBytes else newBytes).take cb
  aesEncrypt key _ plainText :=
    if key = keyBytes.take 32 ∧ plainText = hiBytes then hiCipher
    else if key = keyBytes.take 32 ∧ plainText = 0xFF :: 0xFE :: hiBytes then
      markedCipher
    else 0 :: plainText
  aesDecrypt key _ encryptedData :=
    if encryptedData = hiCipher then
      if key = keyBytes.take 32 then .ok hiBytes else .error .cryptographic
    else if encryptedData = markedCipher then
      if key = keyBytes.take 32 then .ok (0xFF :: 0xFE :: hiBytes)
      else .error .cryptographic
    else .ok encryptedData.tail

theorem lawful : platform.Lawful where
  decrypt_encrypt key _ plainText := by
    unfold platform
    dsimp only
    split
    · next h => rw [if_pos rfl, if_pos h.1, h.2]
    · split
      · next h => rw [if_neg (by decide), if_pos rfl, if_pos h.1, h.2]
      · have hhi : 0 :: plainText ≠ hiCipher := fun h => by cases h
        have hmarked : 0 :: plainText ≠ markedCipher := fun h => by cases h
        rw [if_neg hhi, if_neg hmarked, List.tail_cons]
  encrypt_ne_nil key _ plainText := by
    unfold platform
    dsimp only
    split
    · exact List.cons_ne_nil _ _
    · split
      · exact List.cons_ne_nil _ _
      · exact List.cons_ne_nil _ _

end Recorded

/-- `"Hi"` comes back. -/
theorem decrypt_undoes_encrypt_hi :
    WellFormed (str "Hi")
    ∧ Recorded.platform.decryptInternal (str "key") [1, 2, 3, 4, 5, 6, 7, 8]
        (Recorded.platform.encryptInternal (str "key") [1, 2, 3, 4, 5, 6, 7, 8]
          (str "Hi")) = .ok (str "Hi")
    ∧ Recorded.platform.decryptInternal (str "key") [1, 2, 3, 4, 5, 6, 7, 8]
        (plusToSpaces (Recorded.platform.encryptInternal (str "key")
          [1, 2, 3, 4, 5, 6, 7, 8] (str "Hi"))) = .ok (str "Hi") := by
  have hs : WellFormed (str "Hi") := ⟨rfl, rfl, rfl⟩
  exact ⟨hs, (decrypt_undoes_encrypt_iff Recorded.lawful (str "key")
    [1, 2, 3, 4, 5, 6, 7, 8] hs).mpr (by decide)⟩

/-- U+FEFF before `"Hi"` does not. -/
theorem decrypt_drops_mark :
    WellFormed (0xFEFF :: str "Hi")
    ∧ Recorded.platform.decryptInternal (str "key") [1, 2, 3, 4, 5, 6, 7, 8]
        (Recorded.platform.encryptInternal (str "key") [1, 2, 3, 4, 5, 6, 7, 8]
          (0xFEFF :: str "Hi")) = .ok (str "Hi")
    ∧ str "Hi" ≠ 0xFEFF :: str "Hi" := by
  have hs : WellFormed (0xFEFF :: str "Hi") := ⟨rfl, rfl, rfl, rfl⟩
  refine ⟨hs, ?_, by decide⟩
  exact (decryptInternal_encrypt Recorded.lawful (str "key")
    [1, 2, 3, 4, 5, 6, 7, 8] hs).1

end SkillBuddy
