/-
What ciphertexts tell, and what they survive.

# Equal ciphertexts

The IV is derived from the key and the salt, so encryption is a function
of the text: equal texts have equal ciphertexts, and whoever sees two of
them sees whether the texts are equal. The encoder puts U+FFFD in the
place of lone surrogates before anything is encrypted
(`encryptInternal_repair`); but for that no layer confuses two texts
(`encryptInternal_inj`). So ciphertexts are equal exactly if the texts
are, lone surrogates apart (`encrypt_eq_iff`).

# Any ciphertext

What is decrypted is always well-formed text, whatever was sent
(`decrypt_wellFormed`): the last layer of `DecryptInternal` is a decoder,
and a decoder makes nothing else.

# On the way

A ciphertext may lose any of its `+` to spaces and be broken into lines on
its way (`Carried`). The decryption turns spaces into `+` again, and the
base-64 reader skips tabs and line ends, so both texts are decoded alike
(`Carried.decoded_eq`). What comes back is the text exactly if it is
well-formed and begins with no byte-order mark (`decrypt_carried_iff`).
-/
import SkillBuddy.DotNet.WellFormed
import SkillBuddy.Proofs.Decryption

namespace SkillBuddy

open DotNet

-- ============================================== what ciphertexts survive

/-- A text as it may arrive: any of its `+` may have become spaces, and
tabs and line ends may have come in. -/
inductive Carried : Str → Str → Prop where
  | nil : Carried [] []
  | same (u : CodeUnit) {s t : Str} (h : Carried s t) :
      Carried (u :: s) (u :: t)
  | space {s t : Str} (h : Carried s t) :
      Carried (unit '+' :: s) (unit ' ' :: t)
  | wrap {u : CodeUnit} (hu : u = 9 ∨ u = 10 ∨ u = 13) {s t : Str}
      (h : Carried s t) : Carried s (u :: t)

/-- A ciphertext may arrive as it was sent. -/
theorem Carried.refl (s : Str) : Carried s s := by
  induction s with
  | nil => exact .nil
  | cons u s ih => exact .same u ih

/-- Nothing is left out on the way, so it does not arrive empty. -/
theorem Carried.ne_nil {s t : Str} (h : Carried s t) (hs : s ≠ []) :
    t ≠ [] := by
  cases h with
  | nil => exact absurd rfl hs
  | same | space | wrap => exact List.cons_ne_nil _ _

/-- What is decoded: spaces are `+` again, and white space is skipped. -/
def decoded (s : Str) : Str :=
  (Platform.spacesToPlus s).filter fun u => !isBase64Space u

theorem decoded_cons (u : CodeUnit) (s : Str) :
    decoded (u :: s)
      = if isBase64Space (if u = unit ' ' then unit '+' else u) then
          decoded s
        else (if u = unit ' ' then unit '+' else u) :: decoded s := by
  unfold decoded Platform.spacesToPlus
  rw [List.map_cons, List.filter_cons]
  cases isBase64Space (if u = unit ' ' then unit '+' else u) with
  | true => rfl
  | false => rfl

/-- It is the same for the text sent and for the text that arrives. By
induction on what has happened on the way. -/
theorem Carried.decoded_eq {s t : Str} (h : Carried s t) :
    decoded t = decoded s := by
  induction h with
  | nil => rfl
  | same u h ih => rw [decoded_cons, decoded_cons, ih]
  | space h ih =>
      rw [decoded_cons, decoded_cons, ih, if_pos rfl,
        if_neg (show unit '+' ≠ unit ' ' by decide)]
  | wrap hu h ih =>
      rw [decoded_cons, ih]
      rcases hu with rfl | rfl | rfl
      · exact if_pos (by decide)
      · exact if_pos (by decide)
      · exact if_pos (by decide)

/-- So `DecryptInternal` does the same with both. -/
theorem decryptInternal_carried (platform : Platform) (key : Str)
    (salt : List UInt8) {s t : Str} (h : Carried s t) :
    platform.decryptInternal key salt t
      = platform.decryptInternal key salt s := by
  have hbytes : fromBase64String (Platform.spacesToPlus t)
      = fromBase64String (Platform.spacesToPlus s) := by
    unfold fromBase64String
    rw [show (Platform.spacesToPlus t).filter (fun u => !isBase64Space u)
      = decoded s from h.decoded_eq]
    rfl
  unfold Platform.decryptInternal
  rw [hbytes]

-- ================================================= what they are made of

/-- What is encrypted is the repaired text. -/
theorem encryptInternal_repair (platform : Platform) (key : Str)
    (salt : List UInt8) (s : Str) :
    platform.encryptInternal key salt (repair s)
      = platform.encryptInternal key salt s := by
  unfold Platform.encryptInternal unicodeGetBytes
  rw [repair_repair]

/-- No ciphertext is empty: there is a block of padding at the least. -/
theorem encryptInternal_ne_nil {platform : Platform}
    (hplatform : platform.Lawful) (key : Str) (salt : List UInt8)
    (s : Str) : platform.encryptInternal key salt s ≠ [] :=
  Lib.Base64.encode_ne_nil (hplatform.encrypt_ne_nil _ _ _)

/-- The bytes of a text determine it. -/
theorem littleEndian_inj {s t : Str} :
    littleEndian s = littleEndian t ↔ s = t := by
  refine ⟨fun h => ?_, congrArg littleEndian⟩
  calc s = pairUp pairBytes (littleEndian s) := (pairUp_littleEndian s).symm
    _ = pairUp pairBytes (littleEndian t) := by rw [h]
    _ = t := pairUp_littleEndian t

/-- Each layer of `EncryptInternal` but the repair is undone by one of
`DecryptInternal`, so none of them confuses two texts. -/
theorem encryptInternal_inj {platform : Platform}
    (hplatform : platform.Lawful) {key : Str} {salt : List UInt8}
    {s t : Str} :
    platform.encryptInternal key salt s
        = platform.encryptInternal key salt t
      ↔ repair s = repair t := by
  refine ⟨fun h => ?_, fun h => ?_⟩
  · have hbase64 := congrArg fromBase64String h
    unfold Platform.encryptInternal at hbase64
    rw [fromBase64String_toBase64String, fromBase64String_toBase64String,
      Except.ok.injEq] at hbase64
    have haes := congrArg (platform.aesDecrypt (platform.aesKey key salt)
      (platform.aesIV key salt)) hbase64
    rw [hplatform.decrypt_encrypt, hplatform.decrypt_encrypt,
      Except.ok.injEq] at haes
    exact littleEndian_inj.mp haes
  · rw [← encryptInternal_repair, h, encryptInternal_repair]

/-- Repairing leaves no text empty that was not. -/
theorem repair_eq_nil_iff {s : Str} : repair s = [] ↔ s = [] := by
  rw [← List.length_eq_zero_iff, length_repair, List.length_eq_zero_iff]

-- ============================================================== the APIs

namespace Cryptography

/-- The key of the examples. -/
def recorded : Cryptography := ⟨str "key", [1, 2, 3, 4, 5, 6, 7, 8]⟩

/-- The ciphertexts of two texts are equal exactly if the texts are, once
their lone surrogates are U+FFFD. -/
theorem encrypt_eq_iff {platform : Platform} (hplatform : platform.Lawful)
    (cryptography : Cryptography) (s t : Option Str) :
    cryptography.encrypt platform s = cryptography.encrypt platform t
      ↔ repair (s.getD []) = repair (t.getD []) := by
  have hne := encryptInternal_ne_nil hplatform cryptography.encKey
    cryptography.encSalt
  unfold encrypt
  dsimp only
  by_cases hs : s.getD [] = []
  · rw [if_pos hs, hs, eq_comm, @eq_comm _ (repair []),
      show repair [] = [] from rfl, repair_eq_nil_iff]
    refine ⟨fun h => ?_, fun h => if_pos h⟩
    by_contra ht
    rw [if_neg ht] at h
    exact hne _ h
  · rw [if_neg hs]
    by_cases ht : t.getD [] = []
    · rw [if_pos ht, ht, show repair [] = [] from rfl, repair_eq_nil_iff]
      exact ⟨fun h => absurd h (hne _), fun h => absurd h hs⟩
    · rw [if_neg ht]
      exact encryptInternal_inj hplatform

/-- `"Hi"` with a mark before it has another ciphertext. -/
theorem encrypt_eq_iff_hi :
    recorded.encrypt Recorded.platform (some (str "Hi"))
      ≠ recorded.encrypt Recorded.platform (some (0xFEFF :: str "Hi")) :=
  fun h => absurd ((encrypt_eq_iff Recorded.lawful recorded _ _).mp h)
    (by decide)

/-- Whatever `Decrypt` is given, what it returns is well-formed. -/
theorem decrypt_wellFormed {platform : Platform}
    (cryptography : Cryptography) (inputText : Option Str) {s : Str}
    (h : cryptography.decrypt platform inputText = .ok s) :
    WellFormed s := by
  unfold decrypt at h
  dsimp only at h
  split at h
  · cases h
    exact wellFormed_nil
  · unfold Platform.decryptInternal at h
    cases hbytes : fromBase64String
        (Platform.spacesToPlus (inputText.getD [])) with
    | error e =>
        rw [hbytes] at h
        cases h
    | ok encryptedData =>
        rw [hbytes] at h
        dsimp only [bind, Except.bind] at h
        split at h
        · cases h
        · cases h
          exact wellFormed_readToEnd _ _

/-- The text of the ciphertext of `"Hi"`. -/
theorem decrypt_wellFormed_hi :
    recorded.decrypt Recorded.platform
        (some (recorded.encrypt Recorded.platform (some (str "Hi"))))
      = .ok (str "Hi")
    ∧ WellFormed (str "Hi") := by
  have h : recorded.decrypt Recorded.platform
      (some (recorded.encrypt Recorded.platform (some (str "Hi"))))
        = .ok (str "Hi") := by
    decide
  exact ⟨h, decrypt_wellFormed recorded _ h⟩

/-- A carried ciphertext is decrypted to the text, whatever text that is,
exactly if it is well-formed and begins with no byte-order mark. -/
theorem decrypt_carried_iff {platform : Platform}
    (hplatform : platform.Lawful) (cryptography : Cryptography) {s : Str}
    (hs : s ≠ []) {carried : Str}
    (hcarried : Carried (cryptography.encrypt platform (some s)) carried) :
    cryptography.decrypt platform (some carried) = .ok s
      ↔ WellFormed s ∧ ¬BeginsWithMark s := by
  have hsent : cryptography.encrypt platform (some s)
      = platform.encryptInternal cryptography.encKey cryptography.encSalt
          s := if_neg hs
  rw [hsent] at hcarried
  have hne := hcarried.ne_nil (encryptInternal_ne_nil hplatform _ _ _)
  have hread : cryptography.decrypt platform (some carried)
      = .ok (streamReaderReadToEnd .unicode (littleEndian (repair s))) := by
    calc cryptography.decrypt platform (some carried)
        = platform.decryptInternal cryptography.encKey
            cryptography.encSalt carried := if_neg hne
      _ = platform.decryptInternal cryptography.encKey cryptography.encSalt
            (platform.encryptInternal cryptography.encKey
              cryptography.encSalt (repair s)) := by
          rw [decryptInternal_carried platform _ _ hcarried,
            encryptInternal_repair]
      _ = .ok (streamReaderReadToEnd .unicode (littleEndian (repair s))) :=
          (decryptInternal_encrypt hplatform _ _ (wellFormed_repair s)).1
  rw [hread, Except.ok.injEq]
  by_cases hwell : WellFormed s
  · rw [repair_of_wellFormed hwell, readToEnd_littleEndian_iff hwell]
    exact ⟨And.intro hwell, And.right⟩
  · refine ⟨fun h => ?_, fun h => absurd h.1 hwell⟩
    rw [← h] at hwell
    exact absurd (wellFormed_readToEnd _ _) hwell

/-- `"Hi"` comes back from a ciphertext that begins on a new line. -/
theorem decrypt_carried_hi :
    recorded.decrypt Recorded.platform (some (13 :: 10 ::
      recorded.encrypt Recorded.platform (some (str "Hi"))))
      = .ok (str "Hi") :=
  (decrypt_carried_iff Recorded.lawful recorded (by decide)
    (.wrap (.inr (.inr rfl)) (.wrap (.inr (.inl rfl)) (.refl _)))).mpr
    (And.intro (show WellFormed (str "Hi") from ⟨rfl, rfl, rfl⟩)
      (by decide))

end Cryptography

end SkillBuddy
