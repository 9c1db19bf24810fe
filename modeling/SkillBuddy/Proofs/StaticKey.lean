/-
A ciphertext and the API that produced it, across constructions.

Each construction appends an instance and overwrites the static key and
salt, on purpose: the static API is kept in sync with the last instance.
`step_spec` says this of one call, and nothing else changes the state. So
along a run the instances are a growing list (`instances_of_run`), and
the static key is that of the last construction that did not throw
(`static_of_run`); a construction that throws has changed nothing, since
its arguments are checked first.

An instance decrypts what it encrypted in any run, since its key and salt
are its own. The static API does as long as the last construction is one
with the key and salt of before (`ciphertext_stays_decryptable`); that it
is the same instance is not needed. With another key in between it throws
(`static_decrypt_after_construction`).

What is assumed of the text is that the cipher round-trips on it at all
(`RoundTrips`); which texts these are is in `Proofs/Decryption`.
-/
import SkillBuddy.Lib.Run
import SkillBuddy.Proofs.Decryption

namespace SkillBuddy

open DotNet Lib

namespace CryptographyState

-- =============================================================== the runs

/-- The calls of the two APIs; instances are numbered in the order of
their construction. -/
inductive Call where
  | new (encryptionKey : Option Str) (salt : Option (List UInt8))
  | staticEncrypt (inputText : Option Str)
  | staticDecrypt (inputText : Option Str)
  | encrypt (instance_ : Nat) (inputText : Option Str)
  | decrypt (instance_ : Nat) (inputText : Option Str)
  deriving DecidableEq, Repr

/-- What a call of `Encrypt` or `Decrypt` returns; there is nothing to
call on an instance that was not constructed. -/
def returns (platform : Platform) (s : CryptographyState) :
    Call → Option (Except CryptographyExn Str)
  | .new _ _ => none
  | .staticEncrypt inputText =>
      some (.ok (Cryptography.staticEncrypt platform s inputText))
  | .staticDecrypt inputText =>
      some (Cryptography.staticDecrypt platform s inputText)
  | .encrypt i inputText =>
      s.instances[i]?.map fun c => .ok (c.encrypt platform inputText)
  | .decrypt i inputText =>
      s.instances[i]?.map fun c => c.decrypt platform inputText

/-- One call: only a construction changes anything. -/
def step (s : CryptographyState) : Call → Option CryptographyState
  | .new encryptionKey salt =>
      some (Cryptography.new encryptionKey salt s).2
  | .staticEncrypt _ | .staticDecrypt _ => some s
  | .encrypt i _ | .decrypt i _ =>
      if i < s.instances.length then some s else none

/-- The instance a call constructs, if it does not throw. -/
def constructed : Call → Option Cryptography
  | .new encryptionKey salt =>
      if encryptionKey.getD [] = [] ∨ salt.getD [] = [] then none
      else some ⟨encryptionKey.getD [], salt.getD []⟩
  | .staticEncrypt _ | .staticDecrypt _ | .encrypt _ _ | .decrypt _ _ => none

/-- The instance the last construction of a run made. -/
def latest (calls : List Call) : Option Cryptography :=
  (calls.filterMap constructed).getLast?

/-- The cipher round-trips on a text under every key and salt. -/
def RoundTrips (platform : Platform) (text : Str) : Prop :=
  ∀ key salt, platform.decryptInternal key salt
    (platform.encryptInternal key salt text) = .ok text

-- ============================================================= its states

/-- What a call does to the state: it appends what it constructs, which
the static API uses from then on. -/
theorem step_spec {s t : CryptographyState} {call : Call}
    (h : step s call = some t) :
    t.instances = s.instances ++ (constructed call).toList
      ∧ Cryptography.static t
        = (constructed call).getD (Cryptography.static s) := by
  cases call with
  | new encryptionKey salt =>
      obtain rfl := Option.some.inj h
      unfold Cryptography.new constructed
      dsimp only
      by_cases hkey : encryptionKey.getD [] = []
      · rw [if_pos hkey, if_pos (Or.inl hkey)]
        exact ⟨(List.append_nil _).symm, rfl⟩
      · by_cases hsalt : salt.getD [] = []
        · rw [if_neg hkey, if_pos hsalt, if_pos (Or.inr hsalt)]
          exact ⟨(List.append_nil _).symm, rfl⟩
        · rw [if_neg hkey, if_neg hsalt,
            if_neg (fun h => h.elim hkey hsalt)]
          exact ⟨rfl, rfl⟩
  | staticEncrypt | staticDecrypt =>
      obtain rfl := Option.some.inj h
      exact ⟨(List.append_nil _).symm, rfl⟩
  | encrypt i | decrypt i =>
      rw [step] at h
      split at h
      · obtain rfl := Option.some.inj h
        exact ⟨(List.append_nil _).symm, rfl⟩
      · cases h

/-- A run appends what its calls construct. -/
theorem instances_of_run {calls : List Call} :
    ∀ {s t : CryptographyState}, run step s calls = some t →
      t.instances = s.instances ++ calls.filterMap constructed := by
  induction calls with
  | nil =>
      intro s t h
      rw [run_nil, Option.some.injEq] at h
      rw [h, List.filterMap_nil, List.append_nil]
  | cons call calls ih =>
      intro s t h
      obtain ⟨u, hu, hrest⟩ := run_cons_eq_some.mp h
      rw [ih hrest, (step_spec hu).1, List.append_assoc]
      cases hcall : constructed call with
      | none => rw [List.filterMap_cons_none hcall]; rfl
      | some c => rw [List.filterMap_cons_some hcall]; rfl

/-- The static API uses what the last construction of a run made, and what
it used before if the run has none. -/
theorem static_of_run {calls : List Call} :
    ∀ {s t : CryptographyState}, run step s calls = some t →
      Cryptography.static t
        = (latest calls).getD (Cryptography.static s) := by
  induction calls with
  | nil =>
      intro s t h
      rw [run_nil, Option.some.injEq] at h
      rw [h]
      rfl
  | cons call calls ih =>
      intro s t h
      obtain ⟨u, hu, hrest⟩ := run_cons_eq_some.mp h
      rw [ih hrest, (step_spec hu).2]
      unfold latest
      cases hcall : constructed call with
      | none => rw [List.filterMap_cons_none hcall]; rfl
      | some c =>
          rw [List.filterMap_cons_some hcall, List.getLast?_cons]
          cases (calls.filterMap constructed).getLast? <;> rfl

-- ============================================================ the property

/-- Under one key and salt `Decrypt` undoes `Encrypt`. -/
theorem decrypt_encrypt {platform : Platform} (hplatform : platform.Lawful)
    {text : Str} (htext : RoundTrips platform text) (c : Cryptography) :
    c.decrypt platform (some (c.encrypt platform (some text)))
      = .ok text := by
  unfold Cryptography.encrypt Cryptography.decrypt
  simp only [Option.getD_some]
  by_cases hempty : text = []
  · rw [if_pos hempty, if_pos rfl, hempty]
  · have hcipher : platform.encryptInternal c.encKey c.encSalt text ≠ [] :=
      Lib.Base64.encode_ne_nil (hplatform.encrypt_ne_nil _ _ _)
    rw [if_neg hempty, if_neg hcipher]
    exact htext c.encKey c.encSalt

/-- In every run, what the static `Encrypt` returned for a text the static
`Decrypt` turns back as long as the last construction since, if there is
one, has the key and salt of the last one before; what an instance's
`Encrypt` returned its `Decrypt` turns back whatever has been constructed
since. -/
theorem ciphertext_stays_decryptable {platform : Platform}
    (hplatform : platform.Lawful) {before since : List Call}
    {s t : CryptographyState} (hbefore : run step {} before = some s)
    (hsince : run step s since = some t) {text cipher : Str}
    (htext : RoundTrips platform text) :
    (returns platform s (.staticEncrypt (some text)) = some (.ok cipher) →
      (∀ c, latest since = some c → latest before = some c) →
      returns platform t (.staticDecrypt (some cipher))
        = some (.ok text))
    ∧ ∀ i,
      returns platform s (.encrypt i (some text)) = some (.ok cipher) →
      returns platform t (.decrypt i (some cipher)) = some (.ok text) := by
  constructor
  · intro hencrypt hlatest
    have hstatic : Cryptography.static t = Cryptography.static s := by
      rw [static_of_run hsince]
      cases hc : latest since with
      | none => rfl
      | some c =>
          rw [static_of_run hbefore, hlatest c hc]
          rfl
    injection hencrypt with hencrypt
    injection hencrypt with hencrypt
    rw [returns, Cryptography.staticDecrypt, hstatic, ← hencrypt]
    exact congrArg some (decrypt_encrypt hplatform htext _)
  · intro i hencrypt
    simp only [returns] at hencrypt ⊢
    cases hi : s.instances[i]? with
    | none =>
        rw [hi] at hencrypt
        cases hencrypt
    | some c =>
        rw [hi] at hencrypt
        injection hencrypt with hencrypt
        injection hencrypt with hencrypt
        have hlength := (List.getElem?_eq_some_iff.mp hi).1
        rw [instances_of_run hsince, List.getElem?_append_left hlength, hi,
          ← hencrypt]
        exact congrArg some (decrypt_encrypt hplatform htext c)

-- =============================================================== examples

/-- `new Cryptography("key", salt)`, with the salt 01 to 08. -/
private def constructKey : Call :=
  .new (some (str "key")) (some [1, 2, 3, 4, 5, 6, 7, 8])

/-- `new Cryptography("new", salt)`. -/
private def constructNew : Call :=
  .new (some (str "new")) (some [1, 2, 3, 4, 5, 6, 7, 8])

private theorem roundTrips_hi : RoundTrips Recorded.platform (str "Hi") := by
  intro key salt
  have hs : WellFormed (str "Hi") := ⟨rfl, rfl, rfl⟩
  exact (decryptInternal_encrypt Recorded.lawful key salt hs).1

/-- With another instance in between, the instance decrypts, and the
static API does once it is back at the key of before. -/
theorem ciphertext_after_reconstruction :
    ∃ t, run step {} [constructKey, constructNew, constructKey] = some t
      ∧ returns Recorded.platform t (.staticDecrypt
          (some (str "3gkvbPVxSISbtWnSNd/9/w=="))) = some (.ok (str "Hi"))
      ∧ returns Recorded.platform t (.decrypt 0
          (some (str "3gkvbPVxSISbtWnSNd/9/w=="))) = some (.ok (str "Hi")) := by
  have hboth := @ciphertext_stays_decryptable _ Recorded.lawful
    [constructKey] [constructNew, constructKey] _ _ rfl rfl
    (str "Hi") (str "3gkvbPVxSISbtWnSNd/9/w==") roundTrips_hi
  refine ⟨_, rfl, hboth.1 (by decide) ?_, hboth.2 0 (by decide)⟩
  intro c hc
  exact hc

/-- With another instance in between the static `Decrypt` throws. -/
theorem static_decrypt_after_construction :
    ∃ s t, run step {} [constructKey] = some s
      ∧ run step s [constructNew] = some t
      ∧ RoundTrips Recorded.platform (str "Hi")
      ∧ returns Recorded.platform s (.staticEncrypt (some (str "Hi")))
        = some (.ok (str "3gkvbPVxSISbtWnSNd/9/w=="))
      ∧ returns Recorded.platform t (.staticDecrypt
          (some (str "3gkvbPVxSISbtWnSNd/9/w==")))
        = some (.error .cryptographic) :=
  ⟨_, _, rfl, rfl, roundTrips_hi, by decide, by decide⟩

end CryptographyState

end SkillBuddy
