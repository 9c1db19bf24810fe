/-
`SkillBuddy.Core.Cryptography`: text encrypted with AES under a key and IV
derived from a password and a salt, in Base64.

AES itself and PBKDF2 are the framework's (`Platform`); what the code
relies on is that decrypting undoes encrypting under the same key and IV.
`EncryptInternal` encrypts the UTF-16LE bytes of the text, and
`DecryptInternal` reads the decrypted bytes with a `StreamReader`.

The static API uses the key and salt of the last instance constructed;
instances use their own.
-/
import SkillBuddy.Lib.Base64
import SkillBuddy.DotNet.Encoding

namespace SkillBuddy

open DotNet

/-- The exceptions of this class. -/
inductive CryptographyExn where
  | argumentNull (paramName : String)
  | format
  | cryptographic
  deriving DecidableEq, Repr

-- ================================================================ Base64

/-- The digit of six bits. -/
def base64Digit (n : Nat) : CodeUnit :=
  if n < 26 then UInt16.ofNat (65 + n)
  else if n < 52 then UInt16.ofNat (71 + n)
  else if n < 62 then UInt16.ofNat (n - 4)
  else if n = 62 then unit '+'
  else unit '/'

/-- The six bits of a digit. -/
def base64Value (u : CodeUnit) : Option Nat :=
  (List.range 64).find? fun n => base64Digit n = u

/-- `Convert.ToBase64String(bytes)`. -/
def toBase64String (bytes : List UInt8) : Str :=
  Lib.Base64.encode base64Digit (unit '=') bytes

/-- The characters `FromBase64String` skips. -/
def isBase64Space (u : CodeUnit) : Bool :=
  u == 32 || u == 9 || u == 10 || u == 13

/-- `Convert.FromBase64String(s)`. -/
def fromBase64String (s : Str) : Except CryptographyExn (List UInt8) :=
  match Lib.Base64.decode (unit '=') base64Value
      (s.filter fun u => !isBase64Space u) with
  | some bytes => .ok bytes
  | none => .error .format

-- =============================================================== AES

/-- What is used of `System.Security.Cryptography`: the first bytes that
`Rfc2898DeriveBytes(password, salt, iterations, SHA256)` derives, and
AES-CBC under a key and IV. -/
structure Platform where
  deriveBytes (password : Str) (salt : List UInt8) (iterations cb : Nat) :
    List UInt8
  aesEncrypt (key iv plainText : List UInt8) : List UInt8
  aesDecrypt (key iv encryptedData : List UInt8) :
    Except CryptographyExn (List UInt8)

/-- Decryption undoes encryption, whose output is whole blocks and at
least one. -/
structure Platform.Lawful (platform : Platform) : Prop where
  decrypt_encrypt (key iv plainText : List UInt8) :
    platform.aesDecrypt key iv (platform.aesEncrypt key iv plainText)
      = .ok plainText
  encrypt_ne_nil (key iv plainText : List UInt8) :
    platform.aesEncrypt key iv plainText ≠ []

namespace Platform

variable (platform : Platform)

/-- `derive.GetBytes(32)`. -/
def aesKey (key : Str) (salt : List UInt8) : List UInt8 :=
  platform.deriveBytes key salt 100000 32

/-- `derive.GetBytes(16)` after it. -/
def aesIV (key : Str) (salt : List UInt8) : List UInt8 :=
  (platform.deriveBytes key salt 100000 48).drop 32

/-- `EncryptInternal(key, salt, inputText)`. -/
def encryptInternal (key : Str) (salt : List UInt8) (inputText : Str) :
    Str :=
  let plainText := unicodeGetBytes inputText
  toBase64String (platform.aesEncrypt (platform.aesKey key salt)
    (platform.aesIV key salt) plainText)

/-- `inputText.Replace(" ", "+")`. -/
def spacesToPlus (inputText : Str) : Str :=
  inputText.map fun u => if u = unit ' ' then unit '+' else u

/-- `DecryptInternal(key, salt, inputText)`. -/
def decryptInternal (key : Str) (salt : List UInt8) (inputText : Str) :
    Except CryptographyExn Str := do
  let encryptedData ← fromBase64String (spacesToPlus inputText)
  let bytes ← platform.aesDecrypt (platform.aesKey key salt)
    (platform.aesIV key salt) encryptedData
  pure (streamReaderReadToEnd .unicode bytes)

end Platform

-- ======================================================= the two APIs

/-- An instance: its key and salt. -/
structure Cryptography where
  encKey : Str
  encSalt : List UInt8
  deriving DecidableEq, Repr

/-- The static key and salt, and the instances constructed so far. -/
structure CryptographyState where
  encryptionKey : Str := []
  salt : List UInt8 := []
  instances : List Cryptography := []
  deriving DecidableEq, Repr

namespace Cryptography

variable (platform : Platform)

/-- `new Cryptography(encryptionKey, salt)`; no key, or no salt, is null
or empty. -/
def new (encryptionKey : Option Str) (salt : Option (List UInt8))
    (s : CryptographyState) :
    Except CryptographyExn Unit × CryptographyState :=
  let encryptionKey := encryptionKey.getD []
  let salt := salt.getD []
  if encryptionKey = [] then (.error (.argumentNull "encryptionKey"), s)
  else if salt = [] then (.error (.argumentNull "salt"), s)
  else
    (.ok (), { encryptionKey, salt
               instances := s.instances ++ [⟨encryptionKey, salt⟩] })

/-- `cryptography.Encrypt(inputText)`. -/
def encrypt (cryptography : Cryptography) (inputText : Option Str) : Str :=
  let inputText := inputText.getD []
  if inputText = [] then []
  else
    platform.encryptInternal cryptography.encKey cryptography.encSalt
      inputText

/-- `cryptography.Decrypt(inputText)`. -/
def decrypt (cryptography : Cryptography) (inputText : Option Str) :
    Except CryptographyExn Str :=
  let inputText := inputText.getD []
  if inputText = [] then .ok []
  else
    platform.decryptInternal cryptography.encKey cryptography.encSalt
      inputText

/-- The key and salt of the static API. -/
def static (s : CryptographyState) : Cryptography :=
  ⟨s.encryptionKey, s.salt⟩

/-- `Cryptography.Encrypt(inputText)`. -/
def staticEncrypt (s : CryptographyState) (inputText : Option Str) : Str :=
  (static s).encrypt platform inputText

/-- `Cryptography.Decrypt(inputText)`. -/
def staticDecrypt (s : CryptographyState) (inputText : Option Str) :
    Except CryptographyExn Str :=
  (static s).decrypt platform inputText

end Cryptography

end SkillBuddy
