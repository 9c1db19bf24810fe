/-
Base64 over an arbitrary alphabet: three bytes as four digits of six bits,
the last group padded.

`encode` and `decode` go by groups, and `decode_encode` is the induction
over the groups: each of the three bytes of a group can be computed from
two of its digits (`byte1_digits`, `byte2_digits`, `byte3_digits`), and a
group that is padded has one byte or two.

The alphabet is given by its digits (`digit`) and their values (`value`);
all the round trip needs is that `value` undoes `digit` below 64 and that
the pad is no digit. What is written are digits and pads only
(`mem_encode`), so letters that are neither may be put in on the way and
told apart.
-/
import Mathlib.Data.List.Basic

namespace SkillBuddy.Lib.Base64

variable {α : Type} (digit : Nat → α) (pad : α)
  (value : α → Option Nat)

/-- Bytes as digits. -/
def encode : List UInt8 → List α
  | [] => []
  | [a] => [digit (a.toNat / 4), digit (a.toNat % 4 * 16), pad, pad]
  | [a, b] =>
      [digit (a.toNat / 4), digit (a.toNat % 4 * 16 + b.toNat / 16),
        digit (b.toNat % 16 * 4), pad]
  | a :: b :: c :: rest =>
      digit (a.toNat / 4) :: digit (a.toNat % 4 * 16 + b.toNat / 16)
        :: digit (b.toNat % 16 * 4 + c.toNat / 64) :: digit (c.toNat % 64)
        :: encode rest

/-- The first byte of a group of digits. -/
def byte1 (w x : Nat) : UInt8 := UInt8.ofNat (w * 4 + x / 16)

/-- The second byte of a group of digits. -/
def byte2 (x y : Nat) : UInt8 := UInt8.ofNat (x % 16 * 16 + y / 4)

/-- The third byte of a group of digits. -/
def byte3 (y z : Nat) : UInt8 := UInt8.ofNat (y % 4 * 64 + z)

/-- Digits as bytes; pads stand only at the end. -/
def decode [DecidableEq α] : List α → Option (List UInt8)
  | [] => some []
  | w :: x :: y :: z :: rest =>
      if z = pad ∧ rest = [] then
        if y = pad then do
          let w ← value w
          let x ← value x
          some [byte1 w x]
        else do
          let w ← value w
          let x ← value x
          let y ← value y
          some [byte1 w x, byte2 x y]
      else do
        let w ← value w
        let x ← value x
        let y ← value y
        let z ← value z
        let bytes ← decode rest
        some (byte1 w x :: byte2 x y :: byte3 y z :: bytes)
  | _ => none

/-- The first byte has six of its bits in the first digit and two in the
second. -/
theorem byte1_digits (a b : UInt8) :
    byte1 (a.toNat / 4) (a.toNat % 4 * 16 + b.toNat / 16) = a := by
  have hb := b.toNat_lt
  rw [byte1, show a.toNat / 4 * 4 + (a.toNat % 4 * 16 + b.toNat / 16) / 16
    = a.toNat by omega, UInt8.ofNat_toNat]

/-- The second byte has four of its bits in the second digit and four in the
third. -/
theorem byte2_digits (a b c : UInt8) :
    byte2 (a.toNat % 4 * 16 + b.toNat / 16)
      (b.toNat % 16 * 4 + c.toNat / 64) = b := by
  have hb := b.toNat_lt
  have hc := c.toNat_lt
  rw [byte2, show (a.toNat % 4 * 16 + b.toNat / 16) % 16 * 16
    + (b.toNat % 16 * 4 + c.toNat / 64) / 4 = b.toNat by omega,
    UInt8.ofNat_toNat]

/-- The third byte has two of its bits in the third digit and six in the
fourth. -/
theorem byte3_digits (b c : UInt8) :
    byte3 (b.toNat % 16 * 4 + c.toNat / 64) (c.toNat % 64) = c := by
  have hc := c.toNat_lt
  rw [byte3, show (b.toNat % 16 * 4 + c.toNat / 64) % 4 * 64
    + c.toNat % 64 = c.toNat by omega, UInt8.ofNat_toNat]

variable {digit pad value}

/-- Decoding undoes encoding. -/
theorem decode_encode [DecidableEq α]
    (hvalue : ∀ n, n < 64 → value (digit n) = some n)
    (hpad : ∀ n, n < 64 → digit n ≠ pad) (bytes : List UInt8) :
    decode pad value (encode digit pad bytes) = some bytes := by
  fun_induction encode digit pad bytes with
  | case1 => rfl
  | case2 a =>
      have ha := a.toNat_lt
      have h1 := byte1_digits a 0
      rw [decode, if_pos ⟨rfl, rfl⟩, if_pos rfl, hvalue _ (by omega),
        hvalue _ (by omega)]
      exact congrArg (fun b => some [b]) h1
  | case3 a b =>
      have ha := a.toNat_lt
      have hb := b.toNat_lt
      have h1 := byte1_digits a b
      have h2 := byte2_digits a b 0
      rw [decode, if_pos ⟨rfl, rfl⟩, if_neg (hpad _ (by omega)),
        hvalue _ (by omega), hvalue _ (by omega), hvalue _ (by omega)]
      exact congrArg₂ (fun b c => some [b, c]) h1 h2
  | case4 a b c rest ih =>
      have ha := a.toNat_lt
      have hb := b.toNat_lt
      have hc := c.toNat_lt
      have hlast : ¬(digit (c.toNat % 64) = pad
          ∧ encode digit pad rest = []) := fun h =>
        hpad _ (by omega) h.1
      rw [decode, if_neg hlast, hvalue _ (by omega), hvalue _ (by omega),
        hvalue _ (by omega), hvalue _ (by omega), ih]
      simp only [bind, Option.bind, byte1_digits, byte2_digits,
        byte3_digits]

/-- Only digits and pads are written. -/
theorem mem_encode {bytes : List UInt8} {u : α}
    (h : u ∈ encode digit pad bytes) :
    u = pad ∨ ∃ n, n < 64 ∧ u = digit n := by
  fun_induction encode digit pad bytes with
  | case1 => cases h
  | case2 a =>
      have ha := a.toNat_lt
      simp only [List.mem_cons, List.not_mem_nil, or_false] at h
      rcases h with rfl | rfl | rfl | rfl
      · exact Or.inr ⟨_, by omega, rfl⟩
      · exact Or.inr ⟨_, by omega, rfl⟩
      · exact Or.inl rfl
      · exact Or.inl rfl
  | case3 a b =>
      have ha := a.toNat_lt
      have hb := b.toNat_lt
      simp only [List.mem_cons, List.not_mem_nil, or_false] at h
      rcases h with rfl | rfl | rfl | rfl
      · exact Or.inr ⟨_, by omega, rfl⟩
      · exact Or.inr ⟨_, by omega, rfl⟩
      · exact Or.inr ⟨_, by omega, rfl⟩
      · exact Or.inl rfl
  | case4 a b c rest ih =>
      have ha := a.toNat_lt
      have hb := b.toNat_lt
      have hc := c.toNat_lt
      simp only [List.mem_cons] at h
      rcases h with rfl | rfl | rfl | rfl | h
      · exact Or.inr ⟨_, by omega, rfl⟩
      · exact Or.inr ⟨_, by omega, rfl⟩
      · exact Or.inr ⟨_, by omega, rfl⟩
      · exact Or.inr ⟨_, by omega, rfl⟩
      · exact ih h

/-- Where there is a byte there is a group. -/
theorem encode_ne_nil {bytes : List UInt8} (h : bytes ≠ []) :
    encode digit pad bytes ≠ [] := by
  fun_cases encode digit pad bytes with
  | case1 => exact absurd rfl h
  | case2 | case3 | case4 => exact List.cons_ne_nil _ _

end SkillBuddy.Lib.Base64
