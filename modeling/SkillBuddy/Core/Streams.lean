/-
`SkillBuddy.Core.Helper.ReadStreamInChunks`: a stream's text, a block of
4096 characters at a time through one buffer.

`StreamReader.Read` may give fewer characters than it is asked for, and
how many depends on the stream and on the reader's own buffers
(`ReadSizes`, whose fields say what the documentation promises);
`ReadBlock` asks again until the block is full or nothing comes. Each
block overwrites the one before it, and behind the end of a short one the
buffer still holds what was there; what is written out of it is as long
as what was read.

The loop ends because a block that gives something leaves a shorter text
(`readBlock_shorter`). The stream is closed with the reader, so a second
call on it throws (`readAll`).
-/
import SkillBuddy.DotNet.Encoding

namespace SkillBuddy

namespace DotNet

-- ============================================================ the reader

/-- A stream that can seek: its bytes, its position, whether it is
open. -/
structure ByteStream where
  bytes : List UInt8
  position : Nat := 0
  isOpen : Bool := true
  deriving DecidableEq, Repr

/-- The exceptions of a stream. -/
inductive StreamExn where
  | objectDisposed
  deriving DecidableEq, Repr

/-- How many characters `Read` gives of those left when it is asked for
`count`: no more than there are, no more than asked for, and none only if
it can give none. -/
structure ReadSizes where
  amount (left count : Nat) : Nat
  le_left : ∀ left count, amount left count ≤ left
  le_count : ∀ left count, amount left count ≤ count
  pos : ∀ left count, 0 < left → 0 < count → 0 < amount left count

/-- The buffer after `units` were copied into it. -/
def copyTo (buffer : Str) (index : Nat) (units : Str) : Str :=
  buffer.take index ++ units ++ buffer.drop (index + units.length)

/-- `reader.ReadBlock(buffer, 0, count)`, `n` characters into the block:
the characters read, the buffer, and the text left. -/
def readBlock (sizes : ReadSizes) (count : Nat) (buffer text : Str)
    (n : Nat) : Nat × Str × Str :=
  let i := sizes.amount text.length (count - n)
  let buffer := copyTo buffer n (text.take i)
  let text := text.drop i
  if 0 < i ∧ n + i < count then
    readBlock sizes count buffer text (n + i)
  else (n + i, buffer, text)
termination_by count - n

-- ============================================= what one block takes away

/-- What a block takes from the text, and where the text goes on. -/
theorem readBlock_text (sizes : ReadSizes) (count : Nat)
    (buffer text : Str) (n : Nat) :
    ∃ i, (readBlock sizes count buffer text n).1 = n + i
      ∧ i = min (count - n) text.length
      ∧ (readBlock sizes count buffer text n).2.2 = text.drop i := by
  fun_induction readBlock sizes count buffer text n with
  | case1 buffer text n i buffer' text' hmore ih =>
      obtain ⟨j, hread, hj, htext⟩ := ih
      have hleft := sizes.le_left text.length (count - n)
      refine ⟨i + j, ?_, ?_, ?_⟩
      · rw [hread, Nat.add_assoc]
      · rw [hj, List.length_drop]
        omega
      · rw [htext, List.drop_drop]
  | case2 buffer text n i buffer' text' hdone =>
      refine ⟨i, rfl, ?_, rfl⟩
      have hleft := sizes.le_left text.length (count - n)
      have hcount := sizes.le_count text.length (count - n)
      have hpos := sizes.pos text.length (count - n)
      omega

/-- A block that is not empty leaves a shorter text; by this the loop
ends. -/
theorem readBlock_shorter {sizes : ReadSizes} {count : Nat}
    {buffer text : Str}
    (h : 0 < (readBlock sizes count buffer text 0).1) :
    (readBlock sizes count buffer text 0).2.2.length
      < text.length := by
  obtain ⟨i, hread, hi, htext⟩ :=
    readBlock_text sizes count buffer text 0
  rw [htext, List.length_drop]
  omega

end DotNet

-- ============================================================ the method

namespace Helper

open DotNet

/-- The loop of `ReadStreamInChunks`: what has been written once a block
comes back empty. -/
def writeBlocks (sizes : ReadSizes) (bufferLength : Nat)
    (buffer text textWriter : Str) : Str :=
  let block := readBlock sizes bufferLength buffer text 0
  if _ : 0 < block.1 then
    writeBlocks sizes bufferLength block.2.1 block.2.2
      (textWriter ++ block.2.1.take block.1)
  else textWriter
termination_by text.length
decreasing_by exact readBlock_shorter ‹_›

/-- `ReadStreamInChunks(stream)`: what it returns, and the stream after
it; the reader closes it. -/
def readStreamInChunks (sizes : ReadSizes) (stream : ByteStream) :
    Except StreamExn Str × ByteStream :=
  if stream.isOpen then
    let stream := { stream with position := 0 }
    let bufferLength := 4096
    let text := streamReaderReadToEnd .utf8
      (stream.bytes.drop stream.position)
    (.ok (writeBlocks sizes bufferLength
        (List.replicate bufferLength 0) text []),
      { stream with position := stream.bytes.length, isOpen := false })
  else (.error .objectDisposed, stream)

/-- Calls one after the other on streams, each with what the readers
give: what they return. -/
def readAll : List (ReadSizes × Nat) → (Nat → ByteStream) →
    List (Except StreamExn Str)
  | [], _ => []
  | (sizes, k) :: calls, streams =>
      (readStreamInChunks sizes (streams k)).1
        :: readAll calls (Function.update streams k
            (readStreamInChunks sizes (streams k)).2)

end Helper

end SkillBuddy
