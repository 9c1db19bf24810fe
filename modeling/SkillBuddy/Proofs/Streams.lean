/-
Reading in blocks is reading at once.

# Blocks

However many characters each `Read` gives, whatever the buffer holds and
whatever its length, a block is the text it took (`readBlock_buffer`) and
the blocks together are the text (`writeBlocks_eq`): the characters that
an earlier, longer block left behind in the buffer are never written,
since only as many are written as the block has. `ReadSizes` is what the
reader decides: some characters at each call, as long as there are some.

# Calls

The method rewinds a stream before it reads and leaves it closed
(`readStreamInChunks_eq`). So of several calls on streams that may be the
same ones, the first on an open stream returns its whole text, wherever
the stream stood, and every later one throws (`first_call_reads`). The
text is what a `StreamReader` for UTF-8 makes of the bytes, marks
included.
-/
import SkillBuddy.Core.Streams

namespace SkillBuddy

namespace DotNet

-- ============================================================ the buffer

/-- Copying into a buffer leaves its length. -/
theorem length_copyTo {buffer units : Str} {index : Nat}
    (h : index + units.length ≤ buffer.length) :
    (copyTo buffer index units).length = buffer.length := by
  unfold copyTo
  rw [List.length_append, List.length_append, List.length_take,
    List.length_drop]
  omega

/-- Up to the end of what was copied, the buffer holds what it held and
then that. -/
theorem take_copyTo {buffer units : Str} {index : Nat}
    (h : index + units.length ≤ buffer.length) :
    (copyTo buffer index units).take (index + units.length)
      = buffer.take index ++ units := by
  have hlength : (buffer.take index ++ units).length
      = index + units.length := by
    rw [List.length_append, List.length_take]
    omega
  unfold copyTo
  rw [← hlength, List.take_left]

/-- A block is in the buffer as it was in the text. -/
theorem readBlock_buffer (sizes : ReadSizes) (count : Nat)
    (buffer text : Str) (n : Nat) (hn : n ≤ count)
    (hcount : count ≤ buffer.length) :
    (readBlock sizes count buffer text n).2.1.length = buffer.length
    ∧ (readBlock sizes count buffer text n).2.1.take
        (readBlock sizes count buffer text n).1
      = buffer.take n
        ++ text.take ((readBlock sizes count buffer text n).1 - n) := by
  fun_induction readBlock sizes count buffer text n with
  | case1 buffer text n i buffer' text' hmore ih =>
      have hi : (text.take i).length = i :=
        List.length_take_of_le (sizes.le_left _ _)
      have hfits : n + (text.take i).length ≤ buffer.length := by
        rw [hi]
        omega
      have hlength : buffer'.length = buffer.length := length_copyTo hfits
      have hcopied : buffer'.take (n + i)
          = buffer.take n ++ text.take i := by
        have h := take_copyTo hfits
        rwa [hi] at h
      obtain ⟨hkept, htake⟩ := ih (by omega) (by omega)
      obtain ⟨j, hread, -, -⟩ :=
        readBlock_text sizes count buffer' text' (n + i)
      refine ⟨hkept.trans hlength, ?_⟩
      rw [htake, hcopied, hread, List.append_assoc,
        show n + i + j - (n + i) = j by omega,
        show n + i + j - n = i + j by omega, List.take_add]
  | case2 buffer text n i buffer' text' hdone =>
      have hi : (text.take i).length = i :=
        List.length_take_of_le (sizes.le_left _ _)
      have hfits : n + (text.take i).length ≤ buffer.length := by
        have hle := sizes.le_count text.length (count - n)
        rw [hi]
        omega
      have hcopied := take_copyTo hfits
      rw [hi] at hcopied
      refine ⟨length_copyTo hfits, hcopied.trans ?_⟩
      rw [Nat.add_sub_cancel_left]

end DotNet

namespace Helper

open DotNet

-- ============================================================ the blocks

/-- The blocks together are the text. By induction on what is left of it: a
block takes a character at least. -/
theorem writeBlocks_eq (sizes : ReadSizes) {bufferLength : Nat}
    (hpos : 0 < bufferLength) (buffer text textWriter : Str)
    (hbuffer : bufferLength ≤ buffer.length) :
    writeBlocks sizes bufferLength buffer text textWriter
      = textWriter ++ text := by
  fun_induction writeBlocks sizes bufferLength buffer text textWriter with
  | case1 buffer text textWriter block hread ih =>
      obtain ⟨hlength, htake⟩ := readBlock_buffer sizes bufferLength
        buffer text 0 (Nat.zero_le _) hbuffer
      obtain ⟨i, hi, -, hrest⟩ :=
        readBlock_text sizes bufferLength buffer text 0
      rw [Nat.zero_add] at hi
      rw [List.take_zero, List.nil_append, Nat.sub_zero, hi] at htake
      rw [ih (hbuffer.trans hlength.ge)]
      show textWriter ++ block.2.1.take block.1 ++ block.2.2
        = textWriter ++ text
      rw [hi, htake, hrest, List.append_assoc, List.take_append_drop]
  | case2 buffer text textWriter block hread =>
      obtain ⟨i, hi, hmin, -⟩ :=
        readBlock_text sizes bufferLength buffer text 0
      have hempty : text = [] := by
        rw [← List.length_eq_zero_iff]
        have hnone :
            ¬0 < (readBlock sizes bufferLength buffer text 0).1 := hread
        omega
      rw [hempty, List.append_nil]

/-- An open stream is read from its beginning to its end, and closed. -/
theorem readStreamInChunks_eq (sizes : ReadSizes) (stream : ByteStream) :
    readStreamInChunks sizes stream
      = if stream.isOpen then
          (.ok (streamReaderReadToEnd .utf8 stream.bytes),
            ⟨stream.bytes, stream.bytes.length, false⟩)
        else (.error .objectDisposed, stream) := by
  unfold readStreamInChunks
  dsimp only
  rw [List.drop_zero, writeBlocks_eq sizes (by decide) _ _ _
    List.length_replicate.ge, List.nil_append]

/-- After a call the stream is closed. -/
theorem readStreamInChunks_closes (sizes : ReadSizes)
    (stream : ByteStream) :
    (readStreamInChunks sizes stream).2.isOpen = false := by
  rw [readStreamInChunks_eq]
  cases hopen : stream.isOpen with
  | true => rfl
  | false => exact hopen

-- ============================================================= the calls

/-- The first call on an open stream returns its text, every later one on
it throws. -/
theorem first_call_reads {calls : List (ReadSizes × Nat)} {i : Nat}
    {sizes : ReadSizes} {k : Nat} (hcall : calls[i]? = some (sizes, k))
    (streams : Nat → ByteStream) :
    (readAll calls streams)[i]?
      = some (if (streams k).isOpen ∧ k ∉ (calls.take i).map Prod.snd then
          .ok (streamReaderReadToEnd .utf8 (streams k).bytes)
        else .error .objectDisposed) := by
  induction calls generalizing i streams with
  | nil => cases hcall
  | cons call calls ih =>
      obtain ⟨sizes', k'⟩ := call
      rw [readAll]
      cases i with
      | zero =>
          obtain ⟨rfl, rfl⟩ := Prod.mk.inj (Option.some.inj hcall)
          rw [List.getElem?_cons_zero, readStreamInChunks_eq,
            List.take_zero, List.map_nil]
          cases hopen : (streams k').isOpen with
          | true => rfl
          | false => rfl
      | succ i =>
          rw [List.getElem?_cons_succ] at hcall
          rw [List.getElem?_cons_succ, ih hcall, List.take_succ_cons,
            List.map_cons]
          by_cases hk : k = k'
          · subst hk
            rw [Function.update_self, readStreamInChunks_closes,
              if_neg (fun h => Bool.false_ne_true h.1),
              if_neg (fun h => h.2 List.mem_cons_self)]
          · rw [Function.update_of_ne hk]
            have hfirst : k ∉ (calls.take i).map Prod.snd
                ↔ k ∉ k' :: (calls.take i).map Prod.snd := by
              rw [List.mem_cons, not_or]
              exact (and_iff_right hk).symm
            exact congrArg some
              (if_congr (and_congr_right' hfirst) rfl rfl)

/-- A reader that gives one character at a time. -/
def oneByOne : ReadSizes where
  amount left count := min 1 (min left count)
  le_left left count := by omega
  le_count left count := by omega
  pos left count hleft hcount := by omega

/-- `"Hi"` behind a byte-order mark, from a stream at its end: the first
call reads it, the second throws. -/
theorem readAll_twice :
    (readAll [(oneByOne, 0), (oneByOne, 0)]
        fun _ => ⟨[0xEF, 0xBB, 0xBF, 0x48, 0x69], 5, true⟩)[0]?
      = some (.ok (str "Hi"))
    ∧ (readAll [(oneByOne, 0), (oneByOne, 0)]
        fun _ => ⟨[0xEF, 0xBB, 0xBF, 0x48, 0x69], 5, true⟩)[1]?
      = some (.error .objectDisposed) :=
  ⟨first_call_reads (show [(oneByOne, 0), (oneByOne, 0)][0]?
      = some (oneByOne, 0) from rfl) _,
    first_call_reads (show [(oneByOne, 0), (oneByOne, 0)][1]?
      = some (oneByOne, 0) from rfl) _⟩

end Helper

end SkillBuddy
