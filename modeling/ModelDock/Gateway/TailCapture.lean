import Mathlib.Data.List.Basic

/-!
# The tail of a stream

The gateway keeps the last bytes of a response to read the usage from. A slice with an index outside of its buffer
fails, so that a run that succeeds has used none.
-/

namespace ModelDock.Gateway

/-- A writer that keeps the last `max` bytes. -/
structure TailCapture where
  max : ℕ
  buf : List UInt8

/-- `b[i:]`. -/
def sliceFrom (b : List UInt8) (i : ℕ) : Option (List UInt8) := if i ≤ b.length then some (b.drop i) else none

/-- `b[:i]`. -/
def sliceTo (b : List UInt8) (i : ℕ) : Option (List UInt8) := if i ≤ b.length then some (b.take i) else none

/-- What `copy(dst, src)` leaves in `dst`. -/
def copyInto (dst src : List UInt8) : List UInt8 := src.take dst.length ++ dst.drop src.length

/-- `Write`; none stands for a slice out of range. -/
def TailCapture.write (t : TailCapture) (p : List UInt8) : Option (TailCapture × ℕ) :=
  let n := p.length
  if t.max ≤ n then do
    let tail ← sliceFrom p (n - t.max)
    return (⟨t.max, tail⟩, n)
  else do
    -- A difference below zero is zero here; neither is an overflow.
    let overflow := t.buf.length + n - t.max
    let buf ← if 0 < overflow then do
        let rest ← sliceFrom t.buf overflow
        sliceTo (copyInto t.buf rest) (t.buf.length - overflow)
      else some t.buf
    return (⟨t.max, buf ++ p⟩, n)

/-- Write one slice after the other; the writes report lengths. -/
def TailCapture.writeAll : TailCapture → List (List UInt8) → Option (TailCapture × List ℕ)
  | t, [] => some (t, [])
  | t, p :: rest => do
    let (t, n) ← t.write p
    let (t, lengths) ← t.writeAll rest
    return (t, n :: lengths)

/-- The last bytes of a stream, at most `max` of them. -/
def lastBytes (max : ℕ) (stream : List UInt8) : List UInt8 := stream.drop (stream.length - max)

variable {max k : ℕ} {b p stream : List UInt8}

theorem lastBytes_append : lastBytes max (lastBytes max stream ++ p) = lastBytes max (stream ++ p) := by
  have hdrop : lastBytes max stream ++ p = (stream ++ p).drop (stream.length - max) :=
    (List.drop_append_of_le_length (Nat.sub_le _ _)).symm
  rw [hdrop, lastBytes, lastBytes, List.drop_drop, List.length_drop, List.length_append]
  congr 1
  omega

/-- Shifting a buffer in place leaves its end. -/
theorem sliceTo_copyInto : sliceTo (copyInto b (b.drop k)) (b.length - k) = some (b.drop k) := by
  have hcp : copyInto b (b.drop k) = b.drop k ++ b.drop (b.length - k) := by
    rw [copyInto, List.take_of_length_le (by simp), List.length_drop]
  rw [hcp, ← List.length_drop, sliceTo, if_pos (by simp), List.take_left]

theorem write_eq : TailCapture.write ⟨max, b⟩ p = some (⟨max, lastBytes max (b ++ p)⟩, p.length) := by
  unfold TailCapture.write lastBytes
  rw [List.length_append]
  by_cases hlong : max ≤ p.length
  · rw [Nat.add_sub_assoc hlong, List.drop_length_add_append]
    simp [hlong, sliceFrom]
  · have hfits : b.length + p.length - max ≤ b.length := by omega
    rw [List.drop_append_of_le_length hfits]
    by_cases hover : 0 < b.length + p.length - max
    · simp [hlong, hover, sliceFrom, hfits, sliceTo_copyInto]
    · simp [hlong, Nat.eq_zero_of_not_pos hover]

/-- After any writes the capture holds the last bytes of all that was written. -/
theorem writeAll_holds_last_bytes (max : ℕ) (writes : List (List UInt8)) :
    TailCapture.writeAll ⟨max, []⟩ writes = some (⟨max, lastBytes max writes.flatten⟩, writes.map List.length) := by
  have hall (stream : List UInt8) : TailCapture.writeAll ⟨max, lastBytes max stream⟩ writes =
      some (⟨max, lastBytes max (stream ++ writes.flatten)⟩, writes.map List.length) := by
    induction writes generalizing stream with
    | nil => simp [TailCapture.writeAll]
    | cons p rest ih =>
      rw [TailCapture.writeAll, write_eq, lastBytes_append]
      simp [ih]
  simpa [lastBytes] using hall []

end ModelDock.Gateway
