import MolidoVpn.Lib.Checked
import MolidoVpn.Lib.Text
import MolidoVpn.Lib.Utf8

/-!
Texts as the bytes of UTF-8 they are kept in. A position counts bytes, and a slice stops the
program unless both of its ends are boundaries of characters.
-/

namespace MolidoVpn

open Checked (Panic Safe)
open Utf8 (Valid encode fromUtf8Lossy isCharBoundary)

/-- `str` -/
structure Str where
  bytes : List UInt8
  valid : Valid bytes
  deriving DecidableEq

namespace Str

def ofChars (text : List Char) : Str := ⟨encode text, ⟨text, rfl⟩⟩

def len (text : Str) : Nat := text.bytes.length

def chars (text : Str) : List Char := fromUtf8Lossy text.bytes

def isBoundary (text : Str) (place : Nat) : Bool := isCharBoundary text.bytes place

/-- `push_str` -/
def append (text more : Str) : Str := ⟨text.bytes ++ more.bytes, text.valid.append more.valid⟩

/-- The position that `find` gives. -/
def find (text pattern : Str) : Option Nat :=
  (Text.splitAround pattern.bytes text.bytes).map fun (before, _) => before.length

/-- `&text[start..stop]` -/
def slice (text : Str) (start stop : Nat) : Except Panic Str :=
  if inside : start ≤ stop ∧ text.isBoundary start = true ∧ text.isBoundary stop = true then
    .ok ⟨(text.bytes.take stop).drop start,
      text.valid.between inside.1 inside.2.1 inside.2.2⟩
  else .error .slice

/-- `&text[start..]` -/
def sliceFrom (text : Str) (start : Nat) : Except Panic Str := text.slice start text.len

variable {text more pattern part : Str} {start stop place : Nat}

@[simp]
theorem chars_ofChars (text : List Char) : (ofChars text).chars = text :=
  Utf8.fromUtf8Lossy_encode text

@[simp]
theorem bytes_ofChars (text : List Char) : (ofChars text).bytes = encode text := rfl

@[simp]
theorem bytes_append (text more : Str) : (text.append more).bytes = text.bytes ++ more.bytes := rfl

@[simp]
theorem isBoundary_zero (text : Str) : text.isBoundary 0 = true := rfl

theorem isBoundary_len (text : Str) : text.isBoundary text.len = true := by
  have whole := Utf8.isCharBoundary_append text.valid ⟨[], Utf8.encode_nil⟩
  rw [List.append_nil] at whole
  exact whole

theorem le_of_isBoundary (boundary : text.isBoundary place = true) : place ≤ text.len :=
  (text.valid.cut boundary).1

theorem slice_ok (ordered : start ≤ stop) (first : text.isBoundary start = true)
    (second : text.isBoundary stop = true) :
    ∃ part, text.slice start stop = .ok part ∧ part.bytes = (text.bytes.take stop).drop start := by
  unfold slice
  rw [dif_pos ⟨ordered, first, second⟩]
  exact ⟨_, rfl, rfl⟩

theorem of_slice (sliced : text.slice start stop = .ok part) :
    start ≤ stop ∧ text.isBoundary start = true ∧ text.isBoundary stop = true ∧
      part.bytes = (text.bytes.take stop).drop start := by
  unfold slice at sliced
  split at sliced
  · rename_i inside
    cases sliced
    exact ⟨inside.1, inside.2.1, inside.2.2, rfl⟩
  · cases sliced

theorem slice_error (outside : ¬(start ≤ stop ∧ text.isBoundary start = true ∧
    text.isBoundary stop = true)) : text.slice start stop = .error .slice := dif_neg outside

theorem sliceFrom_ok (boundary : text.isBoundary start = true) :
    ∃ part, text.sliceFrom start = .ok part ∧ part.bytes = text.bytes.drop start := by
  obtain ⟨part, taken, same⟩ :=
    slice_ok (le_of_isBoundary boundary) boundary (isBoundary_len text)
  refine ⟨part, taken, ?_⟩
  rw [same, len, List.take_length]

theorem sliceFrom_error (off : text.isBoundary start = false) :
    text.sliceFrom start = .error .slice := by
  apply slice_error
  rw [off]
  rintro ⟨_, impossible, _⟩
  cases impossible

/-- The text from a position on falls into two texts. -/
theorem isBoundary_of_drop {front behind : List UInt8} (boundary : text.isBoundary start = true)
    (from_ : text.bytes.drop start = front ++ behind) (first : Valid front)
    (second : Valid behind) :
    text.isBoundary (start + front.length) = true := by
  have before := (text.valid.cut boundary).2.1
  have whole : text.bytes = (text.bytes.take start ++ front) ++ behind := by
    rw [List.append_assoc, ← from_, List.take_append_drop]
  have length : start + front.length = (text.bytes.take start ++ front).length := by
    rw [List.length_append, List.length_take_of_le (le_of_isBoundary boundary)]
  rw [isBoundary, length]
  conv => enter [1, 1]; rw [whole]
  exact Utf8.isCharBoundary_append (before.append first) second

end Str

end MolidoVpn
