import MolidoVpn.Lib.Inet
import MolidoVpn.Lib.Kotlin
import MolidoVpn.Noize.Config

/-!
The patterns of the first packets (`parse_cps`) and the disguise of the first one as a key exchange
(`wrap_ikev2`). A pattern of two kilobytes may ask for more bytes than a datagram holds, and its
size goes into sixteen bits.
-/

namespace MolidoVpn.Noize

open Inet (longAt)
open Kotlin (hexDigit)
open Text (isWhitespace splitAround stripPrefix trim)

section Parsing

/-- `usize::from_str`; a plus sign is allowed. -/
def parseUsize (text : List Char) : Option Nat :=
  let digits := if text.head? = some '+' then text.tail else text
  if digits = [] ∨ digits.all Char.isDigit = false then none
  else
    let value := Nat.ofDigitChars 10 digits 0
    if value < 2 ^ 64 then some value else none

/-- The two ends of a range, if the data is one. -/
def rangeEnds (data : List Char) : Option (Nat × Nat) :=
  match data.splitOn '-' with
  | low :: high :: _ =>
      let min := (parseUsize (trim low)).getD 0
      let max := (parseUsize (trim high)).getD 0
      if max > min ∧ min > 0 then some (min, max) else none
  | _ => none

def parseRange (data : List Char) (draw : Draw) : Nat :=
  match rangeEnds data with
  | some (low, high) => min (randomRange low high draw) 2048
  | none => min ((parseUsize (trim data)).getD 0) 2048

/-- What `<([a-z]+)\s*([^>]*)>` finds from left to right: the longest run of letters, and what is
between it and the next `>`, without the white space around it. -/
def capturesFrom : Nat → List Char → List (List Char × List Char)
  | 0, _ => []
  | _, [] => []
  | turns + 1, c :: rest =>
      let letters := rest.takeWhile Char.isLower
      if c = '<' ∧ letters ≠ [] then
        match splitAround ['>'] (rest.dropWhile Char.isLower) with
        | none => capturesFrom turns rest
        | some (data, after) => (letters, trim data) :: capturesFrom turns after
      else capturesFrom turns rest

/-- The tags of a pattern; every turn moves forward. -/
def captures (spec : List Char) : List (List Char × List Char) := capturesFrom spec.length spec

/-- `hex::decode` -/
def hexDecode : List Char → Option (List UInt8)
  | [] => some []
  | [_] => none
  | high :: low :: rest =>
      (hexDigit high).bind fun high => (hexDigit low).bind fun low =>
        (hexDecode rest).map fun bytes => (high * 16 + low) :: bytes

/-- The bytes of a `<b ..>`. -/
def hexData (data : List Char) : List UInt8 :=
  let hexStr := data.filter fun c => !isWhitespace c
  let clean := ((stripPrefix "0x".toList hexStr).or (stripPrefix "0X".toList hexStr)).getD hexStr
  (hexDecode clean).getD []

def letters : List Char := "abcdefghijklmnopqrstuvwxyzABCDEFGHIJKLMNOPQRSTUVWXYZ".toList

def digits : List Char := "0123456789".toList

/-- Characters that are drawn from a list of them. -/
def randomChars (chars : List Char) (size : Nat) (draw : Draw) : List UInt8 :=
  (List.range size).map fun place =>
    UInt8.ofNat (chars.getD (draw.filler place % chars.length) ' ').toNat

/-- `to_be_bytes` of the seconds since the epoch, as an `u32`. -/
def longBytes (value : UInt32) : List UInt8 :=
  Inet.word (value.toNat / 65536) ++ Inet.word (value.toNat % 65536)

def tagBytes (now : Nat) (draw : Draw) : List Char × List Char → List UInt8
  | (tag, data) =>
      if tag = "b".toList then hexData data
      else if tag = "t".toList then longBytes (UInt32.ofNat now)
      else if tag = "c".toList then longBytes (UInt32.ofNat (now % 0xFFFFFFFF))
      else if tag = "r".toList then randomBytes (parseRange data draw) draw
      else if tag = "rc".toList then randomChars letters (parseRange data draw) draw
      else if tag = "rd".toList then randomChars digits (parseRange data draw) draw
      else []

/-- `parse_cps`; every tag has a draw of its own. -/
def parseCps (spec : List Char) (now : Nat) (draws : Nat → Draw) : List UInt8 :=
  (captures spec).zipIdx.flatMap fun (tag, place) => tagBytes now (draws place) tag

/-- `wrap_ikev2`; the sum of sixteen bits wraps around. -/
def wrapIkev2 (payload : List UInt8) (initiator responder : Draw) : List UInt8 :=
  if payload = [] then payload
  else
    let initiatorSpi :=
      if payload.length ≥ 8 then payload.take 8 else randomBytes 8 initiator
    let responderSpi := randomBytes 8 responder
    let totalLength : UInt32 := 28 + 24 + UInt32.ofNat payload.length
    let saPayloadLength : UInt16 := 24 + UInt16.ofNat payload.length
    initiatorSpi ++ responderSpi ++ [0x21, 0x20, 0x22, 0x08] ++ [0x00, 0x00, 0x00, 0x00] ++
      longBytes totalLength ++ [0x00, 0x00] ++ Inet.word saPayloadLength.toNat ++
      [0x00, 0x00, 0x00, 0x14, 0x01, 0x01, 0x00, 0x04, 0x03, 0x00, 0x00, 0x08, 0x01, 0x00, 0x00,
        0x0c, 0x00, 0x00, 0x00, 0x00] ++ payload

end Parsing

section Sizes

/-- The largest number that the data of a random tag stands for. -/
def largestRange (data : List Char) : Nat :=
  match rangeEnds data with
  | some (_, high) => min high 2048
  | none => min ((parseUsize (trim data)).getD 0) 2048

/-- The most bytes that a tag stands for. -/
def largest : List Char × List Char → Nat
  | (tag, data) =>
      if tag = "b".toList then (hexData data).length
      else if tag = "t".toList ∨ tag = "c".toList then 4
      else if tag = "r".toList ∨ tag = "rc".toList ∨ tag = "rd".toList then largestRange data
      else 0

/-- The most bytes that a pattern stands for. -/
def largestPayload (spec : List Char) : Nat := ((captures spec).map largest).sum

theorem length_randomBytes (size : Nat) (draw : Draw) : (randomBytes size draw).length = size := by
  rw [randomBytes, List.length_map, List.length_range]

theorem length_randomChars (chars : List Char) (size : Nat) (draw : Draw) :
    (randomChars chars size draw).length = size := by
  rw [randomChars, List.length_map, List.length_range]

theorem parseUsize_lt {text : List Char} : (parseUsize text).getD 0 < 2 ^ 64 := by
  unfold parseUsize
  dsimp only
  generalize (if text.head? = some '+' then text.tail else text) = digits
  split
  · exact Nat.two_pow_pos 64
  · split
    · rename_i small
      exact small
    · exact Nat.two_pow_pos 64

theorem rangeEnds_some {data : List Char} {low high : Nat}
    (ends : rangeEnds data = some (low, high)) : low ≤ high ∧ high < 2 ^ 64 := by
  unfold rangeEnds at ends
  split at ends
  · rename_i first second _ _
    have bound : (parseUsize (trim second)).getD 0 < 2 ^ 64 := parseUsize_lt
    dsimp only at ends
    split at ends
    · cases ends
      exact ⟨by omega, bound⟩
    · cases ends
  · cases ends

/-- The draw that takes the end of every range. -/
def highest : Draw := ⟨2 ^ 64, fun _ => 0⟩

theorem parseRange_le (data : List Char) (draw : Draw) :
    parseRange data draw ≤ largestRange data := by
  unfold parseRange largestRange
  cases ends : rangeEnds data with
  | none => exact Nat.le_refl _
  | some pair =>
      have ordered := (rangeEnds_some ends).1
      dsimp only
      unfold randomRange
      omega

theorem parseRange_highest (data : List Char) : parseRange data highest = largestRange data := by
  unfold parseRange largestRange
  cases ends : rangeEnds data with
  | none => rfl
  | some pair =>
      have bounds := rangeEnds_some ends
      have drawn : randomRange pair.1 pair.2 highest = pair.2 := by
        change max pair.1 (min pair.2 (2 ^ 64)) = pair.2
        omega
      dsimp only
      rw [drawn]

/-- The number of bytes of a tag follows from what its data stands for. -/
theorem length_tagBytes (now : Nat) (draw : Draw) (tag data : List Char) :
    (tagBytes now draw (tag, data)).length =
      if tag = "b".toList then (hexData data).length
      else if tag = "t".toList ∨ tag = "c".toList then 4
      else if tag = "r".toList ∨ tag = "rc".toList ∨ tag = "rd".toList then parseRange data draw
      else 0 := by
  rw [tagBytes]
  by_cases b : tag = "b".toList
  · rw [if_pos b, if_pos b]
  rw [if_neg b, if_neg b]
  by_cases t : tag = "t".toList
  · rw [if_pos t, if_pos (Or.inl t)]
    rfl
  rw [if_neg t]
  by_cases c : tag = "c".toList
  · rw [if_pos c, if_pos (Or.inr c)]
    rfl
  rw [if_neg c, if_neg (not_or.mpr ⟨t, c⟩)]
  by_cases r : tag = "r".toList
  · rw [if_pos r, if_pos (Or.inl r), length_randomBytes]
  rw [if_neg r]
  by_cases rc : tag = "rc".toList
  · rw [if_pos rc, if_pos (Or.inr (Or.inl rc)), length_randomChars]
  rw [if_neg rc]
  by_cases rd : tag = "rd".toList
  · rw [if_pos rd, if_pos (Or.inr (Or.inr rd)), length_randomChars]
  rw [if_neg rd, if_neg (not_or.mpr ⟨r, not_or.mpr ⟨rc, rd⟩⟩)]
  rfl

theorem length_tagBytes_le (now : Nat) (draw : Draw) (tag : List Char × List Char) :
    (tagBytes now draw tag).length ≤ largest tag := by
  obtain ⟨tag, data⟩ := tag
  have range := parseRange_le data draw
  rw [length_tagBytes, largest]
  split
  · exact Nat.le_refl _
  · split
    · exact Nat.le_refl _
    · split
      · exact range
      · exact Nat.le_refl _

theorem length_tagBytes_highest (now : Nat) (tag : List Char × List Char) :
    (tagBytes now highest tag).length = largest tag := by
  obtain ⟨tag, data⟩ := tag
  rw [length_tagBytes, largest, parseRange_highest]

variable {now : Nat} {draws : Nat → Draw}

theorem length_tags_le (tags : List (List Char × List Char)) (place : Nat) :
    ((tags.zipIdx place).flatMap fun (tag, place) => tagBytes now (draws place) tag).length ≤
      (tags.map largest).sum := by
  induction tags generalizing place with
  | nil => exact Nat.le_refl _
  | cons tag tags ih =>
      have first := length_tagBytes_le now (draws place) tag
      have later := ih (place + 1)
      rw [List.zipIdx_cons, List.flatMap_cons, List.length_append, List.map_cons, List.sum_cons]
      exact Nat.add_le_add first later

theorem length_tags_highest (tags : List (List Char × List Char)) (place : Nat) :
    ((tags.zipIdx place).flatMap fun (tag, _) => tagBytes now highest tag).length =
      (tags.map largest).sum := by
  induction tags generalizing place with
  | nil => rfl
  | cons tag tags ih =>
      rw [List.zipIdx_cons, List.flatMap_cons, List.length_append, List.map_cons, List.sum_cons,
        length_tagBytes_highest, ih]

theorem length_parseCps_le (spec : List Char) (now : Nat) (draws : Nat → Draw) :
    (parseCps spec now draws).length ≤ largestPayload spec :=
  length_tags_le _ 0

theorem length_parseCps_highest (spec : List Char) (now : Nat) :
    (parseCps spec now fun _ => highest).length = largestPayload spec :=
  length_tags_highest _ 0

end Sizes

section Framing

/-- A datagram whose two length fields are the length of the datagram and of what is behind its
first header, and which fits into a UDP packet. -/
structure Framed (datagram : List UInt8) : Prop where
  total : longAt datagram 24 = datagram.length
  nested : Inet.wordAt datagram 30 = datagram.length - 28
  short : datagram.length ≤ 65507

variable {payload : List UInt8} {initiator responder : Draw}

/-- The first sixteen bytes. -/
theorem wrapIkev2_eq (some_ : payload ≠ []) :
    ∃ spis : List UInt8, spis.length = 16 ∧
      wrapIkev2 payload initiator responder =
        (spis ++ [0x21, 0x20, 0x22, 0x08, 0x00, 0x00, 0x00, 0x00]) ++
          (longBytes (28 + 24 + UInt32.ofNat payload.length) ++ ([0x00, 0x00] ++
            (Inet.word (24 + UInt16.ofNat payload.length).toNat ++
              ([0x00, 0x00, 0x00, 0x14, 0x01, 0x01, 0x00, 0x04, 0x03, 0x00, 0x00, 0x08, 0x01,
                0x00, 0x00, 0x0c, 0x00, 0x00, 0x00, 0x00] ++ payload)))) := by
  refine ⟨(if payload.length ≥ 8 then payload.take 8 else randomBytes 8 initiator) ++
    randomBytes 8 responder, ?_, ?_⟩
  · rw [List.length_append, length_randomBytes]
    split
    · rw [List.length_take]
      omega
    · rw [length_randomBytes]
  · rw [wrapIkev2, if_neg some_]
    dsimp only
    simp only [List.append_assoc, List.cons_append, List.nil_append]

theorem longAt_front (first rest : List UInt8) (value : UInt32) :
    longAt (first ++ (longBytes value ++ rest)) first.length = value.toNat := by
  have bound := value.toNat_lt
  have high : Inet.wordAt (first ++ (longBytes value ++ rest)) first.length =
      value.toNat / 65536 := by
    rw [longBytes, List.append_assoc]
    exact Inet.wordAt_front first _ (by omega)
  have low : Inet.wordAt (first ++ (longBytes value ++ rest)) (first.length + 2) =
      value.toNat % 65536 := by
    have behind := Inet.wordAt_front (first ++ Inet.word (value.toNat / 65536)) rest
      (Nat.mod_lt value.toNat (by decide : 65536 > 0))
    rw [List.length_append, List.append_assoc] at behind
    rw [longBytes, List.append_assoc]
    exact behind
  rw [longAt, high, low]
  exact Nat.div_add_mod' value.toNat 65536

/-- The disguise holds up to the size at which the datagram is full. -/
theorem framed_iff (some_ : payload ≠ []) :
    Framed (wrapIkev2 payload initiator responder) ↔ payload.length ≤ 65455 := by
  obtain ⟨spis, sixteen, whole⟩ := @wrapIkev2_eq payload initiator responder some_
  generalize front : spis ++ [0x21, 0x20, 0x22, 0x08, 0x00, 0x00, 0x00, 0x00] = header at whole
  have twentyFour : header.length = 24 := by
    rw [← front, List.length_append, sixteen]
    rfl
  have length : (wrapIkev2 payload initiator responder).length = 52 + payload.length := by
    rw [whole]
    simp only [List.length_append, twentyFour, longBytes, Inet.word, List.length_cons,
      List.length_nil]
    omega
  constructor
  · intro framed
    have := framed.short
    omega
  · intro small
    have total : (28 + 24 + UInt32.ofNat payload.length : UInt32).toNat = 52 + payload.length := by
      rw [UInt32.toNat_add, UInt32.toNat_ofNat', show (28 + 24 : UInt32).toNat = 52 from rfl]
      omega
    have nested : (24 + UInt16.ofNat payload.length : UInt16).toNat = 24 + payload.length := by
      rw [UInt16.toNat_add, UInt16.toNat_ofNat', show (24 : UInt16).toNat = 24 from rfl]
      omega
    refine ⟨?_, ?_, by omega⟩
    · rw [length, whole, ← twentyFour, longAt_front, total]
    · have behind := Inet.wordAt_front
        (header ++ (longBytes (28 + 24 + UInt32.ofNat payload.length) ++ [0x00, 0x00]))
        ([0x00, 0x00, 0x00, 0x14, 0x01, 0x01, 0x00, 0x04, 0x03, 0x00, 0x00, 0x08, 0x01, 0x00, 0x00,
          0x0c, 0x00, 0x00, 0x00, 0x00] ++ payload)
        (UInt16.toNat_lt (24 + UInt16.ofNat payload.length))
      rw [List.length_append, twentyFour, List.append_assoc, List.append_assoc] at behind
      rw [length, whole]
      refine (Eq.trans behind ?_)
      rw [nested]
      omega

end Framing

end MolidoVpn.Noize
