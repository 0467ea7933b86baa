import MolidoVpn.Tun.ExitIp

/-!
The MSS clamp of the bridge (`clamp_tcp_mss`). It rewrites TCP options and checksums
only, so the headers that tell one kind of packet from another stay as they are.
-/

namespace MolidoVpn.Tun

def ipTcpOverhead : Nat := 40 + 20

def recomputeTcpChecksum (packet : List UInt8) (ipHeaderLen : Nat) (version : UInt8) :
    List UInt8 :=
  let tcpLen := packet.length - ipHeaderLen
  let packet := putWord packet (ipHeaderLen + 16) 0
  let pseudo :=
    if version = 4 then onesComplementSum (slice packet 12 20) 0
    else onesComplementSum (slice packet 8 40) 0
  let sum := onesComplementSum (packet.drop ipHeaderLen) (pseudo + 6 + tcpLen)
  putWord packet (ipHeaderLen + 16) (fold sum)

/-- The walk over the options; every turn moves forward, and none of them changes anything before
the last. -/
def clampOptions (packet : List UInt8) (ipHeaderLen optionsEnd : Nat) (target : UInt16)
    (version : UInt8) : Nat → Nat → List UInt8 × Bool
  | 0, _ => (packet, false)
  | turns + 1, index =>
      if index + 1 < optionsEnd then
        let kind := byteAt packet index
        let len := byteAt packet (index + 1)
        if kind = 0 then (packet, false)
        else if kind = 1 then
          clampOptions packet ipHeaderLen optionsEnd target version turns (index + 1)
        else if kind = 2 then
          if len ≠ 4 ∨ index + 4 > optionsEnd then (packet, false)
          else if wordAt packet (index + 2) ≤ target then (packet, false)
          else (recomputeTcpChecksum (putWord packet (index + 2) target) ipHeaderLen version, true)
        else if len < 2 then (packet, false)
        else clampOptions packet ipHeaderLen optionsEnd target version turns (index + len.toNat)
      else (packet, false)

/-- The header length and the protocol, where the version and the length allow to read them. -/
def ipHeader (packet : List UInt8) : Option (Nat × UInt8) :=
  if packet.isEmpty then none
  else if byteAt packet 0 >>> 4 = 4 then
    if packet.length < 20 then none
    else some ((byteAt packet 0 &&& 0x0f).toNat * 4, byteAt packet 9)
  else if byteAt packet 0 >>> 4 = 6 then
    if packet.length < 40 then none else some (40, byteAt packet 6)
  else none

def clampTcpMss (packet : List UInt8) (maxInner : Nat) : List UInt8 × Bool :=
  match ipHeader packet with
  | none => (packet, false)
  | some (tcp, protocol) =>
      if protocol ≠ 6 ∨ packet.length < tcp + 20 then (packet, false)
      else if byteAt packet (tcp + 13) &&& 0x02 = 0 then (packet, false)
      else
        let dataOffset := (byteAt packet (tcp + 12) >>> 4).toNat * 4
        if dataOffset < 20 ∨ packet.length < tcp + dataOffset then (packet, false)
        else
          let target := maxInner - ipTcpOverhead
          if target = 0 ∨ target > 65535 then (packet, false)
          else
            clampOptions packet tcp (tcp + dataOffset) (UInt16.ofNat target)
              (byteAt packet 0 >>> 4) (tcp + dataOffset) (tcp + 20)

theorem byteAt_set_ne {bytes : List UInt8} {index place : Nat} (value : UInt8)
    (other : place ≠ index) : byteAt (bytes.set index value) place = byteAt bytes place := by
  unfold byteAt
  rw [List.getD_eq_getElem?_getD, List.getD_eq_getElem?_getD, List.getElem?_set_ne other.symm]

theorem byteAt_set_self {bytes : List UInt8} {index : Nat} (value : UInt8)
    (inside : index < bytes.length) : byteAt (bytes.set index value) index = value := by
  unfold byteAt
  rw [List.getD_eq_getElem?_getD, List.getElem?_set_self inside, Option.getD_some]

theorem byteAt_putWord_ne {bytes : List UInt8} {index place : Nat} (word : UInt16)
    (other : place < index ∨ index + 1 < place) :
    byteAt (putWord bytes index word) place = byteAt bytes place := by
  rw [putWord, byteAt_set_ne _ (by omega), byteAt_set_ne _ (by omega)]

theorem wordAt_putWord {bytes : List UInt8} {index : Nat} (word : UInt16)
    (inside : index + 1 < bytes.length) : wordAt (putWord bytes index word) index = word := by
  have small := word.toNat_lt
  have high : (UInt8.ofNat (word.toNat / 256)).toNat = word.toNat / 256 := by
    rw [UInt8.toNat_ofNat']
    omega
  have low : (UInt8.ofNat (word.toNat % 256)).toNat = word.toNat % 256 := by
    rw [UInt8.toNat_ofNat']
    omega
  rw [wordAt, putWord, byteAt_set_ne _ (by omega), byteAt_set_self _ (by omega),
    byteAt_set_self _ (by rw [List.length_set]; exact inside), high, low]
  apply UInt16.toNat_inj.mp
  rw [UInt16.toNat_ofNat']
  omega

theorem byteAt_recomputeTcpChecksum {packet : List UInt8} {ipHeaderLen place : Nat}
    (version : UInt8) (other : place < ipHeaderLen + 16 ∨ ipHeaderLen + 18 ≤ place) :
    byteAt (recomputeTcpChecksum packet ipHeaderLen version) place = byteAt packet place := by
  unfold recomputeTcpChecksum
  rw [byteAt_putWord_ne _ (by omega), byteAt_putWord_ne _ (by omega)]

/-- From an option on, the walk changes the checksum and what comes after the option's kind and
length. -/
theorem byteAt_clampOptions {packet : List UInt8} {ipHeaderLen optionsEnd place : Nat}
    {target : UInt16} {version : UInt8} {turns : Nat} :
    ∀ index, ipHeaderLen + 20 ≤ index →
      place < ipHeaderLen + 16 ∨ ipHeaderLen + 18 ≤ place ∧ place < index + 2 →
      byteAt (clampOptions packet ipHeaderLen optionsEnd target version turns index).1 place =
        byteAt packet place := by
  induction turns with
  | zero =>
      intro index _ _
      rfl
  | succ turns ih =>
      intro index options other
      rw [clampOptions]
      split
      · simp only
        split
        · rfl
        · split
          · exact ih (index + 1) (by omega) (by omega)
          · split
            · split
              · rfl
              · split
                · rfl
                · rw [byteAt_recomputeTcpChecksum version (by omega),
                    byteAt_putWord_ne target (by omega)]
            · split
              · rfl
              · exact ih _ (by omega) (by omega)
      · rfl

/-- The bytes before the TCP checksum are never touched. -/
theorem byteAt_clampTcpMss {packet : List UInt8} {maxInner place : Nat} (early : place < 16) :
    byteAt (clampTcpMss packet maxInner).1 place = byteAt packet place := by
  unfold clampTcpMss
  split
  · rfl
  · rename_i tcp protocol _
    split
    · rfl
    · split
      · rfl
      · simp only
        split
        · rfl
        · split
          · rfl
          · exact byteAt_clampOptions _ (Nat.le_refl _) (by omega)

/-- Only TCP is clamped. -/
theorem clampTcpMss_of_udp {packet : List UInt8} (v4 : byteAt packet 0 >>> 4 = 4)
    (udp : byteAt packet 9 = 17) (maxInner : Nat) :
    clampTcpMss packet maxInner = (packet, false) := by
  unfold clampTcpMss ipHeader
  rw [if_pos v4, udp]
  by_cases empty : packet.isEmpty = true
  · rw [if_pos empty]
  · rw [if_neg empty]
    by_cases short : packet.length < 20
    · rw [if_pos short]
    · rw [if_neg short]
      exact if_pos (Or.inl (by decide))

/-- A reply is the same reply after the clamp. -/
theorem matches_clampTcpMss (probe : Probe) (packet : List UInt8) (maxInner : Nat) :
    probe.matches (clampTcpMss packet maxInner).1 = probe.matches packet := by
  by_cases datagram : byteAt packet 0 >>> 4 = 4 ∧ byteAt packet 9 = 17
  · rw [clampTcpMss_of_udp datagram.1 datagram.2]
  · have other := not_and_or.mp datagram
    rw [Probe.not_matches other, Probe.not_matches]
    rw [byteAt_clampTcpMss (by decide), byteAt_clampTcpMss (by decide)]
    exact other

section Mss

/-- The MSS option as the other end reads it. -/
def readMss (packet : List UInt8) (optionsEnd : Nat) : Nat → Nat → Option UInt16
  | 0, _ => none
  | turns + 1, index =>
      if index + 1 < optionsEnd then
        let kind := byteAt packet index
        let len := byteAt packet (index + 1)
        if kind = 0 then none
        else if kind = 1 then readMss packet optionsEnd turns (index + 1)
        else if kind = 2 then
          if len ≠ 4 ∨ index + 4 > optionsEnd then none else some (wordAt packet (index + 2))
        else if len < 2 then none
        else readMss packet optionsEnd turns (index + len.toNat)
      else none

/-- The option of a SYN, if the packet is one and if it has one. -/
def synMss (packet : List UInt8) : Option (Option UInt16) :=
  match ipHeader packet with
  | none => none
  | some (tcp, protocol) =>
      let dataOffset := (byteAt packet (tcp + 12) >>> 4).toNat * 4
      if protocol ≠ 6 ∨ packet.length < tcp + 20 ∨ byteAt packet (tcp + 13) &&& 0x02 = 0 ∨
          dataOffset < 20 ∨ packet.length < tcp + dataOffset then none
      else some (readMss packet (tcp + dataOffset) (tcp + dataOffset) (tcp + 20))

theorem length_putWord (bytes : List UInt8) (index : Nat) (word : UInt16) :
    (putWord bytes index word).length = bytes.length := by
  rw [putWord, List.length_set, List.length_set]

theorem length_clampOptions (packet : List UInt8) (ipHeaderLen optionsEnd : Nat)
    (target : UInt16) (version : UInt8) (turns index : Nat) :
    (clampOptions packet ipHeaderLen optionsEnd target version turns index).1.length =
      packet.length := by
  induction turns generalizing index with
  | zero => rfl
  | succ turns ih =>
      rw [clampOptions]
      dsimp only
      split
      · split
        · rfl
        · split
          · exact ih _
          · split
            · split
              · rfl
              · split
                · rfl
                · rw [recomputeTcpChecksum, length_putWord, length_putWord, length_putWord]
            · split
              · rfl
              · exact ih _
      · rfl

def smallerMss (target mss : UInt16) : UInt16 := if mss ≤ target then mss else target

/-- A word among the options is there as it was put when the checksum has been put in. -/
theorem wordAt_recomputed {packet : List UInt8} {tcp place : Nat} (target : UInt16)
    (version : UInt8) (behind : tcp + 18 ≤ place) (inside : place + 2 ≤ packet.length) :
    wordAt (recomputeTcpChecksum (putWord packet place target) tcp version) place = target := by
  rw [wordAt, byteAt_recomputeTcpChecksum version (by omega),
    byteAt_recomputeTcpChecksum version (by omega)]
  exact wordAt_putWord target inside

/-- The walk leaves the smaller of the option and the target. -/
theorem readMss_clampOptions {packet : List UInt8} {ipHeaderLen optionsEnd : Nat}
    {target : UInt16} {version : UInt8} (within : optionsEnd ≤ packet.length) {turns : Nat} :
    ∀ index, ipHeaderLen + 20 ≤ index →
      readMss (clampOptions packet ipHeaderLen optionsEnd target version turns index).1
          optionsEnd turns index =
        (readMss packet optionsEnd turns index).map (smallerMss target) := by
  induction turns with
  | zero =>
      intro index _
      rfl
  | succ turns ih =>
      intro index options
      have kind : byteAt (clampOptions packet ipHeaderLen optionsEnd target version (turns + 1)
          index).1 index = byteAt packet index :=
        byteAt_clampOptions index options (by omega)
      have len : byteAt (clampOptions packet ipHeaderLen optionsEnd target version (turns + 1)
          index).1 (index + 1) = byteAt packet (index + 1) :=
        byteAt_clampOptions index options (by omega)
      by_cases more : index + 1 < optionsEnd
      · by_cases end_ : byteAt packet index = 0
        · simp only [readMss, kind, if_pos more, if_pos end_, Option.map_none]
        by_cases noop : byteAt packet index = 1
        · have step : clampOptions packet ipHeaderLen optionsEnd target version (turns + 1) index =
              clampOptions packet ipHeaderLen optionsEnd target version turns (index + 1) := by
            simp only [clampOptions, if_pos more, if_neg end_, if_pos noop]
          simp only [readMss, kind, if_pos more, if_neg end_, if_pos noop]
          rw [step]
          exact ih _ (by omega)
        by_cases option : byteAt packet index = 2
        · simp only [readMss, kind, len, if_pos more, if_neg end_, if_neg noop, if_pos option]
          by_cases broken : byteAt packet (index + 1) ≠ 4 ∨ index + 4 > optionsEnd
          · rw [if_pos broken, if_pos broken, Option.map_none]
          · rw [if_neg broken, if_neg broken, Option.map_some]
            simp only [clampOptions, if_pos more, if_neg end_, if_neg noop, if_pos option,
              if_neg broken]
            by_cases small : wordAt packet (index + 2) ≤ target
            · rw [if_pos small, smallerMss, if_pos small]
            · rw [if_neg small, smallerMss, if_neg small,
                wordAt_recomputed target version (by omega) (by omega)]
        by_cases short : byteAt packet (index + 1) < 2
        · simp only [readMss, kind, len, if_pos more, if_neg end_, if_neg noop, if_neg option,
            if_pos short, Option.map_none]
        · have long : 2 ≤ (byteAt packet (index + 1)).toNat :=
            UInt8.le_iff_toNat_le.mp (UInt8.not_lt.mp short)
          have step : clampOptions packet ipHeaderLen optionsEnd target version (turns + 1) index =
              clampOptions packet ipHeaderLen optionsEnd target version turns
                (index + (byteAt packet (index + 1)).toNat) := by
            simp only [clampOptions, if_pos more, if_neg end_, if_neg noop, if_neg option,
              if_neg short]
          simp only [readMss, kind, len, if_pos more, if_neg end_, if_neg noop, if_neg option,
            if_neg short]
          rw [step]
          exact ih _ (by omega)
      · simp only [readMss, if_neg more, Option.map_none]

/-- What the clamp does to an MSS. -/
def clampedMss (maxInner : Nat) (mss : UInt16) : UInt16 :=
  let target := maxInner - ipTcpOverhead
  if target = 0 ∨ target > 65535 then mss else smallerMss (UInt16.ofNat target) mss

theorem ipHeader_congr {packet after : List UInt8} (length : after.length = packet.length)
    (same : ∀ place < 16, byteAt after place = byteAt packet place) :
    ipHeader after = ipHeader packet := by
  have empty : after.isEmpty = packet.isEmpty := by
    rw [Bool.eq_iff_iff, List.isEmpty_iff, List.isEmpty_iff, ← List.length_eq_zero_iff,
      ← List.length_eq_zero_iff, length]
  unfold ipHeader
  rw [empty, length, same 0 (by decide), same 6 (by decide), same 9 (by decide)]

theorem synMss_of_not_syn {packet : List UInt8} {tcp : Nat} {protocol : UInt8}
    (header : ipHeader packet = some (tcp, protocol))
    (not : protocol ≠ 6 ∨ packet.length < tcp + 20 ∨ byteAt packet (tcp + 13) &&& 0x02 = 0 ∨
      (byteAt packet (tcp + 12) >>> 4).toNat * 4 < 20 ∨
        packet.length < tcp + (byteAt packet (tcp + 12) >>> 4).toNat * 4) :
    synMss packet = none := by
  rw [synMss, header]
  exact if_pos not

/-- A SYN comes out of the clamp with the smaller MSS, and without one as it was. -/
theorem synMss_clampTcpMss (packet : List UInt8) (maxInner : Nat) :
    synMss (clampTcpMss packet maxInner).1 =
      (synMss packet).map (Option.map (clampedMss maxInner)) := by
  unfold clampTcpMss
  cases header : ipHeader packet with
  | none =>
      rw [synMss, header]
      rfl
  | some found =>
      obtain ⟨tcp, protocol⟩ := found
      dsimp only
      split
      · rename_i short
        rw [synMss_of_not_syn header (short.imp_right Or.inl)]
        rfl
      · rename_i long
        split
        · rename_i noSyn
          rw [synMss_of_not_syn header (Or.inr (Or.inr (Or.inl noSyn)))]
          rfl
        · rename_i syn
          split
          · rename_i cut
            rw [synMss_of_not_syn header (Or.inr (Or.inr (Or.inr cut)))]
            rfl
          · rename_i whole
            split
            · rename_i untouched
              have same : Option.map (Option.map (clampedMss maxInner)) (synMss packet) =
                  synMss packet := by
                have id_ : clampedMss maxInner = id := by
                  funext mss
                  exact if_pos untouched
                rw [id_, Option.map_id_fun, Option.map_id_fun, id]
              exact same.symm
            · rename_i inRange
              have isSyn : ¬(protocol ≠ 6 ∨ packet.length < tcp + 20 ∨
                  byteAt packet (tcp + 13) &&& 0x02 = 0 ∨
                  (byteAt packet (tcp + 12) >>> 4).toNat * 4 < 20 ∨
                    packet.length < tcp + (byteAt packet (tcp + 12) >>> 4).toNat * 4) := by
                rintro (other | short | noSyn | cut)
                · exact long (Or.inl other)
                · exact long (Or.inr short)
                · exact syn noSyn
                · exact whole cut
              have before : synMss packet = some (readMss packet
                  (tcp + (byteAt packet (tcp + 12) >>> 4).toNat * 4)
                  (tcp + (byteAt packet (tcp + 12) >>> 4).toNat * 4) (tcp + 20)) := by
                rw [synMss, header]
                exact if_neg isSyn
              have within : tcp + (byteAt packet (tcp + 12) >>> 4).toNat * 4 ≤ packet.length :=
                Nat.le_of_not_lt fun cut => whole (Or.inr cut)
              generalize clamped : clampOptions packet tcp
                (tcp + (byteAt packet (tcp + 12) >>> 4).toNat * 4)
                (UInt16.ofNat (maxInner - ipTcpOverhead)) (byteAt packet 0 >>> 4)
                (tcp + (byteAt packet (tcp + 12) >>> 4).toNat * 4) (tcp + 20) = after
              have length : after.1.length = packet.length := by
                rw [← clamped]
                exact length_clampOptions _ _ _ _ _ _ _
              have walked : readMss after.1 (tcp + (byteAt packet (tcp + 12) >>> 4).toNat * 4)
                  (tcp + (byteAt packet (tcp + 12) >>> 4).toNat * 4) (tcp + 20) =
                    (readMss packet (tcp + (byteAt packet (tcp + 12) >>> 4).toNat * 4)
                      (tcp + (byteAt packet (tcp + 12) >>> 4).toNat * 4) (tcp + 20)).map
                        (smallerMss (UInt16.ofNat (maxInner - ipTcpOverhead))) := by
                rw [← clamped]
                exact readMss_clampOptions within (tcp + 20) (Nat.le_refl _)
              have same : ∀ place < tcp + 16, byteAt after.1 place = byteAt packet place := by
                intro place early
                rw [← clamped]
                exact byteAt_clampOptions _ (Nat.le_refl _) (Or.inl early)
              have target : clampedMss maxInner =
                  smallerMss (UInt16.ofNat (maxInner - ipTcpOverhead)) := by
                funext mss
                exact if_neg inRange
              rw [before, Option.map_some, target, ← walked, synMss,
                ipHeader_congr length (fun place early => same place (by omega)), header]
              dsimp only
              rw [same (tcp + 12) (by omega), same (tcp + 13) (by omega), length, if_neg isSyn]

end Mss

end MolidoVpn.Tun
