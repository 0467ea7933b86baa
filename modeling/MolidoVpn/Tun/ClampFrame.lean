import MolidoVpn.Tun.Clamp
import MolidoVpn.Tun.Words

/-!
What the MSS clamp may change in a packet: the value of the option and the checksum, which
verifies afterwards if it did before. The clamp takes no index outside of the packet, whatever the
options are. It does not look at the fragment fields of IPv4.
-/

namespace MolidoVpn.Tun

open Checked (Panic get)

section Indexed

/-- The bytes of the header that hold the two addresses. -/
def addressBytes (version : UInt8) : Nat × Nat := if version = 4 then (12, 20) else (8, 40)

/-- `recompute_tcp_checksum` with its slices. -/
def recomputeTcpChecksumAt (packet : List UInt8) (ipHeaderLen : Nat) (version : UInt8) :
    Except Panic (List UInt8) := do
  let tcpLen := packet.length - ipHeaderLen
  let packet ← copyWord packet (ipHeaderLen + 16) 0
  let addresses ← Checked.slice packet (addressBytes version).1 (addressBytes version).2
  let segment ← Checked.sliceFrom packet ipHeaderLen
  let sum := onesComplementSum segment.1 (onesComplementSum addresses.1 0 + 6 + tcpLen)
  copyWord packet (ipHeaderLen + 16) (fold sum)

/-- The walk over the options with every index that it takes. -/
def clampOptionsAt (packet : List UInt8) (ipHeaderLen optionsEnd : Nat) (target : UInt16)
    (version : UInt8) (index : Nat) : Except Panic (List UInt8 × Bool) :=
  if _more : index + 1 < optionsEnd then do
    let kind ← get packet index
    if kind = 0 then return (packet, false)
    else if kind = 1 then
      clampOptionsAt packet ipHeaderLen optionsEnd target version (index + 1)
    else
      let len ← get packet (index + 1)
      if kind = 2 then
        if len ≠ 4 ∨ index + 4 > optionsEnd then return (packet, false)
        else
          let current ← word packet (index + 2)
          if current ≤ target then return (packet, false)
          else
            let packet ← copyWord packet (index + 2) target
            let packet ← recomputeTcpChecksumAt packet ipHeaderLen version
            return (packet, true)
      else if _short : len.toNat < 2 then return (packet, false)
      else clampOptionsAt packet ipHeaderLen optionsEnd target version (index + len.toNat)
  else return (packet, false)
termination_by optionsEnd - index

/-- The version, the header length and the protocol. -/
def ipHeaderAt (packet : List UInt8) : Except Panic (Option (UInt8 × Nat × UInt8)) :=
  if packet.isEmpty then return none
  else do
    let first ← get packet 0
    let version := first >>> 4
    if version = 4 then
      if packet.length < 20 then return none
      else
        let protocol ← get packet 9
        return some (version, (first &&& 0x0f).toNat * 4, protocol)
    else if version = 6 then
      if packet.length < 40 then return none
      else
        let protocol ← get packet 6
        return some (version, 40, protocol)
    else return none

def clampTcpMssAt (packet : List UInt8) (maxInner : Nat) : Except Panic (List UInt8 × Bool) := do
  let header ← ipHeaderAt packet
  match header with
  | none => return (packet, false)
  | some (version, tcp, protocol) =>
      if protocol ≠ 6 ∨ packet.length < tcp + 20 then return (packet, false)
      else
        let flags ← get packet (tcp + 13)
        if flags &&& 0x02 = 0 then return (packet, false)
        else
          let offset ← get packet (tcp + 12)
          let dataOffset := (offset >>> 4).toNat * 4
          if dataOffset < 20 ∨ packet.length < tcp + dataOffset then return (packet, false)
          else
            let target := maxInner - ipTcpOverhead
            if target = 0 ∨ target > 65535 then return (packet, false)
            else
              clampOptionsAt packet tcp (tcp + dataOffset) (UInt16.ofNat target) version (tcp + 20)

variable {packet : List UInt8} {tcp optionsEnd : Nat} {version : UInt8}

/-- The header is as long as the version asks for. -/
def Headed (packet : List UInt8) (version : UInt8) : Prop :=
  if version = 4 then 20 ≤ packet.length else 40 ≤ packet.length

theorem get_byteAt {index : Nat} (inside : index < packet.length) :
    get packet index = .ok (byteAt packet index) :=
  Checked.get_of_lt 0 inside

theorem recomputeTcpChecksum_eq (packet : List UInt8) (tcp : Nat) (version : UInt8) :
    recomputeTcpChecksum packet tcp version =
      let cleared := putWord packet (tcp + 16) 0
      let addresses := slice cleared (addressBytes version).1 (addressBytes version).2
      putWord cleared (tcp + 16) (fold (onesComplementSum (cleared.drop tcp)
        (onesComplementSum addresses 0 + 6 + (packet.length - tcp)))) := by
  unfold recomputeTcpChecksum addressBytes
  dsimp only
  by_cases v4 : version = 4
  · rw [if_pos v4, if_pos v4]
  · rw [if_neg v4, if_neg v4]

theorem recomputeTcpChecksumAt_eq (headed : Headed packet version)
    (inside : tcp + 18 ≤ packet.length) :
    recomputeTcpChecksumAt packet tcp version = .ok (recomputeTcpChecksum packet tcp version) := by
  have length := length_putWord packet (tcp + 16) 0
  have ordered : (addressBytes version).1 ≤ (addressBytes version).2 := by
    unfold addressBytes
    split <;> decide
  have early : (addressBytes version).2 ≤ packet.length := by
    unfold addressBytes
    unfold Headed at headed
    split <;> simp_all only [if_true, if_false]
  obtain ⟨⟨part, _⟩, taken, rfl⟩ := Checked.slice_of_le (putWord packet (tcp + 16) 0)
    (addressBytes version).1 (addressBytes version).2 ordered (by omega)
  obtain ⟨⟨segment, _⟩, sliced, rfl⟩ :=
    Checked.sliceFrom_of_le (putWord packet (tcp + 16) 0) tcp (by omega)
  unfold recomputeTcpChecksumAt
  dsimp only
  rw [copyWord_of_le 0 inside, recomputeTcpChecksum_eq]
  change (Checked.slice (putWord packet (tcp + 16) 0) _ _ >>= _) = _
  rw [taken]
  change (Checked.sliceFrom (putWord packet (tcp + 16) 0) tcp >>= _) = _
  rw [sliced]
  exact copyWord_of_le _ (by omega)

theorem Headed.written (headed : Headed packet version) (place : Nat) (word : UInt16) :
    Headed (putWord packet place word) version := by
  unfold Headed at headed ⊢
  rw [length_putWord]
  exact headed

theorem clampOptionsAt_eq (headed : Headed packet version) (inside : optionsEnd ≤ packet.length)
    (checksum : tcp + 18 ≤ packet.length) (target : UInt16) {turns : Nat} :
    ∀ index, optionsEnd ≤ index + turns →
      clampOptionsAt packet tcp optionsEnd target version index =
        .ok (clampOptions packet tcp optionsEnd target version turns index) := by
  induction turns with
  | zero =>
      intro index done
      rw [clampOptionsAt, dif_neg (by omega)]
      rfl
  | succ turns ih =>
      intro index enough
      rw [clampOptionsAt, clampOptions]
      by_cases more : index + 1 < optionsEnd
      · rw [dif_pos more, if_pos more, get_byteAt (by omega), get_byteAt (by omega)]
        change (if byteAt packet index = 0 then _ else _) = _
        dsimp only
        by_cases end_ : byteAt packet index = 0
        · rw [if_pos end_, if_pos end_]
          rfl
        rw [if_neg end_, if_neg end_]
        by_cases noop : byteAt packet index = 1
        · rw [if_pos noop, if_pos noop]
          exact ih _ (by omega)
        rw [if_neg noop, if_neg noop]
        change (if byteAt packet index = 2 then _ else _) = _
        by_cases option : byteAt packet index = 2
        · rw [if_pos option, if_pos option]
          by_cases broken : byteAt packet (index + 1) ≠ 4 ∨ index + 4 > optionsEnd
          · rw [if_pos broken, if_pos broken]
            rfl
          · rw [if_neg broken, if_neg broken, word_of_lt (by omega)]
            change (if wordAt packet (index + 2) ≤ target then _ else _) = _
            by_cases small : wordAt packet (index + 2) ≤ target
            · rw [if_pos small, if_pos small]
              rfl
            · have length := length_putWord packet (index + 2) target
              have written := headed.written (index + 2) target
              rw [if_neg small, if_neg small, copyWord_of_le target (by omega)]
              change
                (recomputeTcpChecksumAt (putWord packet (index + 2) target) tcp version >>= _) = _
              rw [recomputeTcpChecksumAt_eq written (by omega)]
              rfl
        · rw [if_neg option, if_neg option]
          have two : byteAt packet (index + 1) < 2 ↔ (byteAt packet (index + 1)).toNat < 2 :=
            UInt8.lt_iff_toNat_lt
          by_cases short : (byteAt packet (index + 1)).toNat < 2
          · rw [dif_pos short, if_pos (two.mpr short)]
            rfl
          · rw [dif_neg short, if_neg (fun small => short (two.mp small))]
            exact ih _ (by omega)
      · rw [dif_neg more, if_neg more]
        rfl

theorem ipHeaderAt_eq (packet : List UInt8) :
    ipHeaderAt packet =
      .ok ((ipHeader packet).map
        fun (tcp, protocol) => (byteAt packet 0 >>> 4, tcp, protocol)) := by
  unfold ipHeaderAt ipHeader
  cases packet with
  | nil => rfl
  | cons first rest =>
      have start : get (first :: rest) 0 = .ok (byteAt (first :: rest) 0) :=
        get_byteAt (Nat.succ_pos _)
      have some_ : ¬(first :: rest).isEmpty = true := Bool.false_ne_true
      rw [if_neg some_, if_neg some_, start]
      change (if byteAt (first :: rest) 0 >>> 4 = 4 then _ else _) = _
      by_cases v4 : byteAt (first :: rest) 0 >>> 4 = 4
      · rw [if_pos v4, if_pos v4]
        by_cases short : (first :: rest).length < 20
        · rw [if_pos short, if_pos short]
          rfl
        · rw [if_neg short, if_neg short, get_byteAt (by omega)]
          rfl
      · rw [if_neg v4, if_neg v4]
        by_cases v6 : byteAt (first :: rest) 0 >>> 4 = 6
        · rw [if_pos v6, if_pos v6]
          by_cases short : (first :: rest).length < 40
          · rw [if_pos short, if_pos short]
            rfl
          · rw [if_neg short, if_neg short, get_byteAt (by omega)]
            rfl
        · rw [if_neg v6, if_neg v6]
          rfl

theorem headed_of_ipHeader {protocol : UInt8} (read : ipHeader packet = some (tcp, protocol)) :
    Headed packet (byteAt packet 0 >>> 4) := by
  unfold ipHeader at read
  unfold Headed
  split at read
  · cases read
  · split at read
    · rename_i v4
      rw [if_pos v4]
      split at read
      · cases read
      · omega
    · rename_i other
      rw [if_neg other]
      split at read
      · split at read
        · cases read
        · omega
      · cases read

/-- No index of the clamp leaves the packet, and its walk is at an end after as many turns as the
headers have bytes. -/
theorem clampTcpMssAt_eq (packet : List UInt8) (maxInner : Nat) :
    clampTcpMssAt packet maxInner = .ok (clampTcpMss packet maxInner) := by
  unfold clampTcpMssAt clampTcpMss
  rw [ipHeaderAt_eq]
  cases header : ipHeader packet with
  | none => rfl
  | some found =>
      obtain ⟨tcp, protocol⟩ := found
      change (if protocol ≠ 6 ∨ packet.length < tcp + 20 then _ else _) = _
      dsimp only
      by_cases other : protocol ≠ 6 ∨ packet.length < tcp + 20
      · rw [if_pos other, if_pos other]
        rfl
      · rw [if_neg other, if_neg other, get_byteAt (by omega), get_byteAt (by omega)]
        change (if byteAt packet (tcp + 13) &&& 0x02 = 0 then _ else _) = _
        by_cases noSyn : byteAt packet (tcp + 13) &&& 0x02 = 0
        · rw [if_pos noSyn, if_pos noSyn]
          rfl
        · rw [if_neg noSyn, if_neg noSyn]
          change (if (byteAt packet (tcp + 12) >>> 4).toNat * 4 < 20 ∨ _ then _ else _) = _
          by_cases cut : (byteAt packet (tcp + 12) >>> 4).toNat * 4 < 20 ∨
              packet.length < tcp + (byteAt packet (tcp + 12) >>> 4).toNat * 4
          · rw [if_pos cut, if_pos cut]
            rfl
          · rw [if_neg cut, if_neg cut]
            by_cases untouched : maxInner - ipTcpOverhead = 0 ∨ maxInner - ipTcpOverhead > 65535
            · rw [if_pos untouched, if_pos untouched]
              rfl
            · rw [if_neg untouched, if_neg untouched]
              exact clampOptionsAt_eq (headed_of_ipHeader header) (by omega) (by omega) _ _
                (by omega)

end Indexed

section Place

variable {packet after : List UInt8} {tcp optionsEnd place : Nat} {version : UInt8}

/-- Where the value of the MSS option is. -/
def mssPlace (packet : List UInt8) (optionsEnd : Nat) : Nat → Nat → Option Nat
  | 0, _ => none
  | turns + 1, index =>
      if index + 1 < optionsEnd then
        let kind := byteAt packet index
        let len := byteAt packet (index + 1)
        if kind = 0 then none
        else if kind = 1 then mssPlace packet optionsEnd turns (index + 1)
        else if kind = 2 then
          if len ≠ 4 ∨ index + 4 > optionsEnd then none else some (index + 2)
        else if len < 2 then none
        else mssPlace packet optionsEnd turns (index + len.toNat)
      else none

theorem readMss_eq (packet : List UInt8) (optionsEnd turns index : Nat) :
    readMss packet optionsEnd turns index =
      (mssPlace packet optionsEnd turns index).map (wordAt packet) := by
  induction turns generalizing index with
  | zero => rfl
  | succ turns ih =>
      rw [readMss, mssPlace]
      dsimp only
      split
      · split
        · rfl
        · split
          · exact ih _
          · split
            · split <;> rfl
            · split
              · rfl
              · exact ih _
      · rfl

theorem clampOptions_eq (target : UInt16) (turns index : Nat) :
    clampOptions packet tcp optionsEnd target version turns index =
      match mssPlace packet optionsEnd turns index with
      | none => (packet, false)
      | some place =>
          if wordAt packet place ≤ target then (packet, false)
          else (recomputeTcpChecksum (putWord packet place target) tcp version, true) := by
  induction turns generalizing index with
  | zero => rfl
  | succ turns ih =>
      rw [clampOptions, mssPlace]
      dsimp only
      split
      · split
        · rfl
        · split
          · exact ih _
          · split
            · split <;> rfl
            · split
              · rfl
              · exact ih _
      · rfl

theorem mssPlace_bounds {turns : Nat} :
    ∀ index, mssPlace packet optionsEnd turns index = some place →
      index + 2 ≤ place ∧ place + 2 ≤ optionsEnd := by
  induction turns with
  | zero =>
      intro index found
      cases found
  | succ turns ih =>
      intro index found
      rw [mssPlace] at found
      dsimp only at found
      split at found
      · split at found
        · cases found
        · split at found
          · have := ih _ found
            omega
          · split at found
            · split at found
              · cases found
              · cases found
                omega
            · split at found
              · cases found
              · have := ih _ found
                omega
      · cases found

/-- The option is found again where only what comes behind its kind and length has changed. -/
theorem mssPlace_congr {turns : Nat} :
    ∀ index, mssPlace packet optionsEnd turns index = some place →
      (∀ other, index ≤ other → other < place → byteAt after other = byteAt packet other) →
      mssPlace after optionsEnd turns index = some place := by
  induction turns with
  | zero =>
      intro index found
      cases found
  | succ turns ih =>
      intro index found same
      have bounds := mssPlace_bounds index found
      rw [mssPlace] at found ⊢
      dsimp only at found ⊢
      rw [same index (Nat.le_refl _) (by omega), same (index + 1) (by omega) (by omega)]
      split
      · rename_i more
        rw [if_pos more] at found
        split
        · rename_i end_
          rw [if_pos end_] at found
          cases found
        · rename_i open_
          rw [if_neg open_] at found
          split
          · rename_i noop
            rw [if_pos noop] at found
            exact ih _ found fun other ahead => same other (by omega)
          · rename_i kind
            rw [if_neg kind] at found
            split
            · rename_i option
              rw [if_pos option] at found
              exact found
            · rename_i another
              rw [if_neg another] at found
              split
              · rename_i short
                rw [if_pos short] at found
                cases found
              · rename_i long
                rw [if_neg long] at found
                exact ih _ found fun other ahead => same other (by omega)
      · rename_i done
        rw [if_neg done] at found
        cases found

/-- The TCP header of a SYN and the place of the value of its MSS option. -/
def synPlace (packet : List UInt8) : Option (Nat × Nat) :=
  match ipHeader packet with
  | none => none
  | some (tcp, protocol) =>
      let dataOffset := (byteAt packet (tcp + 12) >>> 4).toNat * 4
      if protocol ≠ 6 ∨ packet.length < tcp + 20 ∨ byteAt packet (tcp + 13) &&& 0x02 = 0 ∨
          dataOffset < 20 ∨ packet.length < tcp + dataOffset then none
      else
        (mssPlace packet (tcp + dataOffset) (tcp + dataOffset) (tcp + 20)).map fun place =>
          (tcp, place)

theorem synPlace_eq (packet : List UInt8) :
    (synMss packet).join =
      (synPlace packet).map fun (_, place) => wordAt packet place := by
  unfold synMss synPlace
  cases ipHeader packet with
  | none => rfl
  | some found =>
      obtain ⟨tcp, protocol⟩ := found
      dsimp only
      split
      · rfl
      · rw [readMss_eq, Option.join_some, Option.map_map]
        rfl

/-- Everything that the clamp does. -/
theorem clampTcpMss_eq (packet : List UInt8) (maxInner : Nat) :
    clampTcpMss packet maxInner =
      match synPlace packet with
      | none => (packet, false)
      | some (tcp, place) =>
          let target := maxInner - ipTcpOverhead
          if target = 0 ∨ (wordAt packet place).toNat ≤ target then (packet, false)
          else
            (recomputeTcpChecksum (putWord packet place (UInt16.ofNat target)) tcp
              (byteAt packet 0 >>> 4), true) := by
  unfold clampTcpMss synPlace
  cases ipHeader packet with
  | none => rfl
  | some found =>
      obtain ⟨tcp, protocol⟩ := found
      dsimp only
      by_cases other : protocol ≠ 6 ∨ packet.length < tcp + 20
      · rw [if_pos other, if_pos (by tauto)]
      rw [if_neg other]
      by_cases noSyn : byteAt packet (tcp + 13) &&& 0x02 = 0
      · rw [if_pos noSyn, if_pos (by tauto)]
      rw [if_neg noSyn]
      by_cases cut : (byteAt packet (tcp + 12) >>> 4).toNat * 4 < 20 ∨
          packet.length < tcp + (byteAt packet (tcp + 12) >>> 4).toNat * 4
      · rw [if_pos cut, if_pos (by tauto)]
      have syn : ¬(protocol ≠ 6 ∨ packet.length < tcp + 20 ∨ byteAt packet (tcp + 13) &&& 0x02 = 0 ∨
          (byteAt packet (tcp + 12) >>> 4).toNat * 4 < 20 ∨
            packet.length < tcp + (byteAt packet (tcp + 12) >>> 4).toNat * 4) := by tauto
      rw [if_neg cut, if_neg syn, clampOptions_eq]
      generalize mssPlace packet _ _ (tcp + 20) = found
      cases found with
      | none => split <;> rfl
      | some place =>
          dsimp only [Option.map_some]
          have bound := (wordAt packet place).toNat_lt
          by_cases none_ : maxInner - ipTcpOverhead = 0
          · rw [if_pos (Or.inl none_), if_pos (Or.inl none_)]
          by_cases large : maxInner - ipTcpOverhead > 65535
          · rw [if_pos (Or.inr large), if_pos (Or.inr (by omega))]
          have small : wordAt packet place ≤ UInt16.ofNat (maxInner - ipTcpOverhead) ↔
              (wordAt packet place).toNat ≤ maxInner - ipTcpOverhead := by
            rw [UInt16.le_iff_toNat_le, UInt16.toNat_ofNat', Nat.mod_eq_of_lt (by omega)]
          have inRange : ¬(maxInner - ipTcpOverhead = 0 ∨ maxInner - ipTcpOverhead > 65535) := by
            tauto
          rw [if_neg inRange]
          by_cases fits : (wordAt packet place).toNat ≤ maxInner - ipTcpOverhead
          · rw [if_pos (small.mpr fits), if_pos (Or.inr fits)]
          · rw [if_neg (fun le => fits (small.mp le)), if_neg (by tauto)]

end Place

section Frame

variable {packet after : List UInt8} {tcp place : Nat} {version : UInt8}

/-- What the checksum covers besides the segment. -/
def pseudoHeader (packet : List UInt8) (tcp : Nat) : List UInt8 :=
  let size := packet.length - tcp
  if byteAt packet 0 >>> 4 = 4 then slice packet 12 20 ++ (Inet.word 6 ++ Inet.word size)
  else
    slice packet 8 40 ++ (Inet.word 0 ++ Inet.word size ++ (Inet.word 0 ++ Inet.word 6))

def TcpVerifies (packet : List UInt8) (tcp : Nat) : Prop :=
  Inet.Verifies (pseudoHeader packet tcp ++ packet.drop tcp)

theorem length_slice {start stop : Nat} (inside : stop ≤ packet.length) :
    (slice packet start stop).length = stop - start := by
  rw [slice, List.length_drop, List.length_take, Nat.min_eq_left inside]

theorem length_word (value : Nat) : (Inet.word value).length = 2 := rfl

theorem pseudoHeader_sum (headed : Headed packet (byteAt packet 0 >>> 4))
    (short : packet.length < 65536 + tcp) :
    (pseudoHeader packet tcp).length % 2 = 0 ∧
      Inet.wordSum (pseudoHeader packet tcp) =
        onesComplementSum (slice packet (addressBytes (byteAt packet 0 >>> 4)).1
          (addressBytes (byteAt packet 0 >>> 4)).2) 0 + 6 + (packet.length - tcp) := by
  have size : Inet.wordSum (Inet.word (packet.length - tcp)) = packet.length - tcp :=
    Inet.wordSum_word (by omega)
  unfold pseudoHeader addressBytes
  unfold Headed at headed
  dsimp only
  rw [onesComplementSum_eq]
  by_cases v4 : byteAt packet 0 >>> 4 = 4
  · rw [if_pos v4] at headed
    have length : (slice packet 12 20).length = 8 := length_slice headed
    rw [if_pos v4, if_pos v4]
    constructor
    · rw [List.length_append, List.length_append, length, length_word, length_word]
    · rw [Inet.wordSum_append (by rw [length]), Inet.wordSum_append (by rw [length_word]), size,
        Inet.wordSum_word (by decide)]
      dsimp only
      omega
  · rw [if_neg v4] at headed
    have length : (slice packet 8 40).length = 32 := length_slice headed
    rw [if_neg v4, if_neg v4]
    constructor
    · simp only [List.length_append, length, length_word]
    · rw [Inet.wordSum_append (by rw [length]),
        Inet.wordSum_append (by rw [List.length_append, length_word, length_word]),
        Inet.wordSum_append (by rw [length_word]), Inet.wordSum_append (by rw [length_word]), size,
        Inet.wordSum_word (by decide), Inet.wordSum_word (by decide)]
      dsimp only
      omega

/-- A word behind the addresses is none of the pseudo header. -/
theorem pseudoHeader_putWord (word : UInt16) {index : Nat}
    (behind : (addressBytes (byteAt packet 0 >>> 4)).2 ≤ index) :
    pseudoHeader (putWord packet index word) tcp = pseudoHeader packet tcp := by
  unfold addressBytes at behind
  unfold pseudoHeader
  dsimp only
  by_cases v4 : byteAt packet 0 >>> 4 = 4
  · rw [if_pos v4] at behind
    rw [byteAt_putWord_ne word (by omega), length_putWord, if_pos v4, if_pos v4,
      slice_putWord word behind]
  · rw [if_neg v4] at behind
    rw [byteAt_putWord_ne word (by omega), length_putWord, if_neg v4, if_neg v4,
      slice_putWord word behind]

/-- The checksum that is computed anew verifies, whatever it was before. -/
theorem verifies_recomputeTcpChecksum (headed : Headed packet (byteAt packet 0 >>> 4))
    (behind : (addressBytes (byteAt packet 0 >>> 4)).2 ≤ tcp) (inside : tcp + 18 ≤ packet.length)
    (short : packet.length < 65536 + tcp) :
    TcpVerifies (recomputeTcpChecksum packet tcp (byteAt packet 0 >>> 4)) tcp := by
  obtain ⟨even, sum⟩ := pseudoHeader_sum headed short
  have length : (packet.drop tcp).length = packet.length - tcp := List.length_drop
  have sixteen : ((packet.drop tcp).take 16).length = 16 := by
    rw [List.length_take]
    omega
  have segment : ∀ word, (putWord packet (tcp + 16) word).drop tcp =
      (packet.drop tcp).take 16 ++ (Inet.word word.toNat ++ (packet.drop tcp).drop 18) := by
    intro word
    rw [drop_putWord word (by omega), Nat.add_sub_cancel_left, putWord_eq word (by omega)]
  have addresses : slice (putWord packet (tcp + 16) 0) (addressBytes (byteAt packet 0 >>> 4)).1
      (addressBytes (byteAt packet 0 >>> 4)).2 =
        slice packet (addressBytes (byteAt packet 0 >>> 4)).1
          (addressBytes (byteAt packet 0 >>> 4)).2 :=
    slice_putWord 0 (by omega)
  unfold TcpVerifies
  rw [recomputeTcpChecksum_eq]
  dsimp only
  rw [putWord_putWord, pseudoHeader_putWord _ (by omega), segment, segment, addresses, ← sum,
    ← List.append_assoc, ← List.append_assoc]
  apply Inet.verifies_of_complement
  · rw [List.length_append, sixteen]
    omega
  · rw [List.append_assoc, List.append_assoc, Inet.wordSum_append even]
    omega
  · left
    rw [toNat_fold, onesComplementSum_eq, List.append_assoc (pseudoHeader packet tcp),
      List.append_assoc (pseudoHeader packet tcp), Inet.wordSum_append even,
      List.append_assoc ((packet.drop tcp).take 16)]
    rfl

theorem synPlace_some (found : synPlace packet = some (tcp, place)) :
    (∃ protocol, ipHeader packet = some (tcp, protocol)) ∧ tcp + 22 ≤ place ∧
      place + 2 ≤ packet.length := by
  unfold synPlace at found
  split at found
  · cases found
  · rename_i start protocol header
    dsimp only at found
    split at found
    · cases found
    · rename_i syn
      obtain ⟨value, read, same⟩ := Option.map_eq_some_iff.mp found
      cases same
      have bounds := mssPlace_bounds _ read
      push Not at syn
      exact ⟨⟨protocol, header⟩, by omega, by omega⟩

/-- The option is found again where the headers are the same up to it. -/
theorem synPlace_congr (found : synPlace packet = some (tcp, place))
    (length : after.length = packet.length)
    (same : ∀ other < place, other ≠ tcp + 16 → other ≠ tcp + 17 →
      byteAt after other = byteAt packet other) : synPlace after = some (tcp, place) := by
  obtain ⟨⟨protocol, header⟩, bounds⟩ := synPlace_some found
  have header' : ipHeader after = some (tcp, protocol) := by
    rw [ipHeader_congr length (fun other early => same other (by omega) (by omega) (by omega)),
      header]
  unfold synPlace at found ⊢
  rw [header] at found
  rw [header']
  dsimp only at found ⊢
  rw [same (tcp + 12) (by omega) (by omega) (by omega),
    same (tcp + 13) (by omega) (by omega) (by omega), length]
  split
  · rename_i cut
    rw [if_pos cut] at found
    cases found
  · rename_i syn
    rw [if_neg syn] at found
    obtain ⟨value, read, pair⟩ := Option.map_eq_some_iff.mp found
    cases pair
    rw [mssPlace_congr _ read fun other ahead before =>
      same other before (by omega) (by omega)]
    rfl

/-- IPv4 with five words of header or more and as long as it says; a fragment says so in its
offset or in the flag that more of them follow. -/
structure IsIpv4 (packet : List UInt8) (tcp : Nat) : Prop where
  version : byteAt packet 0 >>> 4 = 4
  header : tcp = (byteAt packet 0 &&& 0x0f).toNat * 4
  long : 20 ≤ tcp
  protocol : byteAt packet 9 = 6
  length : (wordAt packet 2).toNat = packet.length
  unfragmented : wordAt packet 6 &&& 0x3fff = 0

structure IsIpv6 (packet : List UInt8) (tcp : Nat) : Prop where
  version : byteAt packet 0 >>> 4 = 6
  header : tcp = 40
  protocol : byteAt packet 6 = 6
  length : 40 + (wordAt packet 4).toNat = packet.length

/-- A SYN in one packet, with a checksum that verifies. -/
structure WholeSyn where
  packet : List UInt8
  tcp : Nat
  network : IsIpv4 packet tcp ∨ IsIpv6 packet tcp
  segment : tcp + 20 ≤ packet.length
  syn : byteAt packet (tcp + 13) &&& 0x02 ≠ 0
  checksum : TcpVerifies packet tcp

theorem network_facts (network : IsIpv4 packet tcp ∨ IsIpv6 packet tcp)
    (segment : tcp + 20 ≤ packet.length) :
    ipHeader packet = some (tcp, 6) ∧ Headed packet (byteAt packet 0 >>> 4) ∧
      (addressBytes (byteAt packet 0 >>> 4)).2 ≤ tcp ∧ packet.length < 65536 + tcp := by
  have some_ : ¬packet.isEmpty = true := by
    rw [List.isEmpty_iff]
    rintro rfl
    exact Nat.not_succ_le_zero _ segment
  unfold ipHeader Headed addressBytes
  rw [if_neg some_]
  rcases network with ip | ip
  · have size := (wordAt packet 2).toNat_lt
    have length := ip.length
    have long := ip.long
    rw [if_pos ip.version, if_pos ip.version, if_pos ip.version, if_neg (by omega), ip.protocol,
      ← ip.header]
    exact ⟨rfl, by omega, long, by omega⟩
  · have size := (wordAt packet 4).toNat_lt
    have length := ip.length
    have header := ip.header
    have other : ¬byteAt packet 0 >>> 4 = 4 := by
      rw [ip.version]
      decide
    rw [if_neg other, if_neg other, if_neg other, if_pos ip.version, if_neg (by omega),
      ip.protocol, header]
    exact ⟨rfl, by omega, Nat.le_refl _, by omega⟩

/-- The smaller of an MSS and the target. -/
def lowered (target : Nat) (mss : UInt16) : UInt16 := UInt16.ofNat (min mss.toNat target)

/-- A target of zero is none. -/
def loweredFor (maxInner : Nat) (mss : UInt16) : UInt16 :=
  if maxInner - ipTcpOverhead = 0 then mss else lowered (maxInner - ipTcpOverhead) mss

theorem clampedMss_eq (maxInner : Nat) : clampedMss maxInner = loweredFor maxInner := by
  funext mss
  have bound := mss.toNat_lt
  unfold clampedMss loweredFor lowered smallerMss
  dsimp only
  by_cases none_ : maxInner - ipTcpOverhead = 0
  · rw [if_pos (Or.inl none_), if_pos none_]
  rw [if_neg none_]
  by_cases large : maxInner - ipTcpOverhead > 65535
  · rw [if_pos (Or.inr large), Nat.min_eq_left (by omega), UInt16.ofNat_toNat]
  rw [if_neg (by tauto)]
  have small : mss ≤ UInt16.ofNat (maxInner - ipTcpOverhead) ↔
      mss.toNat ≤ maxInner - ipTcpOverhead := by
    rw [UInt16.le_iff_toNat_le, UInt16.toNat_ofNat', Nat.mod_eq_of_lt (by omega)]
  by_cases fits : mss.toNat ≤ maxInner - ipTcpOverhead
  · rw [if_pos (small.mpr fits), Nat.min_eq_left fits, UInt16.ofNat_toNat]
  · rw [if_neg (fun le => fits (small.mp le)), Nat.min_eq_right (by omega)]

/-- What the clamp is allowed to do to a SYN. -/
structure Clamped (syn : WholeSyn) (after : List UInt8) (change : UInt16 → UInt16) : Prop where
  verifies : TcpVerifies after syn.tcp
  length : after.length = syn.packet.length
  frame : ∀ place, byteAt after place ≠ byteAt syn.packet place →
    place = syn.tcp + 16 ∨ place = syn.tcp + 17 ∨
      ∃ value, synPlace syn.packet = some (syn.tcp, value) ∧ (place = value ∨ place = value + 1)
  mss : synMss after = (synMss syn.packet).map (Option.map change)

/-- The bytes that a clamp which does something leaves. -/
theorem byteAt_clamped (target : UInt16) {other : Nat} (checksum : other ≠ tcp + 16)
    (checksum' : other ≠ tcp + 17) (value : other ≠ place) (value' : other ≠ place + 1) :
    byteAt (recomputeTcpChecksum (putWord packet place target) tcp version) other =
      byteAt packet other := by
  rw [byteAt_recomputeTcpChecksum version (by omega), byteAt_putWord_ne target (by omega)]

/-- The new value is where the old one was. -/
theorem wordAt_clamped (found : synPlace packet = some (tcp, place)) (target : UInt16) :
    wordAt (recomputeTcpChecksum (putWord packet place target) tcp version) place = target := by
  obtain ⟨_, bounds⟩ := synPlace_some found
  exact wordAt_recomputed target version (by omega) (by omega)

theorem length_recomputeTcpChecksum (packet : List UInt8) (tcp : Nat) (version : UInt8) :
    (recomputeTcpChecksum packet tcp version).length = packet.length := by
  unfold recomputeTcpChecksum
  dsimp only
  rw [length_putWord, length_putWord]

section Whole

variable {syn : WholeSyn} {maxInner : Nat}

private theorem synMss_lowered (syn : WholeSyn) (maxInner : Nat) :
    synMss (clampTcpMss syn.packet maxInner).1 =
      (synMss syn.packet).map (Option.map (loweredFor maxInner)) := by
  rw [synMss_clampTcpMss, clampedMss_eq]

/-- The option of a SYN is behind the header that the packet has. -/
private theorem WholeSyn.option (syn : WholeSyn) {tcp place : Nat}
    (found : synPlace syn.packet = some (tcp, place)) :
    tcp = syn.tcp ∧ syn.tcp + 20 ≤ place ∧ place + 2 ≤ syn.packet.length := by
  obtain ⟨header, _⟩ := network_facts syn.network syn.segment
  obtain ⟨⟨protocol, same⟩, bounds⟩ := synPlace_some found
  rw [header] at same
  cases same
  exact ⟨rfl, by omega, by omega⟩

private theorem clamped_untouched (whole : clampTcpMss syn.packet maxInner = (syn.packet, false)) :
    Clamped syn (clampTcpMss syn.packet maxInner).1 (loweredFor maxInner) ∧
      clampTcpMss (clampTcpMss syn.packet maxInner).1 maxInner =
        ((clampTcpMss syn.packet maxInner).1, false) := by
  have mss := synMss_lowered syn maxInner
  rw [whole] at mss ⊢
  exact ⟨⟨syn.checksum, rfl, fun _ changed => absurd rfl changed, mss⟩, whole⟩

/-- The checksum that is put in verifies, whatever the option says. -/
private theorem verifies_lowered (found : synPlace syn.packet = some (syn.tcp, place))
    (target : UInt16) :
    TcpVerifies (recomputeTcpChecksum (putWord syn.packet place target) syn.tcp
      (byteAt syn.packet 0 >>> 4)) syn.tcp := by
  obtain ⟨_, headed, behind, short⟩ := network_facts syn.network syn.segment
  obtain ⟨_, options, inside⟩ := syn.option found
  have version : byteAt (putWord syn.packet place target) 0 = byteAt syn.packet 0 :=
    byteAt_putWord_ne _ (by omega)
  have length := length_putWord syn.packet place target
  rw [← version] at headed behind ⊢
  apply verifies_recomputeTcpChecksum
  · exact headed.written place target
  · exact behind
  · rw [length]
    omega
  · rw [length]
    exact short

private theorem clamped_lowered (found : synPlace syn.packet = some (syn.tcp, place))
    {target : UInt16} (lower : target.toNat = maxInner - ipTcpOverhead)
    (whole : clampTcpMss syn.packet maxInner =
      (recomputeTcpChecksum (putWord syn.packet place target) syn.tcp
        (byteAt syn.packet 0 >>> 4), true)) :
    Clamped syn (clampTcpMss syn.packet maxInner).1 (loweredFor maxInner) ∧
      clampTcpMss (clampTcpMss syn.packet maxInner).1 maxInner =
        ((clampTcpMss syn.packet maxInner).1, false) := by
  obtain ⟨_, options, inside⟩ := syn.option found
  have mss := synMss_lowered syn maxInner
  rw [whole] at mss ⊢
  have length := (length_recomputeTcpChecksum (putWord syn.packet place target) syn.tcp
    (byteAt syn.packet 0 >>> 4)).trans (length_putWord syn.packet place target)
  refine ⟨⟨verifies_lowered found target, length, ?_, mss⟩, ?_⟩
  · intro other changed
    by_contra elsewhere
    push Not at elsewhere
    obtain ⟨checksum, checksum', value⟩ := elsewhere
    obtain ⟨here, next⟩ := value place found
    exact changed (byteAt_clamped target checksum checksum' here next)
  · have again := synPlace_congr found length fun other before checksum checksum' =>
      byteAt_clamped target checksum checksum' (by omega) (by omega)
    rw [clampTcpMss_eq, again]
    dsimp only
    rw [wordAt_clamped found, if_pos (Or.inr lower.le)]

end Whole

/-- No byte string takes the clamp out of its packet. A SYN keeps a checksum that verifies, only the
checksum and the value of the option change, and a second clamp finds nothing to do; a target of
zero is none. -/
theorem clampTcpMss_whole :
    (∀ packet maxInner, clampTcpMssAt packet maxInner = .ok (clampTcpMss packet maxInner)) ∧
    ∀ (syn : WholeSyn) (maxInner : Nat),
      Clamped syn (clampTcpMss syn.packet maxInner).1 (loweredFor maxInner) ∧
      clampTcpMss (clampTcpMss syn.packet maxInner).1 maxInner =
        ((clampTcpMss syn.packet maxInner).1, false) := by
  refine ⟨clampTcpMssAt_eq, ?_⟩
  intro syn maxInner
  have whole := clampTcpMss_eq syn.packet maxInner
  cases found : synPlace syn.packet with
  | none =>
      rw [found] at whole
      exact clamped_untouched whole
  | some pair =>
      obtain ⟨tcp, place⟩ := pair
      obtain ⟨rfl, _⟩ := syn.option found
      rw [found] at whole
      dsimp only at whole
      split at whole
      · exact clamped_untouched whole
      · rename_i higher
        have bound := (wordAt syn.packet place).toNat_lt
        refine clamped_lowered found ?_ whole
        rw [UInt16.toNat_ofNat', Nat.mod_eq_of_lt (by omega)]

/-- A SYN whose option asks for 1460 bytes. -/
def plainSyn : WholeSyn :=
  { packet :=
      [0x45, 0x00, 0x00, 0x2c, 0x00, 0x01, 0x00, 0x00, 0x40, 0x06,
        0x6e, 0xc8, 0x0a, 0x00, 0x00, 0x02, 0x01, 0x01, 0x01, 0x01,
        0x30, 0x39, 0x01, 0xbb, 0x00, 0x00, 0x00, 0x01, 0x00, 0x00, 0x00, 0x00,
        0x60, 0x02, 0xff, 0xff, 0x5a, 0x2e, 0x00, 0x00, 0x02, 0x04, 0x05, 0xb4]
    tcp := 20
    network := Or.inl ⟨by decide, by decide, by decide, by decide, by decide, by decide⟩
    segment := by decide
    syn := by decide
    checksum := by
      unfold TcpVerifies
      decide }

theorem zero_target_ignored :
    ¬∀ (syn : WholeSyn) (maxInner : Nat), synMss (clampTcpMss syn.packet maxInner).1 =
      (synMss syn.packet).map (Option.map (lowered (maxInner - ipTcpOverhead))) := by
  intro every
  exact absurd (every plainSyn 60) (by decide)

/-- A fragment of an IPv4 packet: not the first, or not the last. -/
structure Ipv4Fragment where
  packet : List UInt8
  long : 20 ≤ packet.length
  version : byteAt packet 0 >>> 4 = 4
  fragment : wordAt packet 6 &&& 0x3fff ≠ 0

/-- The payload of a fragment is left alone unless it reads like a SYN with a larger MSS. -/
theorem clampTcpMss_fragment (fragment : Ipv4Fragment) (maxInner : Nat) :
    (clampTcpMss fragment.packet maxInner).1 = fragment.packet ↔
      ∀ mss, synMss fragment.packet = some (some mss) →
        maxInner - ipTcpOverhead = 0 ∨ mss.toNat ≤ maxInner - ipTcpOverhead := by
  have read := synPlace_eq fragment.packet
  rw [clampTcpMss_eq]
  cases found : synPlace fragment.packet with
  | none =>
      rw [found, Option.map_none, Option.join_eq_none_iff] at read
      refine ⟨fun _ mss present => ?_, fun _ => rfl⟩
      rw [present] at read
      rcases read with none_ | none_ <;> cases none_
  | some pair =>
      obtain ⟨tcp, place⟩ := pair
      rw [found, Option.map_some, Option.join_eq_some_iff] at read
      rw [read]
      have bound := (wordAt fragment.packet place).toNat_lt
      dsimp only
      split
      · rename_i fits
        refine ⟨fun _ mss present => ?_, fun _ => rfl⟩
        cases present
        exact fits
      · rename_i higher
        constructor
        · intro same
          dsimp only at same
          have word : wordAt fragment.packet place = UInt16.ofNat (maxInner - ipTcpOverhead) := by
            rw [← wordAt_clamped found (UInt16.ofNat (maxInner - ipTcpOverhead)), same]
          rw [not_or, word, UInt16.toNat_ofNat', Nat.mod_eq_of_lt (by omega)] at higher
          exact absurd (Nat.le_refl _) higher.2
        · intro small
          exact absurd (small _ rfl) higher

/-- A later fragment whose payload is the bytes of a SYN. -/
def laterFragment : Ipv4Fragment :=
  { packet :=
      [0x45, 0x00, 0x00, 0x2c, 0x00, 0x01, 0x00, 0xb9, 0x40, 0x06,
        0x6e, 0x0f, 0x0a, 0x00, 0x00, 0x02, 0x01, 0x01, 0x01, 0x01,
        0x30, 0x39, 0x01, 0xbb, 0x00, 0x00, 0x00, 0x01, 0x00, 0x00, 0x00, 0x00,
        0x60, 0x02, 0xff, 0xff, 0x5a, 0x2e, 0x00, 0x00, 0x02, 0x04, 0x05, 0xb4]
    long := by decide
    version := by decide
    fragment := by decide }

theorem fragment_clamped :
    ¬∀ (fragment : Ipv4Fragment) (maxInner : Nat),
      (clampTcpMss fragment.packet maxInner).1 = fragment.packet := by
  intro every
  exact absurd (every laterFragment 1280) (by decide)

end Frame

end MolidoVpn.Tun
