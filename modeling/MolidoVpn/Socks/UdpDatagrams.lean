import MolidoVpn.Lib.Checked
import MolidoVpn.Socks.UdpAssociate

/-!
The datagrams of an association, byte by byte: `parse_udp_request` as it walks over its buffer. No
index leaves the buffer, what it returns is what the readers of `Target` return, and a reply that
was built comes back.
-/

namespace MolidoVpn.Socks

open Checked (Panic get slice sliceFrom)
open Utf8 (fromUtf8Lossy)
open Varint (getU8)

/-- The target at `pos` and the place behind it. -/
def udpTargetAt (buf : List UInt8) (atyp : UInt8) (pos : Nat) :
    Except Panic (Option (Target × Nat)) := do
  if atyp = atypV4 then
    if buf.length < pos + 4 then return none
    let a ← get buf pos
    let b ← get buf (pos + 1)
    let c ← get buf (pos + 2)
    let d ← get buf (pos + 3)
    return some (.ip (.v4 ⟨a, b, c, d⟩), pos + 4)
  else if atyp = atypV6 then
    if buf.length < pos + 16 then return none
    let part ← slice buf pos (pos + 16)
    -- `copy_from_slice` stops the program where the lengths differ
    if length : part.1.length = 16 then return some (.ip (.v6 ⟨part.1, length⟩), pos + 16)
    else throw .slice
  else if atyp = atypDomain then
    match buf[pos]? with
    | none => return none
    | some len =>
        if buf.length < pos + 1 + len.toNat then return none
        let name ← slice buf (pos + 1) (pos + 1 + len.toNat)
        return some (.domain (fromUtf8Lossy name.1), pos + 1 + len.toNat)
  else return none

/-- Port and payload behind the target, if there is one. -/
def udpPayloadAt (buf : List UInt8) :
    Option (Target × Nat) → Except Panic (Option (Target × UInt16 × List UInt8))
  | none => return none
  | some (target, pos) => do
      if buf.length < pos + 2 then return none
      let hi ← get buf pos
      let lo ← get buf (pos + 1)
      let payload ← sliceFrom buf (pos + 2)
      return some (target, UInt16.ofNat (hi.toNat * 256 + lo.toNat), payload.1)

/-- `parse_udp_request` with every index and slice that it takes. -/
def parseUdpRequestAt (buf : List UInt8) :
    Except Panic (Option (Target × UInt16 × List UInt8)) := do
  if buf.length < 4 then return none
  let frag ← get buf 2
  if frag ≠ 0 then return none
  let atyp ← get buf 3
  let target ← udpTargetAt buf atyp 4
  udpPayloadAt buf target

section Walking

variable {buf rest : List UInt8}

/-- What the walk has found agrees with what the reader takes from the bytes. -/
def Finds (buf : List UInt8) (found : Option (Target × Nat)) : Option (Target × List UInt8) → Prop
  | none => found = none
  | some (target, behind) =>
      ∃ pos, found = some (target, pos) ∧ pos ≤ buf.length ∧ buf.drop pos = behind

theorem udpTargetAt_finds (x y frag atyp : UInt8) (rest : List UInt8) :
    ∃ found, udpTargetAt (x :: y :: frag :: atyp :: rest) atyp 4 = .ok found ∧
      Finds (x :: y :: frag :: atyp :: rest) found (getTarget atyp rest) := by
  unfold udpTargetAt getTarget
  by_cases v4 : atyp = atypV4
  · rw [if_pos v4, if_pos v4]
    match rest with
    | [] => exact ⟨none, rfl, rfl⟩
    | [_] => exact ⟨none, rfl, rfl⟩
    | [_, _] => exact ⟨none, rfl, rfl⟩
    | [_, _, _] => exact ⟨none, rfl, rfl⟩
    | a :: b :: c :: d :: behind =>
        rw [if_neg (by simp only [List.length_cons]; omega)]
        exact ⟨_, rfl, 8, rfl, by simp only [List.length_cons]; omega, rfl⟩
  · rw [if_neg v4, if_neg v4]
    by_cases v6 : atyp = atypV6
    · rw [if_pos v6, if_pos v6]
      by_cases short : rest.length < 16
      · rw [if_pos (by simp only [List.length_cons]; omega),
          dif_neg (by rw [List.length_take]; omega)]
        exact ⟨none, rfl, rfl⟩
      · obtain ⟨⟨part, _⟩, taken, rfl⟩ := Checked.slice_of_le (x :: y :: frag :: atyp :: rest) 4 20
          (by decide) (by simp only [List.length_cons]; omega)
        have length : (rest.take 16).length = 16 := by
          rw [List.length_take]
          omega
        rw [if_neg (by simp only [List.length_cons]; omega), dif_pos length, taken]
        refine ⟨_, dif_pos length, 20, rfl, ?_, rfl⟩
        simp only [List.length_cons]
        omega
    · rw [if_neg v6, if_neg v6]
      by_cases named : atyp = atypDomain
      · rw [if_pos named, if_pos named]
        cases rest with
        | nil => exact ⟨none, rfl, rfl⟩
        | cons len rest =>
            simp only [getU8, Varint.getBytes, List.getElem?_cons_succ, List.getElem?_cons_zero]
            by_cases short : rest.length < len.toNat
            · rw [if_pos (by simp only [List.length_cons]; omega), if_pos short]
              exact ⟨none, rfl, rfl⟩
            · obtain ⟨⟨part, _⟩, taken, rfl⟩ := Checked.slice_of_le
                (x :: y :: frag :: atyp :: len :: rest) 5 (5 + len.toNat) (by omega)
                (by simp only [List.length_cons]; omega)
              rw [if_neg (by simp only [List.length_cons]; omega), if_neg short]
              have name : ((x :: y :: frag :: atyp :: len :: rest).take (5 + len.toNat)).drop 5 =
                  rest.take len.toNat := by
                rw [Nat.add_comm]
                rfl
              have behind : (x :: y :: frag :: atyp :: len :: rest).drop (5 + len.toNat) =
                  rest.drop len.toNat := by
                rw [Nat.add_comm]
                rfl
              refine ⟨some (.domain (fromUtf8Lossy (rest.take len.toNat)), 5 + len.toNat), ?_,
                5 + len.toNat, rfl, ?_, behind⟩
              · rw [show 4 + 1 = 5 from rfl, taken, ← name]
                rfl
              · simp only [List.length_cons]
                omega
      · rw [if_neg named, if_neg named]
        exact ⟨none, rfl, rfl⟩

theorem udpPayloadAt_eq (target : Target) {pos : Nat} (inside : pos ≤ buf.length) :
    udpPayloadAt buf (some (target, pos)) =
      .ok ((getPort (buf.drop pos)).map fun (port, payload) => (target, port, payload)) := by
  have length : (buf.drop pos).length = buf.length - pos := List.length_drop
  rw [udpPayloadAt]
  cases behind : buf.drop pos with
  | nil =>
      rw [behind, List.length_nil] at length
      rw [if_pos (by omega)]
      rfl
  | cons hi tail =>
      have next : buf.drop (pos + 1) = tail := by
        rw [← List.drop_drop, behind]
        rfl
      cases tail with
      | nil =>
          rw [behind, List.length_singleton] at length
          rw [if_pos (by omega)]
          rfl
      | cons lo payload =>
          rw [behind, List.length_cons, List.length_cons] at length
          obtain ⟨⟨part, _⟩, taken, rfl⟩ := Checked.sliceFrom_of_le buf (pos + 2) (by omega)
          have last : buf.drop (pos + 2) = payload := by
            rw [← List.drop_drop, behind]
            rfl
          rw [if_neg (by omega), Checked.get_of_drop behind, Checked.get_of_drop next, taken]
          simp only [last]
          rfl

theorem parseUdpRequest_cons (x y frag atyp : UInt8) (rest : List UInt8) :
    parseUdpRequest (x :: y :: frag :: atyp :: rest) =
      if frag ≠ 0 then none
      else (readTarget atyp rest).map
        fun ((target, port), payload) => (target, port, payload) := rfl

/-- The walk stays inside of its buffer, and returns what the readers return. -/
theorem parseUdpRequestAt_eq (buf : List UInt8) :
    parseUdpRequestAt buf = .ok (parseUdpRequest buf) := by
  rcases buf with _ | ⟨x, _ | ⟨y, _ | ⟨frag, _ | ⟨atyp, rest⟩⟩⟩⟩
  · rfl
  · rfl
  · rfl
  · rfl
  · obtain ⟨found, walked, finds⟩ := udpTargetAt_finds x y frag atyp rest
    have front : parseUdpRequestAt (x :: y :: frag :: atyp :: rest) =
        if frag ≠ 0 then .ok none
        else udpPayloadAt (x :: y :: frag :: atyp :: rest) found := by
      unfold parseUdpRequestAt
      rw [if_neg (by simp only [List.length_cons]; omega)]
      change (if frag ≠ 0 then pure none
        else udpTargetAt (x :: y :: frag :: atyp :: rest) atyp 4 >>= udpPayloadAt _) = _
      rw [walked]
      rfl
    rw [front, parseUdpRequest_cons]
    by_cases whole : frag ≠ 0
    · rw [if_pos whole, if_pos whole]
    · rw [if_neg whole, if_neg whole, readTarget]
      cases read : getTarget atyp rest with
      | none =>
          rw [read] at finds
          rw [finds]
          rfl
      | some result =>
          obtain ⟨target, behind⟩ := result
          rw [read] at finds
          obtain ⟨pos, rfl, inside, dropped⟩ := finds
          rw [udpPayloadAt_eq target inside, dropped]
          simp only [Option.map_map]
          rfl

theorem getPort_suffix {bytes payload : List UInt8} {port : UInt16}
    (read : getPort bytes = some (port, payload)) : payload <:+ bytes := by
  rcases bytes with _ | ⟨hi, _ | ⟨lo, rest⟩⟩
  · cases read
  · cases read
  · cases read
    exact (List.suffix_cons lo payload).trans (List.suffix_cons hi _)

theorem parseUdpRequest_suffix {payload : List UInt8} {target : Target} {port : UInt16}
    (read : parseUdpRequest buf = some (target, port, payload)) : payload <:+ buf := by
  rcases buf with _ | ⟨x, _ | ⟨y, _ | ⟨frag, _ | ⟨atyp, rest⟩⟩⟩⟩
  · cases read
  · cases read
  · cases read
  · cases read
  · rw [parseUdpRequest_cons] at read
    split at read
    · cases read
    · obtain ⟨⟨⟨target, port⟩, payload⟩, taken, same⟩ := Option.map_eq_some_iff.mp read
      cases same
      obtain ⟨found, _, finds⟩ := udpTargetAt_finds x y frag atyp rest
      rw [readTarget] at taken
      cases named : getTarget atyp rest with
      | none =>
          rw [named] at taken
          cases taken
      | some result =>
          obtain ⟨target', behind⟩ := result
          rw [named] at taken finds
          obtain ⟨pos, _, _, dropped⟩ := finds
          obtain ⟨⟨port', payload'⟩, last, same⟩ := Option.map_eq_some_iff.mp taken
          cases same
          have inside : behind <:+ x :: y :: frag :: atyp :: rest := by
            rw [← dropped]
            exact List.drop_suffix pos _
          exact (getPort_suffix last).trans inside

end Walking

theorem parseUdpRequest_buildUdpReply (src : SocketAddr) (data : List UInt8) :
    parseUdpRequest (buildUdpReply src data) = some (.ip src.ip, src.port, data) := by
  have whole : buildUdpReply src data =
      0 :: 0 :: 0 :: (ipBytes src.ip).1 ::
        ((ipBytes src.ip).2 ++ (portBytes src.port ++ data)) := by
    simp only [buildUdpReply, List.append_assoc, List.cons_append, List.nil_append]
  rw [whole, parseUdpRequest, if_neg (by decide), readTarget_ip]
  rfl

/-- A reply comes back as it was built; any other datagram is refused, or its payload is the end
of it, and no index or slice leaves the buffer. -/
theorem udp_request_safe :
    (∀ src data, parseUdpRequestAt (buildUdpReply src data) =
        .ok (some (.ip src.ip, src.port, data))) ∧
      ∀ buf, ∃ result, parseUdpRequestAt buf = .ok result ∧
        ∀ target port payload, result = some (target, port, payload) → payload <:+ buf := by
  constructor
  · intro src data
    rw [parseUdpRequestAt_eq, parseUdpRequest_buildUdpReply]
  · intro buf
    refine ⟨_, parseUdpRequestAt_eq buf, ?_⟩
    intro target port payload read
    exact parseUdpRequest_suffix read

end MolidoVpn.Socks
