import Mathlib.Data.List.Perm.Basic
import MolidoVpn.Lib.Numbered
import MolidoVpn.Lib.Table
import MolidoVpn.Lib.Transition

/-!
The DNS of `ShardSocksFront`: the queries that `serveUdpgw` reads from tun2socks, the channels to
the resolvers that all of them share, and the replies, matched by a token of 16 bits. Every thread
takes its turn between two steps of another, and the resolvers answer what they were asked at any
time, in any order and more than once.
-/

namespace MolidoVpn.Shard

open Numbered (getElem?_append_of_some)
open Transition (Run ofNext Restrict execute run_of_execute executeChecked run_of_executeChecked)

def flagKeepalive : UInt8 := 1

def flagRebind : UInt8 := 2

def flagDns : UInt8 := 4

def flagIpv6 : UInt8 := 8

def maxAssociations : Nat := 192

def dnsRetryMs : Nat := 1200

def dnsPendingTtlMs : Nat := 5000

def dnsUpstreams : Nat := 2

section Frames

/-- The transaction id, the first two bytes. -/
def idOf (payload : List UInt8) : Nat :=
  (payload.getD 0 0).toNat * 256 + (payload.getD 1 0).toNat

def withId (id : Nat) (payload : List UInt8) : List UInt8 :=
  UInt8.ofNat (id / 256) :: UInt8.ofNat (id % 256) :: payload.drop 2

/-- A query that tun2socks submits. -/
structure DnsQuery where
  conid : Nat
  isIpv6 : Bool
  clientAddress : List UInt8
  payload : List UInt8
  deriving DecidableEq

/-- What `serveUdpgw` makes of a frame; the flows that are not DNS go to associations of their
own. -/
structure Frame where
  rebinds : Option Nat
  query : Option DnsQuery

def hasFlag (flags flag : UInt8) : Bool := flags &&& flag != 0

def readFrame (body : List UInt8) : Frame :=
  let flags := body.getD 0 0
  let conid := (body.getD 2 0).toNat * 256 + (body.getD 1 0).toNat
  if body.length < 3 ∨ hasFlag flags flagKeepalive = true then ⟨none, none⟩
  else
    let rebinds := if hasFlag flags flagRebind then some conid else none
    let isIpv6 := hasFlag flags flagIpv6
    let addressLength := if isIpv6 then 18 else 6
    let address := (body.drop 3).take addressLength
    let payload := body.drop (3 + addressLength)
    if body.length < 3 + addressLength ∨ payload = [] then ⟨rebinds, none⟩
    else
      let destinationPort := idOf (address.drop (addressLength - 2))
      if hasFlag flags flagDns || destinationPort == 53 then
        ⟨rebinds, some ⟨conid, isIpv6, address, payload⟩⟩
      else ⟨rebinds, none⟩

/-- The frame of `writeUdpgw`, without its length. -/
def udpgwBody (conid : Nat) (isIpv6 : Bool) (clientAddress payload : List UInt8) : List UInt8 :=
  (if isIpv6 then flagIpv6 else 0) :: UInt8.ofNat (conid % 256) :: UInt8.ofNat (conid / 256) ::
    (clientAddress ++ payload)

/-- `buildDnsQuery`, for the one name that is asked for. -/
def buildDnsQuery (token : Nat) : List UInt8 :=
  let labels := ["cloudflare".toList, "com".toList]
  withId token [0, 0, 1, 0, 0, 1, 0, 0, 0, 0, 0, 0] ++
    (labels.flatMap fun label =>
      UInt8.ofNat label.length :: label.map fun c => UInt8.ofNat c.toNat) ++ [0, 0, 1, 0, 1]

end Frames

/-- A query that waits for its answer; `serial` is its place among all that were submitted. -/
structure DnsPending where
  serial : Nat
  conid : Nat
  isIpv6 : Bool
  clientAddress : List UInt8
  originalId : Nat
  query : List UInt8
  sentAt : Nat
  tried : Nat
  order : Nat

/-- What has gone down a channel: a query, or a probe without one. -/
structure Datagram where
  upstream : Nat
  serial : Option Nat
  payload : List UInt8

/-- A reply that a channel has matched and not written yet. `answers` is the query it replies to. -/
structure Matched where
  pending : DnsPending
  answers : Option Nat
  payload : List UInt8

/-- A frame that tun2socks has been sent; `rebinds` counts those of its conid up to then. -/
structure Written where
  answers : Option Nat
  body : List UInt8
  rebinds : Nat

/-- `queries` are the submitted ones with the rebinds of their conid before them, and `rebound` the
conids that were taken for another flow. -/
structure DnsFront where
  clock : Nat
  streaming : Bool
  seq : Nat
  pending : AList fun _ : Nat => DnsPending
  preferred : Nat
  datagrams : List Datagram
  held : List Matched
  written : List Written
  queries : List (DnsQuery × Nat)
  rebound : List Nat

inductive DnsLabel where
  | tick (ms : Nat)
  /-- A frame, the entry that is evicted where the table is full, and whether the channel takes the
  query. -/
  | receives (body : List UInt8) (evicted : Nat) (sent : Bool)
  | probes (upstream : Nat) (sent : Bool)
  | replies (datagram : Nat) (rest : List UInt8)
  | writes (place : Nat)
  | expires (token : Nat)
  | retries (token : Nat) (sent : Bool)
  | ends

namespace DnsFront

/-- A stream that has just come up. -/
def start (seq preferred : Nat) : DnsFront :=
  { clock := 0
    streaming := true
    seq
    pending := ∅
    preferred
    datagrams := []
    held := []
    written := []
    queries := []
    rebound := [] }

/-- The number of times that a conid was taken for another flow. -/
def rebindsOf (state : DnsFront) (conid : Nat) : Nat := state.rebound.count conid

def rebind (state : DnsFront) : Option Nat → DnsFront
  | some conid => { state with rebound := state.rebound ++ [conid] }
  | none => state

def send (state : DnsFront) (sent : Bool) (datagram : Datagram) : DnsFront :=
  if sent then { state with datagrams := state.datagrams ++ [datagram] } else state

/-- Room for one more; the entry that goes is one of those that were sent first. -/
def evict (state : DnsFront) (evicted : Nat) : Option DnsFront :=
  if state.pending.entries.length < maxAssociations then some state
  else
    match state.pending.lookup evicted with
    | some oldest =>
        if state.pending.entries.all fun entry => oldest.sentAt ≤ entry.2.sentAt then
          some { state with pending := state.pending.erase evicted }
        else none
    | none => none

def pendingOf (state : DnsFront) (query : DnsQuery) : DnsPending :=
  { serial := state.queries.length
    conid := query.conid
    isIpv6 := query.isIpv6
    clientAddress := query.clientAddress
    originalId := idOf query.payload
    query := withId ((state.seq + 1) % 65536) query.payload
    sentAt := state.clock
    tried := 1
    order := state.preferred }

/-- `submitDnsQuery`, once there is room -/
def enter (state : DnsFront) (query : DnsQuery) (sent : Bool) : DnsFront :=
  let pending := state.pendingOf query
  let entered := { state with
    seq := state.seq + 1
    pending := state.pending.insert ((state.seq + 1) % 65536) pending
    queries := state.queries ++ [(query, state.rebindsOf query.conid)] }
  entered.send sent ⟨pending.order, some pending.serial, pending.query⟩

def submitDnsQuery (state : DnsFront) (query : DnsQuery) (evicted : Nat) (sent : Bool) :
    Option DnsFront :=
  if query.payload.length < 12 then some state
  else (state.evict evicted).map fun room => room.enter query sent

/-- `pumpDnsChannel` up to the write -/
def take (state : DnsFront) (datagram : Datagram) (rest : List UInt8) : DnsFront :=
  let payload := datagram.payload.take 2 ++ rest
  if payload.length < 12 then state
  else
    match state.pending.lookup (idOf payload) with
    | some pending =>
        { state with
          pending := state.pending.erase (idOf payload)
          preferred := datagram.upstream
          held := state.held ++
            [⟨pending, datagram.serial, withId pending.originalId payload⟩] }
    | none => state

/-- `writeUdpgw` -/
def write (state : DnsFront) (reply : Matched) : DnsFront :=
  let pending := reply.pending
  if state.streaming then
    { state with
      written := state.written ++
        [⟨reply.answers,
          udpgwBody pending.conid pending.isIpv6 pending.clientAddress reply.payload,
          state.rebindsOf pending.conid⟩] }
  else state

def next (state : DnsFront) : DnsLabel → Option DnsFront
  | .tick ms => some { state with clock := state.clock + ms }
  | .receives body evicted sent =>
      if state.streaming then
        let frame := readFrame body
        let rebound := state.rebind frame.rebinds
        match frame.query with
        | some query => rebound.submitDnsQuery query evicted sent
        | none => some rebound
      else none
  | .probes upstream sent =>
      let token := (state.seq + 1) % 65536
      some ({ state with seq := state.seq + 1 }.send sent ⟨upstream, none, buildDnsQuery token⟩)
  | .replies datagram rest => (state.datagrams[datagram]?).map fun asked => state.take asked rest
  | .writes place =>
      (state.held[place]?).map fun reply =>
        { state with held := state.held.eraseIdx place }.write reply
  | .expires token =>
      match state.pending.lookup token with
      | some pending =>
          if pending.sentAt + dnsPendingTtlMs < state.clock then
            some { state with pending := state.pending.erase token }
          else none
      | none => none
  | .retries token sent =>
      match state.pending.lookup token with
      | some pending =>
          if pending.sentAt + dnsPendingTtlMs < state.clock then none
          else if pending.sentAt + dnsRetryMs < state.clock ∧ pending.tried < dnsUpstreams then
            let later := { pending with tried := pending.tried + 1, sentAt := state.clock }
            let upstream := (pending.order + pending.tried) % dnsUpstreams
            some ({ state with pending := state.pending.insert token later }.send sent
              ⟨upstream, some pending.serial, pending.query⟩)
          else none
      | none => none
  | .ends =>
      some { state with
        streaming := false
        pending := ∅ }

end DnsFront

section Ids

/-- The id of a query, put back. -/
theorem withId_idOf {query : List UInt8} (long : 2 ≤ query.length) (payload : List UInt8) :
    withId (idOf query) payload = query.take 2 ++ payload.drop 2 := by
  cases query with
  | nil => exact absurd long (by decide)
  | cons first rest =>
      cases rest with
      | nil => exact absurd long (Nat.not_succ_le_self 1)
      | cons second rest =>
          have low := second.toNat_lt
          have high : (first.toNat * 256 + second.toNat) / 256 = first.toNat := by omega
          have last : (first.toNat * 256 + second.toNat) % 256 = second.toNat := by omega
          change UInt8.ofNat ((first.toNat * 256 + second.toNat) / 256) ::
            UInt8.ofNat ((first.toNat * 256 + second.toNat) % 256) :: payload.drop 2 = _
          rw [high, last, UInt8.ofNat_toNat, UInt8.ofNat_toNat]
          rfl

end Ids

section Replies

namespace DnsFront

/-- At most one frame for a query, and that one for the flow that has asked: with the conid, the
address and the id of the query, and no rebind of the conid in between. -/
structure Answered (state : DnsFront) : Prop where
  once : (state.written.filterMap Written.answers).Nodup
  own : ∀ frame ∈ state.written, ∃ serial query reply,
    frame.answers = some serial ∧ state.queries[serial]? = some (query, frame.rebinds) ∧
      frame.body = udpgwBody query.conid query.isIpv6 query.clientAddress
        (query.payload.take 2 ++ reply)

/-- A conid is not taken for another flow while one of its queries waits for a reply or a reply of
it to be written, and no reply comes under a token that has since gone to another query. -/
def unmixed (state : DnsFront) : DnsLabel → Bool
  | .receives body _ _ =>
      match (readFrame body).rebinds with
      | some conid =>
          (state.pending.entries.all fun entry => entry.2.conid != conid) &&
            state.held.all fun reply => reply.pending.conid != conid
      | none => true
  | .replies datagram rest =>
      match state.datagrams[datagram]? with
      | some asked =>
          match state.pending.lookup (idOf (asked.payload.take 2 ++ rest)) with
          | some pending => asked.serial == some pending.serial
          | none => true
      | none => true
  | _ => true

/-- An entry of the table is what its query has put there, and its conid is still that flow's. -/
def Asks (state : DnsFront) (pending : DnsPending) : Prop :=
  ∃ query, state.queries[pending.serial]? = some (query, state.rebindsOf pending.conid) ∧
    pending.conid = query.conid ∧ pending.isIpv6 = query.isIpv6 ∧
    pending.clientAddress = query.clientAddress ∧ pending.originalId = idOf query.payload ∧
    12 ≤ query.payload.length

/-- The queries that wait, and those that have been answered. -/
def serials (state : DnsFront) : List Nat :=
  (state.pending.entries.map fun entry => entry.2.serial) ++
    (state.held.map fun reply => reply.pending.serial) ++ state.written.filterMap Written.answers

structure Kept (state : DnsFront) : Prop where
  pending : ∀ entry ∈ state.pending.entries, state.Asks entry.2
  held : ∀ reply ∈ state.held, state.Asks reply.pending ∧
    reply.answers = some reply.pending.serial ∧
    ∃ payload, reply.payload = withId reply.pending.originalId payload
  serials : state.serials.Nodup
  own : ∀ frame ∈ state.written, ∃ serial query reply,
    frame.answers = some serial ∧ state.queries[serial]? = some (query, frame.rebinds) ∧
      frame.body = udpgwBody query.conid query.isIpv6 query.clientAddress
        (query.payload.take 2 ++ reply)

theorem Kept.answered {state : DnsFront} (kept : Kept state) : Answered state where
  once := (List.nodup_append.mp kept.serials).2.1
  own := kept.own

/-- Fewer entries in the table. -/
theorem Kept.drop {state : DnsFront} (kept : Kept state) {later : AList fun _ : Nat => DnsPending}
    (fewer : later.entries.Sublist state.pending.entries) :
    Kept { state with pending := later } where
  pending entry member := kept.pending entry (fewer.subset member)
  held := kept.held
  serials := kept.serials.sublist
    (((fewer.map _).append (List.Sublist.refl _)).append (List.Sublist.refl _))
  own := kept.own

theorem Kept.send {state : DnsFront} (kept : Kept state) (sent : Bool) (datagram : Datagram) :
    Kept (state.send sent datagram) := by
  unfold DnsFront.send
  split
  · exact ⟨kept.pending, kept.held, kept.serials, kept.own⟩
  · exact kept

theorem Kept.evict {state room : DnsFront} (kept : Kept state) {evicted : Nat}
    (done : state.evict evicted = some room) : Kept room := by
  unfold DnsFront.evict at done
  split at done
  · obtain rfl := Option.some.inj done
    exact kept
  · split at done
    · split at done
      · obtain rfl := Option.some.inj done
        exact kept.drop (List.kerase_sublist _ _)
      · cases done
    · cases done

theorem Kept.serial_lt {state : DnsFront} (kept : Kept state) :
    ∀ serial ∈ state.serials, serial < state.queries.length := by
  intro serial member
  unfold DnsFront.serials at member
  have asked {pending : DnsPending} (asks : state.Asks pending) :
      pending.serial < state.queries.length := by
    obtain ⟨query, found, -⟩ := asks
    exact (List.getElem?_eq_some_iff.mp found).1
  rcases List.mem_append.mp member with waiting | written
  · rcases List.mem_append.mp waiting with there | there
    · obtain ⟨entry, inTable, rfl⟩ := List.mem_map.mp there
      exact asked (kept.pending entry inTable)
    · obtain ⟨reply, isHeld, rfl⟩ := List.mem_map.mp there
      exact asked (kept.held reply isHeld).1
  · obtain ⟨frame, sent, answers⟩ := List.mem_filterMap.mp written
    obtain ⟨own, query, reply, same, found, -⟩ := kept.own frame sent
    obtain rfl := Option.some.inj (same.symm.trans answers)
    exact (List.getElem?_eq_some_iff.mp found).1

theorem Asks.grow {state : DnsFront} {pending : DnsPending} (asks : state.Asks pending)
    (later : AList fun _ : Nat => DnsPending) (seq : Nat) (query : DnsQuery × Nat) :
    Asks { state with seq, pending := later, queries := state.queries ++ [query] } pending := by
  obtain ⟨own, found, rest⟩ := asks
  exact ⟨own, getElem?_append_of_some found _, rest⟩

theorem Kept.enter {state : DnsFront} (kept : Kept state) (query : DnsQuery) (sent : Bool)
    (long : 12 ≤ query.payload.length) : Kept (state.enter query sent) := by
  apply Kept.send
  constructor
  · intro entry member
    rcases List.mem_cons.mp member with rfl | old
    · refine ⟨query, ?_, rfl, rfl, rfl, rfl, long⟩
      exact List.getElem?_concat_length
    · exact (kept.pending entry ((List.kerase_sublist _ _).subset old)).grow _ _ _
  · intro reply member
    obtain ⟨asks, rest⟩ := kept.held reply member
    exact ⟨asks.grow _ _ _, rest⟩
  · have fresh : state.queries.length ∉ state.serials := fun member =>
      Nat.lt_irrefl _ (kept.serial_lt _ member)
    have fewer : (((List.kerase ((state.seq + 1) % 65536) state.pending.entries).map
        fun entry => entry.2.serial) ++ (state.held.map fun reply => reply.pending.serial) ++
          state.written.filterMap Written.answers).Sublist state.serials :=
      ((((List.kerase_sublist _ _).map _).append (List.Sublist.refl _)).append
        (List.Sublist.refl _))
    exact List.nodup_cons.mpr ⟨fun member => fresh (fewer.subset member),
      kept.serials.sublist fewer⟩
  · intro frame member
    obtain ⟨serial, own, reply, answers, found, body⟩ := kept.own frame member
    exact ⟨serial, own, reply, answers,
      getElem?_append_of_some found _, body⟩

/-- A reply that is matched to the query it answers. -/
theorem Kept.take {state : DnsFront} (kept : Kept state) {asked : Datagram} {rest : List UInt8}
    (own : ∀ pending, state.pending.lookup (idOf (asked.payload.take 2 ++ rest)) = some pending →
      asked.serial = some pending.serial) : Kept (state.take asked rest) := by
  unfold DnsFront.take
  dsimp only
  split
  · exact kept
  · split
    · rename_i pending found
      have perm := Table.perm_erase found
      have fewer := List.kerase_sublist (idOf (asked.payload.take 2 ++ rest)) state.pending.entries
      constructor
      · intro entry member
        exact kept.pending entry (fewer.subset member)
      · intro reply member
        rcases List.mem_append.mp member with old | new
        · exact kept.held reply old
        · rw [List.mem_singleton.mp new]
          refine ⟨?_, own pending found, _, rfl⟩
          exact kept.pending ⟨_, pending⟩ (perm.mem_iff.mpr List.mem_cons_self)
      · have same : state.serials.Perm (DnsFront.serials
            { state with
              pending := state.pending.erase (idOf (asked.payload.take 2 ++ rest))
              preferred := asked.upstream
              held := state.held ++ [⟨pending, asked.serial,
                withId pending.originalId (asked.payload.take 2 ++ rest)⟩] }) := by
          unfold DnsFront.serials
          refine List.Perm.append_right _ ?_
          rw [List.map_append, ← List.append_assoc]
          refine ((perm.map _).append_right _).trans ?_
          exact (List.perm_append_singleton _ _).symm
        exact same.nodup_iff.mp kept.serials
      · exact kept.own
    · exact kept

theorem Kept.write {state : DnsFront} (kept : Kept state) {place : Nat} {reply : Matched}
    (found : state.held[place]? = some reply) :
    Kept ({ state with held := state.held.eraseIdx place }.write reply) := by
  obtain ⟨within, here⟩ := List.getElem?_eq_some_iff.mp found
  have perm : (reply :: state.held.eraseIdx place).Perm state.held := by
    rw [← here]
    exact List.getElem_cons_eraseIdx_perm within
  obtain ⟨asks, answers, payload, written⟩ := kept.held reply (List.mem_of_getElem? found)
  have fewer := List.eraseIdx_sublist state.held place
  unfold DnsFront.write
  dsimp only
  split
  · constructor
    · exact kept.pending
    · intro other member
      exact kept.held other (fewer.subset member)
    · have same : state.serials.Perm
          ((state.pending.entries.map fun entry => entry.2.serial) ++
            ((state.held.eraseIdx place).map fun reply => reply.pending.serial) ++
              (state.written.filterMap Written.answers ++ [reply.pending.serial])) := by
        unfold DnsFront.serials
        rw [List.append_assoc, List.append_assoc]
        refine List.Perm.append_left _ ?_
        refine ((perm.symm.map _).append_right _).trans ?_
        rw [← List.append_assoc]
        exact (List.perm_append_singleton _ _).symm
      have nodup := same.nodup_iff.mp kept.serials
      unfold DnsFront.serials
      dsimp only
      rw [List.filterMap_append, answers]
      exact nodup
    · intro frame member
      rcases List.mem_append.mp member with old | new
      · exact kept.own frame old
      · obtain ⟨query, asked, conid, isIpv6, clientAddress, originalId, long⟩ := asks
        rw [List.mem_singleton.mp new]
        refine ⟨reply.pending.serial, query, payload.drop 2, answers, asked, ?_⟩
        rw [written, conid, isIpv6, clientAddress, originalId, withId_idOf (by omega)]
  · refine ⟨kept.pending, fun other member => kept.held other (fewer.subset member), ?_, kept.own⟩
    exact kept.serials.sublist
      (((List.Sublist.refl _).append (fewer.map _)).append (List.Sublist.refl _))

theorem Kept.retry {state : DnsFront} (kept : Kept state) {token : Nat} {pending : DnsPending}
    (found : state.pending.lookup token = some pending) (sentAt tried : Nat) :
    Kept { state with
      pending := state.pending.insert token { pending with tried, sentAt } } := by
  have perm := Table.perm_erase found
  constructor
  · intro entry member
    rcases List.mem_cons.mp member with rfl | old
    · exact kept.pending ⟨token, pending⟩ (perm.mem_iff.mpr List.mem_cons_self)
    · exact kept.pending entry ((List.kerase_sublist _ _).subset old)
  · exact kept.held
  · have same := (((perm.map fun entry => entry.2.serial).append_right
      (state.held.map fun reply => reply.pending.serial)).append_right
        (state.written.filterMap Written.answers))
    exact same.nodup_iff.mp kept.serials
  · exact kept.own

theorem Kept.rebind {state : DnsFront} (kept : Kept state) {conid : Nat}
    (noneWaits : ∀ entry ∈ state.pending.entries, entry.2.conid ≠ conid)
    (noneHeld : ∀ reply ∈ state.held, reply.pending.conid ≠ conid) :
    Kept (state.rebind (some conid)) := by
  have asks {pending : DnsPending} (before : state.Asks pending) (other : pending.conid ≠ conid) :
      Asks (state.rebind (some conid)) pending := by
    obtain ⟨query, found, rest⟩ := before
    refine ⟨query, ?_, rest⟩
    have same : (state.rebind (some conid)).rebindsOf pending.conid =
        state.rebindsOf pending.conid := by
      rw [DnsFront.rebind, rebindsOf, List.count_append,
        List.count_singleton, beq_false_of_ne other.symm]
      rfl
    rw [same]
    exact found
  constructor
  · intro entry member
    exact asks (kept.pending entry member) (noneWaits entry member)
  · intro reply member
    obtain ⟨before, rest⟩ := kept.held reply member
    exact ⟨asks before (noneHeld reply member), rest⟩
  · exact kept.serials
  · exact kept.own

theorem Kept.receives {state : DnsFront} (kept : Kept state) {body : List UInt8} {evicted : Nat}
    {sent : Bool} (unmixed_ : unmixed state (.receives body evicted sent) = true) :
    Kept (state.rebind (readFrame body).rebinds) := by
  rw [unmixed] at unmixed_
  cases rebinds : (readFrame body).rebinds with
  | none => exact kept
  | some conid =>
      rw [rebinds, Bool.and_eq_true, List.all_eq_true, List.all_eq_true] at unmixed_
      exact kept.rebind (fun entry member => bne_iff_ne.mp (unmixed_.1 entry member))
        fun reply member => bne_iff_ne.mp (unmixed_.2 reply member)

theorem next_kept (source : DnsFront) (label : DnsLabel) (target : DnsFront)
    (taken : Restrict (ofNext DnsFront.next) (fun state label => unmixed state label) source
      label target) (kept : Kept source) : Kept target := by
  obtain ⟨taken, unmixed_⟩ := taken
  unfold ofNext at taken
  cases label with
  | tick ms =>
      obtain rfl := Option.some.inj taken
      exact ⟨kept.pending, kept.held, kept.serials, kept.own⟩
  | receives body evicted sent =>
      have rebound := kept.receives unmixed_
      simp only [DnsFront.next] at taken
      split at taken
      · split at taken
        · rename_i query _
          unfold DnsFront.submitDnsQuery at taken
          split at taken
          · obtain rfl := Option.some.inj taken
            exact rebound
          · rename_i long
            obtain ⟨room, made, rfl⟩ := Option.map_eq_some_iff.mp taken
            exact (rebound.evict made).enter query sent (Nat.le_of_not_lt long)
        · obtain rfl := Option.some.inj taken
          exact rebound
      · cases taken
  | probes upstream sent =>
      obtain rfl := Option.some.inj taken
      apply Kept.send
      exact ⟨kept.pending, kept.held, kept.serials, kept.own⟩
  | replies datagram rest =>
      obtain ⟨asked, found, rfl⟩ := Option.map_eq_some_iff.mp taken
      apply kept.take
      intro pending waiting
      rw [unmixed, found] at unmixed_
      dsimp only at unmixed_
      rw [waiting] at unmixed_
      exact beq_iff_eq.mp unmixed_
  | writes place =>
      obtain ⟨reply, found, rfl⟩ := Option.map_eq_some_iff.mp taken
      exact kept.write found
  | expires token =>
      simp only [DnsFront.next] at taken
      split at taken
      · split at taken
        · obtain rfl := Option.some.inj taken
          exact kept.drop (List.kerase_sublist _ _)
        · cases taken
      · cases taken
  | retries token sent =>
      simp only [DnsFront.next] at taken
      split at taken
      · rename_i pending found
        split at taken
        · cases taken
        · split at taken
          · obtain rfl := Option.some.inj taken
            exact (kept.retry found _ _).send _ _
          · cases taken
      · cases taken
  | ends =>
      obtain rfl := Option.some.inj taken
      have emptied : Kept { source with pending := ∅ } :=
        kept.drop (List.nil_sublist source.pending.entries)
      exact ⟨emptied.pending, emptied.held, emptied.serials, emptied.own⟩

end DnsFront

open DnsFront (Answered unmixed start Kept next_kept)

/-- As long as no conid is rebound under a query, and no reply comes under a token that has gone to
another query: whatever the order of the frames, the replies and the threads, a query is answered
at most once, to the flow that has asked and under its own id. -/
theorem answered_of_unmixed {seq preferred : Nat} {labels : List DnsLabel} {state : DnsFront}
    (run : Run (Restrict (ofNext DnsFront.next) (fun state label => unmixed state label))
      (start seq preferred) labels state) : Answered state := by
  refine (run.invariant Kept next_kept ?_).answered
  exact
    { pending := fun entry member => absurd member List.not_mem_nil
      held := fun reply member => absurd member List.not_mem_nil
      serials := List.nodup_nil
      own := fun frame member => absurd member List.not_mem_nil }

/-- A query of a conid for port 53 of 10.0.0.2, with these flags and this id. -/
def dnsFrame (flags conid id : UInt8) : List UInt8 :=
  [flags, conid, 0, 10, 0, 0, 2, 0, 53, id, 0] ++ List.replicate 10 0

theorem answered_of_unmixed_once :
    ∃ state : DnsFront, state.written.map Written.answers = [some 0] ∧ Answered state :=
  ⟨_, rfl, @answered_of_unmixed 0 0
    [.receives (dnsFrame flagDns 7 9) 0 true, .replies 0 (List.replicate 10 0),
      .replies 0 (List.replicate 10 0), .writes 0]
    _ (run_of_executeChecked rfl)⟩

/-- The conid is rebound while its query waits, and the reply comes on it all the same. -/
theorem rebound_conid_answered :
    ¬ ∀ (labels : List DnsLabel) (state : DnsFront),
      Run (ofNext DnsFront.next) (start 0 0) labels state → Answered state := by
  intro always
  have reached : (execute DnsFront.next (start 0 0)
      [.receives (dnsFrame flagDns 7 9) 0 true,
        .receives (dnsFrame (flagDns ||| flagRebind) 7 10) 0 true,
        .replies 0 (List.replicate 10 0), .writes 0]).map (fun state =>
          (state.written.map fun frame => (frame.answers, frame.rebinds),
            state.queries.map Prod.snd)) = some ([(some 0, 1)], [0, 1]) := by
    decide
  obtain ⟨state, executed, same⟩ := Option.map_eq_some_iff.mp reached
  rw [Prod.mk.injEq] at same
  obtain ⟨frame, member, once⟩ := List.mem_map.mp (same.1 ▸ List.mem_cons_self)
  rw [Prod.mk.injEq] at once
  obtain ⟨serial, query, reply, answers, asked, -⟩ :=
    (always _ state (run_of_execute executed)).own frame member
  obtain rfl := Option.some.inj (once.1.symm.trans answers)
  have rebinds : (state.queries.map Prod.snd)[0]? = some frame.rebinds := by
    rw [List.getElem?_map, asked]
    rfl
  rw [same.2, once.2] at rebinds
  cases rebinds

end Replies

end MolidoVpn.Shard
