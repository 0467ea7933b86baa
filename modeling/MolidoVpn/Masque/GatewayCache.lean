import MolidoVpn.Lib.History
import MolidoVpn.Lib.Ranking
import MolidoVpn.Socks.IpDisplay

/-!
The cache of MASQUE gateways that `cache_masque_gateway` writes and `cached_masque_gateways`
reads, over any calls: when the gateway of the last tunnel is offered to the next connect.
-/

namespace MolidoVpn.Masque

open IpText (display parseIpAddr parseIpAddr_display)
open History (Every every_nil every_snoc_iff)
open Ranking (rank rank_perm rank_sorted mem_rank mem_take_rank)

def maxCachedMasqueGateways : Nat := 12

structure CachedMasqueGateway where
  ip : List Char
  port : UInt16
  rttMs : Nat
  deriving DecidableEq

/-- `rtt` is in nanoseconds, as a `Duration` holds it. -/
structure ProbeResult where
  ip : IpAddr
  port : UInt16
  rtt : Nat

inductive IpScan where
  | v4
  | v6
  | both
  deriving DecidableEq

namespace IpScan

def wantV4 : IpScan → Bool
  | v4 => true
  | v6 => false
  | both => true

def wantV6 : IpScan → Bool
  | v4 => false
  | v6 => true
  | both => true

def wants (scan : IpScan) : IpAddr → Bool
  | .v4 _ => scan.wantV4
  | .v6 _ => scan.wantV6

end IpScan

/-- What the file holds, unless it is missing or not to be read. -/
abbrev Stored := Option (List CachedMasqueGateway)

def cachedMasqueGateways (scan : IpScan) (stored : Stored) : List SocketAddr :=
  let found := (stored.getD []).filterMap fun entry =>
    (parseIpAddr entry.ip).map fun ip => (⟨ip, entry.port⟩ : SocketAddr)
  (found.filter fun peer => scan.wants peer.ip).take maxCachedMasqueGateways

namespace ProbeResult

def entry (gateway : ProbeResult) : CachedMasqueGateway :=
  { ip := display gateway.ip
    port := gateway.port
    rttMs := min (gateway.rtt / 1000000) (2 ^ 64 - 1) }

def peer (gateway : ProbeResult) : SocketAddr := ⟨gateway.ip, gateway.port⟩

end ProbeResult

/-- The entries under another text or port. -/
def others (gateway : ProbeResult) (stored : Stored) : List CachedMasqueGateway :=
  (stored.getD []).filter fun entry =>
    !(entry.ip == display gateway.ip && entry.port == gateway.port)

/-- What is written; the name of the file changes only once all of it is. -/
def cacheMasqueGateway (gateway : ProbeResult) (stored : Stored) : List CachedMasqueGateway :=
  (rank CachedMasqueGateway.rttMs (others gateway stored ++ [gateway.entry])).take
    maxCachedMasqueGateways

/-- A call, and whether the file system takes what it writes. -/
structure Recording where
  gateway : ProbeResult
  written : Bool

def recordCall (stored : Stored) (call : Recording) : Stored :=
  if call.written then some (cacheMasqueGateway call.gateway stored) else stored

def afterCalls (stored : Stored) (calls : List Recording) : Stored :=
  calls.foldl recordCall stored

section Kept

/-- Two entries for one gateway, however its address is spelled. -/
def SameGateway (first second : CachedMasqueGateway) : Prop :=
  first.port = second.port ∧
    (first.ip = second.ip ∨
      ∃ ip, parseIpAddr first.ip = some ip ∧ parseIpAddr second.ip = some ip)

theorem SameGateway.symm {first second : CachedMasqueGateway} (same : SameGateway first second) :
    SameGateway second first :=
  ⟨same.1.symm, same.2.imp Eq.symm fun ⟨ip, left, right⟩ => ⟨ip, right, left⟩⟩

def Distinct (entries : List CachedMasqueGateway) : Prop :=
  entries.Pairwise fun first second => ¬SameGateway first second

/-- What a cache should be after the gateway has been recorded. -/
structure Kept (gateway : ProbeResult) (stored : Stored) : Prop where
  bounded : (stored.getD []).length ≤ maxCachedMasqueGateways
  distinct : Distinct (stored.getD [])
  sorted : (stored.getD []).Pairwise fun first second => first.rttMs ≤ second.rttMs
  recorded : gateway.entry ∈ stored.getD []
  offered : ∀ scan : IpScan, scan.wants gateway.ip = true →
    gateway.peer ∈ cachedMasqueGateways scan stored

/-- The cache does not hold the gateway under another spelling, nor as many others that were no
slower as there is room for. -/
structure Fits (gateway : ProbeResult) (stored : Stored) : Prop where
  spelled : ∀ entry ∈ stored.getD [], entry.port = gateway.port →
    parseIpAddr entry.ip = some gateway.ip → entry.ip = display gateway.ip
  room : (others gateway stored).countP (fun entry => entry.rttMs ≤ gateway.entry.rttMs) <
    maxCachedMasqueGateways

variable {gateway : ProbeResult} {stored : Stored}

theorem others_not_same (fits : Fits gateway stored) {entry : CachedMasqueGateway}
    (member : entry ∈ others gateway stored) : ¬SameGateway entry gateway.entry := by
  rw [others, List.mem_filter, Bool.not_eq_true', Bool.and_eq_false_iff, beq_eq_false_iff_ne,
    beq_eq_false_iff_ne] at member
  rintro ⟨port, ip⟩
  have spelled : entry.ip = display gateway.ip := by
    rcases ip with text | ⟨ip, parsed, own⟩
    · exact text
    · rw [ProbeResult.entry, parseIpAddr_display, Option.some_inj] at own
      exact fits.spelled entry member.1 port (own ▸ parsed)
  exact member.2.elim (absurd spelled) (absurd port)

theorem distinct_cacheMasqueGateway (distinct : Distinct (stored.getD []))
    (fits : Fits gateway stored) : Distinct (cacheMasqueGateway gateway stored) := by
  have together : Distinct (others gateway stored ++ [gateway.entry]) := by
    refine List.pairwise_append.mpr ⟨distinct.filter _, List.pairwise_singleton _ _, ?_⟩
    intro entry member last isLast
    rw [List.mem_singleton.mp isLast]
    exact others_not_same fits member
  have ranked := ((rank_perm CachedMasqueGateway.rttMs _).pairwise_iff
    (fun different same => different same.symm)).mpr together
  exact ranked.sublist (List.take_sublist _ _)

theorem entry_mem_cacheMasqueGateway (fits : Fits gateway stored) :
    gateway.entry ∈ cacheMasqueGateway gateway stored := by
  apply mem_take_rank (List.mem_append_right _ List.mem_cons_self)
  have room := fits.room
  rw [List.countP_append, List.countP_singleton]
  split <;> omega

/-- A list that the cache can hold is offered as far as its addresses are wanted. -/
theorem peer_mem_cachedMasqueGateways {entries : List CachedMasqueGateway}
    (bounded : entries.length ≤ maxCachedMasqueGateways) (member : gateway.entry ∈ entries)
    {scan : IpScan} (wanted : scan.wants gateway.ip = true) :
    gateway.peer ∈ cachedMasqueGateways scan (some entries) := by
  have short : ((entries.filterMap fun entry => (parseIpAddr entry.ip).map fun ip =>
      (⟨ip, entry.port⟩ : SocketAddr)).filter fun peer => scan.wants peer.ip).length ≤
        maxCachedMasqueGateways :=
    Nat.le_trans (List.length_filter_le _ _) (Nat.le_trans (List.length_filterMap_le _ _) bounded)
  rw [cachedMasqueGateways, Option.getD_some, List.take_of_length_le short, List.mem_filter,
    List.mem_filterMap]
  refine ⟨⟨gateway.entry, member, ?_⟩, wanted⟩
  rw [ProbeResult.entry, parseIpAddr_display]
  rfl

theorem kept_cacheMasqueGateway (distinct : Distinct (stored.getD []))
    (fits : Fits gateway stored) : Kept gateway (some (cacheMasqueGateway gateway stored)) where
  bounded := List.length_take_le _ _
  distinct := distinct_cacheMasqueGateway distinct fits
  sorted := (rank_sorted CachedMasqueGateway.rttMs _).sublist (List.take_sublist _ _)
  recorded := entry_mem_cacheMasqueGateway fits
  offered _ wanted := peer_mem_cachedMasqueGateways (List.length_take_le _ _)
    (entry_mem_cacheMasqueGateway fits) wanted

end Kept

section Runs

theorem run_concat (start : Stored) (calls : List Recording) (call : Recording) :
    afterCalls start (calls ++ [call]) = recordCall (afterCalls start calls) call := by
  rw [afterCalls, List.foldl_append]
  rfl

/-- Every call of the run finds room for its gateway. -/
def AllFit (start : Stored) : List Recording → Prop :=
  Every fun before call => call.written = true → Fits call.gateway (afterCalls start before)

theorem run_distinct {start : Stored} (distinct : Distinct (start.getD []))
    {calls : List Recording} (fits : AllFit start calls) :
    Distinct ((afterCalls start calls).getD []) := by
  induction calls using List.reverseRecOn with
  | nil => exact distinct
  | append_singleton calls call ih =>
      have earlier := ih (Every.of_append fits)
      rw [run_concat, recordCall]
      split
      · rename_i written
        exact distinct_cacheMasqueGateway earlier (fits calls call [] rfl written)
      · exact earlier

/-- From any cache that holds no gateway twice, as long as every call finds room: after each call
that is written the cache is sorted, short and without duplicates, and the next connect is offered
the gateway. -/
theorem run_kept {start : Stored} (distinct : Distinct (start.getD [])) {calls : List Recording}
    (fits : AllFit start calls) :
    Every (fun before call => call.written = true →
      Kept call.gateway (afterCalls start (before ++ [call]))) calls := by
  rintro before call after rfl written
  have here := fits before call after rfl written
  rw [run_concat, recordCall, if_pos written]
  exact kept_cacheMasqueGateway (run_distinct distinct (Every.of_append fits)) here

def slowGateway : ProbeResult :=
  { ip := .v4 ⟨162, 159, 198, 2⟩, port := 443, rtt := 20000000 }

theorem run_kept_first : Kept slowGateway (afterCalls none [⟨slowGateway, true⟩]) := by
  have nothing : Distinct ((none : Stored).getD []) := List.Pairwise.nil
  have fits : AllFit none [⟨slowGateway, true⟩] := by
    rw [AllFit, ← List.nil_append [_], every_snoc_iff]
    refine ⟨every_nil, fun _ => ⟨?_, by decide⟩⟩
    intro entry member
    cases member
  exact run_kept nothing fits [] _ [] rfl rfl

/-- Twelve ports of one address, answering in ten milliseconds. -/
def fullCache : List CachedMasqueGateway :=
  (List.range 12).map fun index =>
    { ip := "162.159.198.1".toList, port := UInt16.ofNat (443 + index), rttMs := 10 }

/-- A full cache of faster gateways loses the slower one that carries the tunnel. -/
theorem slow_gateway_lost :
    Distinct fullCache ∧
      slowGateway.entry ∉ (afterCalls (some fullCache) [⟨slowGateway, true⟩]).getD [] ∧
      slowGateway.peer ∉
        cachedMasqueGateways .v4 (afterCalls (some fullCache) [⟨slowGateway, true⟩]) := by
  refine ⟨?_, by decide, by decide⟩
  have ports : fullCache.Pairwise fun first second => first.port ≠ second.port := by decide
  exact ports.imp fun different same => different same.1

end Runs

end MolidoVpn.Masque
