import MolidoVpn.Address
import MolidoVpn.Lib.FirstSeen

/-!
The endpoints that a scan tries, in their order (`build_wg_candidates`): the anchors on the first
ports, then the pool in waves that rotate the ports. What the prefixes are enumerated or sampled
to is an argument.
-/

namespace MolidoVpn.WireGuard

open FirstSeen (fresh freshRounds mem_fresh mem_pushAll pushAll pushAll_eq)

universe u

inductive IpScan where
  | v4
  | v6
  | both
  deriving DecidableEq

def IpScan.wantV4 : IpScan → Bool
  | .v4 | .both => true
  | .v6 => false

def IpScan.wantV6 : IpScan → Bool
  | .v6 | .both => true
  | .v4 => false

/-- What the order depends on besides the sampling. -/
structure WgStrategy where
  anchorPortCount : Nat
  poolPortWaves : Nat

/-- The seeds that are addresses, and the hosts that stand for each prefix. -/
structure Sampled where
  seedsV4 : List Ipv4Addr
  hostsV4 : List (List Ipv4Addr)
  seedsV6 : List Ipv6Addr
  hostsV6 : List (List Ipv6Addr)

/-- The first of every list, then the second of every list that has one, and so on. -/
def interleave {Element : Type u} (lists : List (List Element)) : List Element :=
  (List.range ((lists.map List.length).max?.getD 0)).flatMap fun index =>
    lists.filterMap fun list => list[index]?

def Sampled.anchors (sampled : Sampled) (ip : IpScan) : List IpAddr :=
  (if ip.wantV4 then sampled.seedsV4.map .v4 else []) ++
    (if ip.wantV6 then sampled.seedsV6.map .v6 else [])

def Sampled.pool (sampled : Sampled) (ip : IpScan) : List IpAddr :=
  (if ip.wantV4 then (interleave sampled.hostsV4).map .v4 else []) ++
    (if ip.wantV6 then (interleave sampled.hostsV6).map .v6 else [])

/-- The ports of a scan: there is one, and none is named twice. -/
structure ScanPorts where
  list : List UInt16
  distinct : list.Nodup
  some_ : 0 < list.length

def scanPorts (ports : List UInt16) : ScanPorts :=
  if none_ : ports.eraseDups = [] then
    { list := [2408]
      distinct := List.nodup_singleton 2408
      some_ := Nat.one_pos }
  else
    { list := ports.eraseDups
      distinct := FirstSeen.nodup_eraseDups ports
      some_ := List.length_pos_iff.mpr none_ }

/-- `ports[index % port_count]` -/
def ScanPorts.at (ports : ScanPorts) (index : Nat) : UInt16 :=
  ports.list.get ⟨index % ports.list.length, Nat.mod_lt index ports.some_⟩

abbrev Candidate := IpAddr × UInt16

def isExcluded (excluded : List SocketAddr) (candidate : Candidate) : Bool :=
  excluded.contains ⟨candidate.1, candidate.2⟩

def buildWgCandidates (strategy : WgStrategy) (ports : List UInt16) (ip : IpScan)
    (sampled : Sampled) (excluded : List SocketAddr) : List Candidate :=
  let ports := scanPorts ports
  let push := FirstSeen.push (isExcluded excluded)
  let out := (ports.list.take (max strategy.anchorPortCount 1)).foldl (fun out port =>
    (sampled.anchors ip).foldl (fun out anchor => push out (anchor, port)) out) []
  (List.range (max strategy.poolPortWaves 1)).foldl (fun out wave =>
    (sampled.pool ip).zipIdx.foldl
      (fun out entry => push out (entry.1, ports.at (entry.2 + wave))) out) out

/-- Every anchor on the first port, then on the second, and so on. -/
def anchorAttempts (anchors : List IpAddr) (ports : List UInt16) : List Candidate :=
  ports.flatMap fun port => anchors.map fun anchor => (anchor, port)

/-- One attempt for every place of the pool. -/
def waveAttempts (pool : List IpAddr) (ports : ScanPorts) (wave : Nat) : List Candidate :=
  pool.zipIdx.map fun entry => (entry.1, ports.at (entry.2 + wave))

def waves (pool : List IpAddr) (ports : ScanPorts) (count : Nat) : List (List Candidate) :=
  (List.range count).map (waveAttempts pool ports)

section Ports

variable {ports : ScanPorts} {index other : Nat}

theorem ScanPorts.at_mem (ports : ScanPorts) (index : Nat) : ports.at index ∈ ports.list :=
  List.get_mem ports.list _

theorem ScanPorts.at_eq_iff :
    ports.at index = ports.at other ↔ index % ports.list.length = other % ports.list.length := by
  rw [ScanPorts.at, ScanPorts.at, ports.distinct.get_inj_iff, Fin.mk.injEq]

theorem ScanPorts.at_injOn {place first second : Nat}
    (same : ports.at (place + first) = ports.at (place + second))
    (before : first < ports.list.length) (before' : second < ports.list.length) :
    first = second := by
  rw [ScanPorts.at_eq_iff] at same
  have apart := Nat.ModEq.add_left_cancel' place same
  rwa [Nat.ModEq, Nat.mod_eq_of_lt before, Nat.mod_eq_of_lt before'] at apart

/-- A port comes again after as many waves as there are ports, and not before. -/
theorem exists_earlier_iff {wave place : Nat} :
    (∃ earlier < wave, ports.at (place + earlier) = ports.at (place + wave)) ↔
      ports.list.length ≤ wave := by
  constructor
  · rintro ⟨earlier, before, same⟩
    by_contra short
    have equal := ports.at_injOn same (by omega) (by omega)
    omega
  · intro enough
    have positive := ports.some_
    refine ⟨wave - ports.list.length, by omega, ?_⟩
    rw [ScanPorts.at_eq_iff, ← Nat.add_mod_right (place + (wave - ports.list.length))]
    congr 1
    omega

end Ports

section Attempts

variable {anchors pool : List IpAddr} {ports : ScanPorts} {candidate : Candidate}
  {excluded : List SocketAddr}

theorem mem_anchorAttempts {first : List UInt16}
    (member : candidate ∈ anchorAttempts anchors first) :
    candidate.1 ∈ anchors := by
  obtain ⟨port, _, there⟩ := List.mem_flatMap.mp member
  obtain ⟨anchor, known, rfl⟩ := List.mem_map.mp there
  exact known

theorem mem_waveAttempts {wave : Nat} :
    candidate ∈ waveAttempts pool ports wave ↔
      ∃ place, pool[place]? = some candidate.1 ∧ candidate.2 = ports.at (place + wave) := by
  rw [waveAttempts, List.mem_map]
  constructor
  · rintro ⟨⟨address, place⟩, there, rfl⟩
    exact ⟨place, List.mem_zipIdx_iff_getElem?.mp there, rfl⟩
  · rintro ⟨place, there, same⟩
    refine ⟨(candidate.1, place), List.mem_zipIdx_iff_getElem?.mpr there, ?_⟩
    rw [← same]

theorem mem_waves {count : Nat} :
    candidate ∈ (waves pool ports count).flatten ↔
      ∃ wave < count, candidate ∈ waveAttempts pool ports wave := by
  rw [waves, List.mem_flatten]
  constructor
  · rintro ⟨list, member, there⟩
    obtain ⟨wave, before, rfl⟩ := List.mem_map.mp member
    exact ⟨wave, List.mem_range.mp before, there⟩
  · rintro ⟨wave, before, there⟩
    exact ⟨_, List.mem_map_of_mem (List.mem_range.mpr before), there⟩

theorem take_waves {wave count : Nat} (before : wave ≤ count) :
    (waves pool ports count).take wave = waves pool ports wave := by
  rw [waves, ← List.map_take, List.take_range, Nat.min_eq_left before]
  rfl

/-- The loops offer every anchor, and then every wave. -/
theorem buildWgCandidates_eq (strategy : WgStrategy) (ports : List UInt16) (ip : IpScan)
    (sampled : Sampled) (excluded : List SocketAddr) :
    buildWgCandidates strategy ports ip sampled excluded =
      pushAll (isExcluded excluded)
        (pushAll (isExcluded excluded) [] (anchorAttempts (sampled.anchors ip)
          ((scanPorts ports).list.take (max strategy.anchorPortCount 1))))
        (waves (sampled.pool ip) (scanPorts ports) (max strategy.poolPortWaves 1)).flatten := by
  rw [buildWgCandidates, pushAll, pushAll, anchorAttempts, List.foldl_flatMap, waves,
    List.foldl_flatten, List.foldl_map]
  simp only [waveAttempts, List.foldl_map]

end Attempts

section Address

variable {anchors pool : List IpAddr} {ports : ScanPorts} {first : List Candidate}
  {excluded : List SocketAddr} {address : IpAddr} {place wave : Nat}

/-- The address stands at one place of the pool, is no anchor, and none of its endpoints is
excluded. -/
structure Plain (anchors pool : List IpAddr) (ports : ScanPorts) (excluded : List SocketAddr)
    (address : IpAddr) (place : Nat) : Prop where
  here : pool[place]? = some address
  alone : ∀ other, pool[other]? = some address → other = place
  pooled : address ∉ anchors
  allowed : ∀ port ∈ ports.list, ⟨address, port⟩ ∉ excluded

private theorem Plain.mem_waveAttempts (plain : Plain anchors pool ports excluded address place)
    {port : UInt16} :
    (address, port) ∈ waveAttempts pool ports wave ↔ port = ports.at (place + wave) := by
  rw [WireGuard.mem_waveAttempts]
  constructor
  · rintro ⟨other, there, same⟩
    rw [plain.alone other there] at same
    exact same
  · intro same
    exact ⟨place, plain.here, same⟩

private theorem Plain.kept (plain : Plain anchors pool ports excluded address place) (index : Nat) :
    isExcluded excluded (address, ports.at index) = false := by
  rw [isExcluded, List.contains_eq_mem, decide_eq_false_iff_not]
  exact plain.allowed _ (ports.at_mem index)

/-- What a wave adds for such an address: its port for this wave, if not all have been used. -/
private theorem Plain.filter_fresh (plain : Plain anchors pool ports excluded address place)
    (anchored : ∀ candidate ∈ first, candidate.1 ∈ anchors) :
    (fresh (isExcluded excluded)
        (pushAll (isExcluded excluded) first (waves pool ports wave).flatten)
        (waveAttempts pool ports wave)).filter (fun candidate => candidate.1 = address) =
      if wave < ports.list.length then [(address, ports.at (place + wave))] else [] := by
  have member (candidate : Candidate) :
      candidate ∈ (fresh (isExcluded excluded)
        (pushAll (isExcluded excluded) first (waves pool ports wave).flatten)
        (waveAttempts pool ports wave)).filter (fun candidate => candidate.1 = address) ↔
        candidate = (address, ports.at (place + wave)) ∧ wave < ports.list.length := by
    obtain ⟨ip, port⟩ := candidate
    rw [List.mem_filter, mem_fresh, mem_pushAll, mem_waves, decide_eq_true_eq, Prod.mk.injEq]
    constructor
    · rintro ⟨⟨there, kept, new⟩, rfl⟩
      rw [plain.mem_waveAttempts] at there
      refine ⟨⟨rfl, there⟩, ?_⟩
      by_contra late
      obtain ⟨earlier, before, same⟩ := exists_earlier_iff.mpr (Nat.le_of_not_lt late)
      apply new
      refine Or.inr ⟨⟨earlier, before, ?_⟩, kept⟩
      rw [plain.mem_waveAttempts, there, same]
    · rintro ⟨⟨rfl, rfl⟩, early⟩
      refine ⟨⟨plain.mem_waveAttempts.mpr rfl, plain.kept _, ?_⟩, rfl⟩
      rintro (anchor | ⟨⟨earlier, before, there⟩, _⟩)
      · exact plain.pooled (anchored _ anchor)
      · rw [plain.mem_waveAttempts] at there
        have late := exists_earlier_iff.mp ⟨earlier, before, there.symm⟩
        omega
  by_cases early : wave < ports.list.length
  · rw [if_pos early, ← List.perm_singleton,
      List.perm_ext_iff_of_nodup (FirstSeen.nodup_fresh.filter _) (List.nodup_singleton _)]
    intro candidate
    rw [member, List.mem_singleton, and_iff_left early]
  · rw [if_neg early, List.eq_nil_iff_forall_not_mem]
    intro candidate there
    exact early ((member candidate).mp there).2

private theorem flatten_range_ite {Element : Type u} (item : Nat → Element) (count limit : Nat) :
    ((List.range count).map fun turn => if turn < limit then [item turn] else []).flatten =
      (List.range (min count limit)).map item := by
  induction count with
  | zero => rw [Nat.zero_min]; rfl
  | succ count ih =>
      rw [List.range_succ, List.map_append, List.flatten_append, ih, List.map_singleton,
        List.flatten_singleton]
      by_cases before : count < limit
      · rw [if_pos before, Nat.min_eq_left (Nat.le_of_lt before), Nat.min_eq_left before,
          List.range_succ, List.map_append, List.map_singleton]
      · rw [if_neg before, List.append_nil, Nat.min_eq_right (by omega),
          Nat.min_eq_right (by omega)]

private theorem freshRounds_getElem? {count : Nat} (before : wave < count) :
    (freshRounds (isExcluded excluded) first (waves pool ports count))[wave]? =
      some (fresh (isExcluded excluded) (first ++ ((freshRounds (isExcluded excluded) first
        (waves pool ports count)).take wave).flatten) (waveAttempts pool ports wave)) := by
  apply FirstSeen.getElem?_freshRounds
  rw [waves, List.getElem?_map, List.getElem?_range before]
  rfl

/-- What is in each wave for such an address. -/
private theorem Plain.turns (plain : Plain anchors pool ports excluded address place)
    (anchored : ∀ candidate ∈ first, candidate.1 ∈ anchors) {count : Nat} (before : wave < count) :
    (freshRounds (isExcluded excluded) first (waves pool ports count))[wave]?.map
        (List.filter fun candidate => candidate.1 = address) =
      some (if wave < ports.list.length then [(address, ports.at (place + wave))] else []) := by
  rw [freshRounds_getElem? before, Option.map_some, FirstSeen.take_freshRounds,
    take_waves (Nat.le_of_lt before), FirstSeen.append_freshRounds, plain.filter_fresh anchored]

/-- What is in all of them together. -/
private theorem Plain.tried (plain : Plain anchors pool ports excluded address place)
    (anchored : ∀ candidate ∈ first, candidate.1 ∈ anchors) (count : Nat) :
    (first ++ (freshRounds (isExcluded excluded) first (waves pool ports count)).flatten).filter
        (fun candidate => candidate.1 = address) =
      (List.range (min count ports.list.length)).map fun wave =>
        (address, ports.at (place + wave)) := by
  have none_ : first.filter (fun candidate => candidate.1 = address) = [] := by
    rw [List.filter_eq_nil_iff]
    intro candidate member same
    rw [decide_eq_true_eq] at same
    exact plain.pooled (same ▸ anchored candidate member)
  have each : (freshRounds (isExcluded excluded) first (waves pool ports count)).map
      (List.filter fun candidate => candidate.1 = address) =
        (List.range count).map fun wave =>
          if wave < ports.list.length then [(address, ports.at (place + wave))] else [] := by
    apply List.ext_getElem?
    intro wave
    rw [List.getElem?_map, List.getElem?_map]
    by_cases before : wave < count
    · rw [plain.turns anchored before, List.getElem?_range before]
      rfl
    · rw [List.getElem?_eq_none, List.getElem?_eq_none]
      · rfl
      · rw [List.length_range]
        exact Nat.le_of_not_lt before
      · rw [FirstSeen.length_freshRounds, waves, List.length_map, List.length_range]
        exact Nat.le_of_not_lt before
  rw [List.filter_append, none_, List.nil_append, List.filter_flatten, each,
    flatten_range_ite fun wave => (address, ports.at (place + wave))]

end Address

/-- The candidates are distinct and none is excluded. First come the anchors, port after port, then
the waves: each holds, in the order of the pool, its attempts that are neither excluded nor listed
before. An address that stands once in the pool, is no anchor and has no excluded endpoint is tried
once in each wave until its ports have all been tried, and on another port each time. -/
theorem buildWgCandidates_waves (strategy : WgStrategy) (portList : List UInt16) (ip : IpScan)
    (sampled : Sampled) (excluded : List SocketAddr) :
    let out := buildWgCandidates strategy portList ip sampled excluded
    let anchors := sampled.anchors ip
    let pool := sampled.pool ip
    let ports := scanPorts portList
    let count := max strategy.poolPortWaves 1
    out.Nodup ∧ (∀ candidate ∈ out, ⟨candidate.1, candidate.2⟩ ∉ excluded) ∧
    ∃ (first : List Candidate) (rounds : List (List Candidate)),
      out = first ++ rounds.flatten ∧
      first = fresh (isExcluded excluded) []
        (anchorAttempts anchors (ports.list.take (max strategy.anchorPortCount 1))) ∧
      rounds.length = count ∧
      (∀ wave < count, rounds[wave]? = some (fresh (isExcluded excluded)
        (first ++ (rounds.take wave).flatten) (waveAttempts pool ports wave))) ∧
      ∀ address place, Plain anchors pool ports excluded address place →
        (∀ wave < count,
          rounds[wave]?.map (List.filter fun candidate => candidate.1 = address) =
            some (if wave < ports.list.length then
              [(address, ports.at (place + wave))] else [])) ∧
        (out.filter fun candidate => candidate.1 = address) =
          (List.range (min count ports.list.length)).map
            (fun wave => (address, ports.at (place + wave))) ∧
        ((List.range (min count ports.list.length)).map
          fun wave => ports.at (place + wave)).Nodup := by
  intro out anchors pool ports count
  have whole : out = pushAll (isExcluded excluded)
      (pushAll (isExcluded excluded) [] (anchorAttempts anchors
        (ports.list.take (max strategy.anchorPortCount 1))))
      (waves pool ports count).flatten :=
    buildWgCandidates_eq strategy portList ip sampled excluded
  rw [pushAll_eq [], List.nil_append] at whole
  have anchored : ∀ candidate ∈ fresh (isExcluded excluded) []
      (anchorAttempts anchors (ports.list.take (max strategy.anchorPortCount 1))),
        candidate.1 ∈ anchors :=
    fun candidate member => mem_anchorAttempts (mem_fresh.mp member).1
  have rounds := whole
  rw [← FirstSeen.append_freshRounds] at rounds
  refine ⟨?_, ?_, _, _, rounds, rfl, ?_, fun wave before => freshRounds_getElem? before, ?_⟩
  · rw [whole]
    exact FirstSeen.nodup_pushAll FirstSeen.nodup_fresh
  · intro candidate member
    rw [whole, mem_pushAll, mem_fresh] at member
    have kept : isExcluded excluded candidate = false := by
      rcases member with ⟨_, kept, _⟩ | ⟨_, kept⟩
      · exact kept
      · exact kept
    rw [isExcluded, List.contains_eq_mem, decide_eq_false_iff_not] at kept
    exact kept
  · rw [FirstSeen.length_freshRounds, waves, List.length_map, List.length_range]
  · intro address place plain
    refine ⟨fun wave before => plain.turns anchored before, ?_, ?_⟩
    · rw [rounds]
      exact plain.tried anchored count
    · apply List.Nodup.map_on _ List.nodup_range
      intro earlier before later before' same
      rw [List.mem_range] at before before'
      exact ports.at_injOn same (by omega) (by omega)

def scannedAddress : IpAddr := .v4 ⟨188, 114, 96, 7⟩

/-- The one endpoint of an address is excluded: the address is not tried. -/
theorem excluded_not_tried :
    ¬ ∀ (strategy : WgStrategy) (portList : List UInt16) (ip : IpScan) (sampled : Sampled)
        (excluded : List SocketAddr), ∀ address ∈ sampled.pool ip, address ∉ sampled.anchors ip →
      (((buildWgCandidates strategy portList ip sampled excluded).filter
        fun candidate => candidate.1 = address).map Prod.snd).eraseDups.length =
          min strategy.poolPortWaves (scanPorts portList).list.length := by
  intro always
  have tried := always ⟨1, 1⟩ [2408] .v4 ⟨[], [[⟨188, 114, 96, 7⟩]], [], []⟩
    [⟨scannedAddress, 2408⟩] scannedAddress (by decide) (by decide)
  revert tried
  decide

end MolidoVpn.WireGuard
