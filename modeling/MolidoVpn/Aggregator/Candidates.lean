import Mathlib.Algebra.Order.Field.Rat
import Mathlib.Logic.Function.Basic
import MolidoVpn.Lib.RoundRobin

/-!
Which nodes a run tests: a share is reserved for the preferred countries, and the rest of the budget
is split between nodes that have worked before and nodes that never have.
-/

namespace MolidoVpn.Scanner

open RoundRobin (groupBy rounds)

/-- A node with its identity. Of the outbound there are the server and the type. -/
structure Node where
  id : Nat
  uri : List Char
  server : List Char
  kind : List Char
  source : List Char
  latency : Rat
  country : List Char
  hint : List Char
  firstSeen : Int
  lastOk : Int
  deriving DecidableEq

structure TestSettings where
  maxRealTest : Nat
  preferredTestMax : Nat
  preferredCountries : List (List Char)
  distinct : preferredCountries.Nodup

def maxPerServer : Nat := 3

section Source

/-- The nodes that the loop over `per_server` keeps. -/
def capped : (List Char → Nat) → List Node → List Node
  | _, [] => []
  | perServer, n :: rest =>
      if perServer n.server < maxPerServer then
        n :: capped (Function.update perServer n.server (perServer n.server + 1)) rest
      else capped perServer rest

def diversify (nodes : List Node) : List Node :=
  rounds ((groupBy Node.source (capped (fun _ => 0) nodes)).map Prod.snd)

variable (settings : TestSettings) (nodes : List Node)

def reserved : List Node :=
  let pref := diversify (nodes.filter fun n => n.hint ∈ settings.preferredCountries)
  (rounds (settings.preferredCountries.map fun c => pref.filter fun n => n.hint = c)).take
    settings.preferredTestMax

/-- The nodes that are not reserved. -/
def others : List Node :=
  nodes.filter fun n => n.id ∉ (reserved settings nodes).map Node.id

def budget : Nat := settings.maxRealTest - (reserved settings nodes).length

def unknown : List Node := (diversify (others settings nodes)).filter fun n => n.lastOk = 0

def known : List Node := (diversify (others settings nodes)).filter fun n => n.lastOk ≠ 0

def takeUnknown : Nat :=
  min (unknown settings nodes).length
    (max (budget settings nodes / 2) (budget settings nodes - (known settings nodes).length))

def fill : List Node :=
  (unknown settings nodes).take (takeUnknown settings nodes) ++
    (known settings nodes).take (budget settings nodes - takeUnknown settings nodes)

def pickCandidates : List Node := reserved settings nodes ++ fill settings nodes

end Source

section Capped

def ofServer (server : List Char) (nodes : List Node) : List Node :=
  nodes.filter fun n => n.server = server

theorem ofServer_cons (server : List Char) (n : Node) (rest : List Node) :
    ofServer server (n :: rest) =
      if n.server = server then n :: ofServer server rest else ofServer server rest := by
  unfold ofServer
  rw [List.filter_cons]
  exact if_congr decide_eq_true_iff rfl rfl

theorem capped_sublist (perServer : List Char → Nat) (nodes : List Node) :
    (capped perServer nodes).Sublist nodes := by
  induction nodes generalizing perServer with
  | nil => exact List.Sublist.refl []
  | cons n rest ih =>
      rw [capped]
      split
      · exact (ih _).cons_cons n
      · exact (ih _).cons n

/-- Of every server the first ones, as many as the cap lets through. -/
theorem ofServer_capped (perServer : List Char → Nat) (nodes : List Node) (server : List Char) :
    ofServer server (capped perServer nodes) =
      (ofServer server nodes).take (maxPerServer - perServer server) := by
  induction nodes generalizing perServer with
  | nil => exact List.take_nil.symm
  | cons n rest ih =>
      rw [capped, ofServer_cons]
      by_cases same : n.server = server
      · subst same
        rw [if_pos rfl]
        split
        · rename_i room
          have one : maxPerServer - perServer n.server =
              maxPerServer - (perServer n.server + 1) + 1 := by omega
          rw [ofServer_cons, if_pos rfl, ih, Function.update_self, one, List.take_succ_cons]
        · rename_i full
          have none_ : maxPerServer - perServer n.server = 0 := by omega
          rw [ih, none_, List.take_zero, List.take_zero]
      · rw [if_neg same]
        split
        · rw [ofServer_cons, if_neg same, ih, Function.update_of_ne (Ne.symm same)]
        · exact ih perServer

theorem diversify_perm (nodes : List Node) :
    (diversify nodes).Perm (capped (fun _ => 0) nodes) :=
  RoundRobin.rounds_groupBy_perm Node.source _

theorem diversify_subperm (nodes : List Node) : (diversify nodes).Subperm nodes :=
  (diversify_perm nodes).subperm.trans (capped_sublist _ nodes).subperm

theorem ofServer_diversify (nodes : List Node) (server : List Char) :
    (ofServer server (diversify nodes)).Perm ((ofServer server nodes).take maxPerServer) := by
  rw [← Nat.sub_zero maxPerServer, ← ofServer_capped (fun _ => 0)]
  exact (diversify_perm nodes).filter _

theorem length_ofServer_le {part nodes : List Node} (among : part.Subperm (diversify nodes))
    (server : List Char) : (ofServer server part).length ≤ maxPerServer := by
  have fewer : (ofServer server part).Subperm (ofServer server (diversify nodes)) := among.filter _
  have most := (ofServer_diversify nodes server).length_eq
  rw [List.length_take] at most
  have least := fewer.length_le
  omega

theorem nodup_of_subperm {part nodes : List Node} (among : part.Subperm nodes)
    (objects : (nodes.map Node.id).Nodup) : (part.map Node.id).Nodup := by
  obtain ⟨ordered, same, within⟩ := among
  exact (same.map Node.id).nodup_iff.mp (objects.sublist (within.map Node.id))

end Capped

section Picked

variable {settings : TestSettings} {nodes : List Node}

/-- The reserved nodes are of the preferred countries. -/
theorem reserved_subperm :
    (reserved settings nodes).Subperm
      (diversify (nodes.filter fun n => n.hint ∈ settings.preferredCountries)) := by
  unfold reserved
  dsimp only
  exact (List.take_sublist _ _).subperm.trans
    ((RoundRobin.rounds_keys_perm settings.distinct _).subperm.trans List.filter_sublist.subperm)

/-- Who is left for the rest, by whether a run has seen it work. -/
theorem unknown_known_perm :
    (unknown settings nodes ++ known settings nodes).Perm (diversify (others settings nodes)) := by
  have split := List.filter_append_perm (fun n : Node => n.lastOk = 0)
    (diversify (others settings nodes))
  have opposite : (diversify (others settings nodes)).filter (fun n => !decide (n.lastOk = 0)) =
      known settings nodes :=
    List.filter_congr fun n _ => decide_not.symm
  rw [opposite] at split
  exact split

theorem fill_subperm : (fill settings nodes).Subperm (diversify (others settings nodes)) :=
  ((List.take_sublist _ _).append (List.take_sublist _ _)).subperm.trans
    unknown_known_perm.subperm

theorem length_fill :
    (fill settings nodes).length =
      min (budget settings nodes) (diversify (others settings nodes)).length := by
  have all : (unknown settings nodes ++ known settings nodes).length =
      (diversify (others settings nodes)).length := unknown_known_perm.length_eq
  rw [List.length_append] at all
  rw [fill, List.length_append, List.length_take, List.length_take, ← all, takeUnknown]
  omega

/-- Of the nodes that no run has seen working, as many as half of the budget holds. -/
theorem unseen_fill :
    min (budget settings nodes / 2) (unknown settings nodes).length ≤
      (fill settings nodes).countP fun n => n.lastOk = 0 := by
  have every : ((unknown settings nodes).take (takeUnknown settings nodes)).countP
      (fun n => n.lastOk = 0) = ((unknown settings nodes).take (takeUnknown settings nodes)).length := by
    rw [List.countP_eq_length]
    intro n there
    exact (List.mem_filter.mp (List.mem_of_mem_take there)).2
  rw [fill, List.countP_append, every, List.length_take, takeUnknown]
  omega

/-- How the budget that the reserved nodes leave is filled. Available are the first few nodes of
every server. -/
structure Filled (settings : TestSettings) (nodes kept rest available : List Node) : Prop where
  open_ : ∀ server, (ofServer server available).Perm
    ((ofServer server (nodes.filter fun n => n.id ∉ kept.map Node.id)).take maxPerServer)
  among : rest.Subperm available
  length : rest.length = min (settings.maxRealTest - kept.length) available.length
  unseen : min ((settings.maxRealTest - kept.length) / 2) (available.countP fun n => n.lastOk = 0) ≤
    rest.countP fun n => n.lastOk = 0

/-- What a selection for the test is, with a cap for each of its two groups. -/
structure Picked (settings : TestSettings) (nodes picked : List Node) : Prop where
  distinct : (picked.map Node.id).Nodup
  among : ∀ n ∈ picked, n ∈ nodes
  groups : ∃ kept rest available, picked = kept ++ rest ∧
    kept.length ≤ settings.preferredTestMax ∧
    (∀ n ∈ kept, n.hint ∈ settings.preferredCountries) ∧
    picked.length ≤ max settings.maxRealTest kept.length ∧
    (∀ server, (ofServer server kept).length ≤ maxPerServer ∧
      (ofServer server rest).length ≤ maxPerServer) ∧
    Filled settings nodes kept rest available

theorem filled_fill (settings : TestSettings) (nodes : List Node) :
    Filled settings nodes (reserved settings nodes) (fill settings nodes)
      (diversify (others settings nodes)) where
  open_ := ofServer_diversify _
  among := fill_subperm
  length := length_fill
  unseen := by
    rw [List.countP_eq_length_filter]
    exact unseen_fill

theorem pickCandidates_picked (settings : TestSettings) {nodes : List Node}
    (objects : (nodes.map Node.id).Nodup) :
    Picked settings nodes (pickCandidates settings nodes) := by
  have keptAmong : (reserved settings nodes).Subperm nodes :=
    reserved_subperm.trans ((diversify_subperm _).trans List.filter_sublist.subperm)
  have restAmong : (fill settings nodes).Subperm (others settings nodes) :=
    fill_subperm.trans (diversify_subperm _)
  have size : (fill settings nodes).length ≤ budget settings nodes := by
    rw [length_fill]
    exact Nat.min_le_left _ _
  constructor
  · rw [pickCandidates, List.map_append, List.nodup_append]
    refine ⟨nodup_of_subperm keptAmong objects, ?_, ?_⟩
    · exact nodup_of_subperm (restAmong.trans List.filter_sublist.subperm) objects
    · intro first here second there same
      obtain ⟨n, inside, rfl⟩ := List.mem_map.mp there
      have apart := (List.mem_filter.mp (restAmong.subset inside)).2
      exact of_decide_eq_true apart (same ▸ here)
  · intro n member
    rcases List.mem_append.mp member with here | there
    · exact keptAmong.subset here
    · exact (List.mem_filter.mp (restAmong.subset there)).1
  · refine ⟨reserved settings nodes, fill settings nodes, _, rfl, ?_, ?_, ?_, ?_,
      filled_fill settings nodes⟩
    · exact List.length_take_le _ _
    · intro n member
      have preferred := (diversify_subperm _).subset (reserved_subperm.subset member)
      exact of_decide_eq_true (List.mem_filter.mp preferred).2
    · rw [pickCandidates, List.length_append]
      unfold budget at size
      omega
    · intro server
      exact ⟨length_ofServer_le reserved_subperm server, length_ofServer_le fill_subperm server⟩

/-- A node of one server and one source. -/
def sample (id : Nat) (hint : String) (lastOk : Int) : Node :=
  { id := id
    uri := []
    server := "1.2.3.4".toList
    kind := "vless".toList
    source := []
    latency := 0
    country := []
    hint := hint.toList
    firstSeen := 0
    lastOk := lastOk }

def testing (maxRealTest : Nat) : TestSettings :=
  { maxRealTest := maxRealTest
    preferredTestMax := 1500
    preferredCountries := ["TR", "AE", "AM", "DE", "NL"].map String.toList
    distinct := by decide }

def crowd : List Node :=
  [sample 0 "DE" 0, sample 1 "DE" 0, sample 2 "DE" 0, sample 3 "US" 0, sample 4 "US" 0,
    sample 5 "US" 0]

theorem pickCandidates_picked_crowd : (crowd.map Node.id).Nodup ∧
    Picked (testing 6000) crowd (pickCandidates (testing 6000) crowd) := by
  have objects : (crowd.map Node.id).Nodup := by decide
  exact ⟨objects, pickCandidates_picked (testing 6000) objects⟩

/-- Six nodes of one server, and no node that was never seen in a budget of one. -/
theorem not_picked_as_told :
    (ofServer "1.2.3.4".toList (pickCandidates (testing 6000) crowd)).length = 6 ∧
      maxPerServer < 6 ∧
      (pickCandidates (testing 1) [sample 0 "US" 0, sample 1 "US" 9]).map Node.lastOk = [9] := by
  decide +kernel

end Picked

end MolidoVpn.Scanner
