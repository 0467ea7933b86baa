import MolidoVpn.Lib.Channel
import MolidoVpn.Lib.Transition
import MolidoVpn.Masque.Drain
import MolidoVpn.Netstack.Stack

/-!
The way of an assigned address: `drain_capsules` offers it to the address
channel, a task of `main.rs` turns it into a `set_addrs` command, and the
user-space stack configures its interface. What one ADDRESS_ASSIGN leaves on
the interface when all three are done.
-/

namespace MolidoVpn

inductive Family where
  | v4
  | v6
  deriving DecidableEq

def IpAddr.family : IpAddr → Family
  | .v4 _ => .v4
  | .v6 _ => .v6

end MolidoVpn

namespace MolidoVpn.Netstack

/-- What a command changes of the interface. -/
def Cmd.configure (iface : Iface) : Cmd → Iface
  | .setAddrs v4 v6 => applyAddrs iface v4 v6
  | _ => iface

def Iface.ofFamily (iface : Iface) (family : Family) : List IpCidr :=
  iface.addrs.filter fun cidr => cidr.address.family = family

end MolidoVpn.Netstack

namespace MolidoVpn.Masque

open Netstack (Cmd Iface IpCidr applyAddrs)
open Transition (Run ofNext run_of_execute)

/-- The addresses on their way to the interface. -/
structure AddrPipe where
  /-- Those that the loop of `drain_capsules` has still to offer. -/
  offers : List AssignedAddr
  addrRx : Channel AssignedAddr
  commands : List Cmd
  iface : Iface

inductive PipeStep where
  | offer
  | forward
  | apply
  deriving DecidableEq

/-- The command that an address is forwarded as. -/
def setAddrs (a : AssignedAddr) : Cmd :=
  match a.ip with
  | .v4 v4 => .setAddrs (some (v4, a.prefixLen)) none
  | .v6 v6 => .setAddrs none (some (v6, a.prefixLen))

namespace AddrPipe

def addrQueue : Nat := 8

def start (offers : List AssignedAddr) (iface : Iface) : AddrPipe :=
  { offers := offers, addrRx := Channel.empty _ addrQueue, commands := [], iface := iface }

/-- An address that finds the channel full is dropped. -/
def step (s : AddrPipe) : PipeStep → Option AddrPipe
  | .offer =>
      match s.offers with
      | [] => none
      | a :: rest => some { s with offers := rest, addrRx := (s.addrRx.trySend a).getD s.addrRx }
  | .forward =>
      match s.addrRx.receive with
      | none => none
      | some (a, addrRx) =>
          some { s with addrRx := addrRx, commands := s.commands ++ [setAddrs a] }
  | .apply =>
      match s.commands with
      | [] => none
      | cmd :: commands => some { s with commands := commands, iface := cmd.configure s.iface }

/-- Nothing is under way any more. -/
def Done (s : AddrPipe) : Prop := s.offers = [] ∧ s.addrRx.queue = [] ∧ s.commands = []

end AddrPipe

/-- The interface after one address, and after several. -/
def assign (iface : Iface) (a : AssignedAddr) : Iface := (setAddrs a).configure iface

def assignAll (iface : Iface) (assigned : List AssignedAddr) : Iface := assigned.foldl assign iface

/-- Every family that was assigned has an assigned address; the others have what they had. -/
structure Configured (assigned : List AssignedAddr) (before after : Iface) : Prop where
  present : ∀ a ∈ assigned, ∃ b ∈ assigned, b.ip.family = a.ip.family ∧
    ∃ cidr ∈ after.addrs, cidr.address = b.ip
  kept : ∀ family, (∀ a ∈ assigned, a.ip.family ≠ family) →
    after.ofFamily family = before.ofFamily family

/-- Only one family is assigned, and the interface has no address of the other. -/
def OneFamily (assigned : List AssignedAddr) (before : Iface) : Prop :=
  assigned = [] ∨ ∃ family, (∀ a ∈ assigned, a.ip.family = family) ∧
    ∀ cidr ∈ before.addrs, cidr.address.family = family

private theorem assign_addrs (iface : Iface) (a : AssignedAddr) :
    ∃ cidr, (assign iface a).addrs = [cidr] ∧ cidr.address = a.ip := by
  unfold assign setAddrs
  cases address : a.ip with
  | v4 ip => exact ⟨_, rfl, rfl⟩
  | v6 ip => exact ⟨_, rfl, rfl⟩

/-- Each address replaces all that was there: the last one is alone. -/
private theorem assignAll_addrs {iface : Iface} {assigned : List AssignedAddr}
    (some_ : assigned ≠ []) :
    ∃ cidr, (assignAll iface assigned).addrs = [cidr] ∧ ∃ a ∈ assigned, cidr.address = a.ip := by
  induction assigned using List.reverseRecOn with
  | nil => exact absurd rfl some_
  | append_singleton before last _ =>
      obtain ⟨cidr, alone, address⟩ := assign_addrs (assignAll iface before) last
      refine ⟨cidr, ?_, last, List.mem_append_right _ List.mem_cons_self, address⟩
      rw [assignAll, List.foldl_append]
      exact alone

section Pipe

variable {assigned : List AssignedAddr} {before : Iface} {s s' : AddrPipe}

/-- What passed the channel is part of what was offered, and not nothing. -/
structure Passing (assigned : List AssignedAddr) (before : Iface) (s : AddrPipe) : Prop where
  passed : ∃ offered applied waiting, assigned = offered ++ s.offers ∧
    s.commands = waiting.map setAddrs ∧ s.iface = assignAll before applied ∧
    (applied ++ waiting ++ s.addrRx.queue).Sublist offered ∧
    (offered ≠ [] → applied ++ waiting ++ s.addrRx.queue ≠ [])
  alive : s.addrRx.receiverAlive = true
  capacity : s.addrRx.capacity = AddrPipe.addrQueue

private theorem start_passing (assigned : List AssignedAddr) (before : Iface) :
    Passing assigned before (AddrPipe.start assigned before) := by
  constructor
  · exact ⟨[], [], [], rfl, rfl, rfl, List.Sublist.refl [], fun impossible => absurd rfl impossible⟩
  · rfl
  · rfl

private theorem trySend_cases {channel : Channel AssignedAddr} (alive : channel.receiverAlive = true)
    (capacity : channel.capacity = AddrPipe.addrQueue) (a : AssignedAddr) :
    let after := (channel.trySend a).getD channel
    after.receiverAlive = true ∧ after.capacity = AddrPipe.addrQueue ∧
      (after.queue = channel.queue ++ [a] ∨ after.queue = channel.queue ∧ channel.queue ≠ []) := by
  unfold Channel.trySend
  split
  · exact ⟨alive, capacity, Or.inl rfl⟩
  · rename_i full
    refine ⟨alive, capacity, Or.inr ⟨rfl, ?_⟩⟩
    intro empty
    apply full
    rw [Channel.hasRoom, alive, capacity, empty]
    rfl

private theorem receive_some {channel rest : Channel AssignedAddr} {a : AssignedAddr}
    (received : channel.receive = some (a, rest)) :
    channel.queue = a :: rest.queue ∧ rest.receiverAlive = channel.receiverAlive ∧
      rest.capacity = channel.capacity := by
  unfold Channel.receive at received
  split at received
  · cases received
  · rename_i held
    cases received
    exact ⟨held, rfl, rfl⟩

private theorem step_passing {event : PipeStep} (taken : s.step event = some s')
    (passing : Passing assigned before s) : Passing assigned before s' := by
  obtain ⟨⟨offered, applied, waiting, split, commands, iface, part, present⟩, alive, capacity⟩ :=
    passing
  cases event with
  | offer =>
      simp only [AddrPipe.step] at taken
      cases offers : s.offers with
      | nil =>
          rw [offers] at taken
          cases taken
      | cons a rest =>
          rw [offers] at taken
          cases taken
          obtain ⟨alive', capacity', queued⟩ := trySend_cases alive capacity a
          refine ⟨⟨offered ++ [a], applied, waiting, ?_, commands, iface, ?_, fun _ => ?_⟩, alive',
            capacity'⟩
          · rw [split, offers, List.append_assoc]
            rfl
          · rcases queued with sent | ⟨full, _⟩
            · rw [sent, ← List.append_assoc]
              exact part.append (List.Sublist.refl [a])
            · rw [full]
              exact part.trans (List.sublist_append_left offered [a])
          · rcases queued with sent | ⟨full, held⟩
            · rw [sent, ← List.append_assoc]
              exact List.append_ne_nil_of_right_ne_nil _ (List.cons_ne_nil a [])
            · rw [full]
              exact List.append_ne_nil_of_right_ne_nil _ held
  | forward =>
      simp only [AddrPipe.step] at taken
      cases received : s.addrRx.receive with
      | none =>
          rw [received] at taken
          cases taken
      | some front =>
          obtain ⟨a, rest⟩ := front
          rw [received] at taken
          cases taken
          obtain ⟨queue, alive', capacity'⟩ := receive_some received
          have moved : applied ++ (waiting ++ [a]) ++ rest.queue =
              applied ++ waiting ++ s.addrRx.queue := by
            rw [queue]
            simp only [List.append_assoc, List.singleton_append]
          refine ⟨⟨offered, applied, waiting ++ [a], split, ?_, iface, ?_, ?_⟩,
            alive'.trans alive, capacity'.trans capacity⟩
          · rw [commands, List.map_append]
            rfl
          · rw [moved]
            exact part
          · rw [moved]
            exact present
  | apply =>
      simp only [AddrPipe.step] at taken
      cases waiting with
      | nil =>
          rw [commands] at taken
          cases taken
      | cons a waiting =>
          rw [commands] at taken
          cases taken
          have moved : applied ++ [a] ++ waiting ++ s.addrRx.queue =
              applied ++ a :: waiting ++ s.addrRx.queue := by
            simp only [List.append_assoc, List.cons_append, List.nil_append]
          refine ⟨⟨offered, applied ++ [a], waiting, split, rfl, ?_, ?_, ?_⟩, alive, capacity⟩
          · simp only [iface, assignAll, List.foldl_append, List.foldl_cons, List.foldl_nil]
            rfl
          · rw [moved]
            exact part
          · rw [moved]
            exact present

/-- When all is done, some of the addresses, in order, were applied: at least one of them. -/
theorem applied_of_done {events : List PipeStep}
    (run : Run (ofNext AddrPipe.step) (AddrPipe.start assigned before) events s) (done : s.Done) :
    ∃ applied, applied.Sublist assigned ∧ (assigned ≠ [] → applied ≠ []) ∧
      s.iface = assignAll before applied := by
  have passing : Passing assigned before s :=
    run.invariant (Passing assigned before) (fun _ _ _ taken passing => step_passing taken passing)
      (start_passing assigned before)
  obtain ⟨offered, applied, waiting, split, commands, iface, part, present⟩ := passing.passed
  obtain ⟨noOffers, noQueue, noCommands⟩ := done
  rw [noOffers, List.append_nil] at split
  rw [noCommands] at commands
  have noneWaiting : waiting = [] := List.map_eq_nil_iff.mp commands.symm
  rw [noneWaiting, noQueue, List.append_nil, List.append_nil] at part present
  rw [split]
  exact ⟨applied, part, present, iface⟩

end Pipe

private theorem configured_of_nil {before : Iface} : Configured [] before before :=
  ⟨fun _ none_ => absurd none_ List.not_mem_nil, fun _ _ => rfl⟩

/-- With a single address on it, the interface is right exactly for one family. -/
private theorem configured_iff {assigned : List AssignedAddr} {before after : Iface} {cidr : IpCidr}
    {last : AssignedAddr} (alone : after.addrs = [cidr]) (member : last ∈ assigned)
    (address : cidr.address = last.ip) :
    Configured assigned before after ↔ OneFamily assigned before := by
  have only {other : IpCidr} (there : other ∈ after.addrs) : other = cidr := by
    rw [alone] at there
    exact List.mem_singleton.mp there
  constructor
  · intro configured
    refine Or.inr ⟨last.ip.family, ?_, ?_⟩
    · intro a there
      obtain ⟨b, _, family, found, isThere, same⟩ := configured.present a there
      rw [only isThere, address] at same
      rw [← family, same]
    · intro other there
      by_contra different
      have unassigned : ∀ a ∈ assigned, a.ip.family ≠ other.address.family := by
        intro a assignedToo same
        obtain ⟨b, _, family, found, isThere, same'⟩ := configured.present a assignedToo
        rw [only isThere, address] at same'
        apply different
        rw [← same, ← family, same']
      have kept := configured.kept other.address.family unassigned
      have lost : other ∈ after.ofFamily other.address.family := by
        rw [kept]
        exact List.mem_filter.mpr ⟨there, decide_eq_true rfl⟩
      rw [only (List.mem_of_mem_filter lost)] at different
      exact different (congrArg IpAddr.family address)
  · rintro (empty | ⟨family, assignedFamily, beforeFamily⟩)
    · rw [empty] at member
      cases member
    · constructor
      · intro a there
        refine ⟨last, member, ?_, cidr, by rw [alone]; exact List.mem_cons_self, address⟩
        rw [assignedFamily last member, assignedFamily a there]
      · intro other unassigned
        have different : ∀ {addrs : List IpCidr}, (∀ cidr ∈ addrs, cidr.address.family = family) →
            (addrs.filter fun cidr => cidr.address.family = other) = [] := by
          intro addrs same
          apply List.filter_eq_nil_iff.mpr
          intro cidr there
          rw [same cidr there, decide_eq_true_eq, ← assignedFamily last member]
          exact unassigned last member
        rw [Iface.ofFamily, Iface.ofFamily, different beforeFamily]
        apply different
        intro there isThere
        rw [only isThere, address]
        exact assignedFamily last member

private theorem H2.drainFor_nil (turns : Nat) (send : Nat → SendResult) :
    H2.drainFor turns send { buf := [] } = .idle { buf := [] } := by
  cases turns with
  | zero => rfl
  | succ turns => rw [H2.drainFor, CapsuleParser.next_eq, Framing.Splitter.next_nil]

private theorem H3.drainFor_nil (turns : Nat) :
    H3.drainFor turns { buf := [] } = .idle { buf := [] } := by
  cases turns with
  | zero => rfl
  | succ turns => rw [H3.drainFor, CapsuleParser.next_eq, Framing.Splitter.next_nil]

/-- The addresses that `drain_capsules` offers for an ADDRESS_ASSIGN, over either transport. -/
theorem drain_addressAssign {payload bytes : List UInt8} {entries : List AssignedAddress}
    (parsed : parseAddressAssign payload = .ok entries)
    (encoded : encodeCapsule capsuleAddressAssign payload = some bytes) :
    (H3.drainCapsules { buf := bytes }).addrs = assignedAddrs entries ∧
      ∀ send, (H2.drainCapsules send { buf := bytes }).addrs = assignedAddrs entries := by
  have decoded : decodeCapsule capsuleAddressAssign payload = .ok (.addressAssign entries) := by
    rw [decodeCapsule, if_pos rfl, parsed]
    rfl
  have taken : frames.next (bytes ++ []) = some ((capsuleAddressAssign, payload), []) :=
    nextFrame_encodeCapsule encoded []
  rw [List.append_nil] at taken
  have next : CapsuleParser.next { buf := bytes } =
      (.ok (some (.addressAssign entries)), { buf := [] }) := by
    rw [CapsuleParser.next_eq, taken]
    simp only [decoded]
    rfl
  have nonempty := frames.advances bytes _ [] taken
  cases length : bytes.length with
  | zero => omega
  | succ turns =>
      constructor
      · rw [H3.drainCapsules]
        simp only [length, H3.drainFor, next, H3.drainFor_nil, Drained.assign]
        exact List.append_nil _
      · intro send
        rw [H2.drainCapsules]
        simp only [length, H2.drainFor, next, H2.drainFor_nil, Drained.assign]
        exact List.append_nil _

/-- However the three parts interleave, an ADDRESS_ASSIGN leaves what it should exactly when it
assigns one family only and the interface had no address of the other. -/
theorem addresses_configured {payload bytes : List UInt8} {entries : List AssignedAddress}
    (parsed : parseAddressAssign payload = .ok entries)
    (encoded : encodeCapsule capsuleAddressAssign payload = some bytes) {send : Nat → SendResult}
    {before : Iface} {drained : Drained}
    (transport : drained = H3.drainCapsules { buf := bytes } ∨
      drained = H2.drainCapsules send { buf := bytes })
    {events : List PipeStep} {s : AddrPipe}
    (run : Run (ofNext AddrPipe.step) (AddrPipe.start drained.addrs before) events s)
    (done : s.Done) :
    Configured (assignedAddrs entries) before s.iface ↔
      OneFamily (assignedAddrs entries) before := by
  obtain ⟨overH3, overH2⟩ := drain_addressAssign parsed encoded
  have offered : drained.addrs = assignedAddrs entries := by
    rcases transport with rfl | rfl
    · exact overH3
    · exact overH2 send
  rw [offered] at run
  obtain ⟨applied, part, present, iface⟩ := applied_of_done run done
  rw [iface]
  by_cases none_ : assignedAddrs entries = []
  · rw [none_] at part ⊢
    rw [List.sublist_nil.mp part]
    exact ⟨fun _ => Or.inl rfl, fun _ => configured_of_nil⟩
  · obtain ⟨cidr, alone, last, member, address⟩ := @assignAll_addrs before applied (present none_)
    exact configured_iff alone (part.subset member) address

def sampleV4 : IpAddr := .v4 ⟨10, 0, 0, 2⟩

def sampleV6 : IpAddr := .v6 ⟨List.replicate 15 0 ++ [2], rfl⟩

/-- An interface with an IPv4 address is assigned another one. -/
theorem addresses_configured_v4 :
    ∃ s, Run (ofNext AddrPipe.step)
        (AddrPipe.start [⟨sampleV4, 32⟩] ⟨[⟨.v4 ⟨10, 0, 0, 1⟩, 24⟩], none, none⟩)
        [.offer, .forward, .apply] s ∧
      Configured [⟨sampleV4, 32⟩] ⟨[⟨.v4 ⟨10, 0, 0, 1⟩, 24⟩], none, none⟩ s.iface := by
  have run : Run (ofNext AddrPipe.step)
      (AddrPipe.start (H3.drainCapsules { buf := [1, 7, 0, 4, 10, 0, 0, 2, 32] }).addrs
        ⟨[⟨.v4 ⟨10, 0, 0, 1⟩, 24⟩], none, none⟩) [.offer, .forward, .apply] _ := run_of_execute rfl
  refine ⟨_, run, ?_⟩
  have parsed : parseAddressAssign [0, 4, 10, 0, 0, 2, 32] = .ok [⟨0, 4, [10, 0, 0, 2], 32⟩] := rfl
  have exact_ := @addresses_configured _ _ _ parsed rfl (fun _ => .sent) _ _ (Or.inl rfl) _ _ run
    ⟨rfl, rfl, rfl⟩
  exact exact_.mpr (Or.inr ⟨.v4, by decide, by decide⟩)

/-- An ADDRESS_ASSIGN with an address of each family leaves the second alone. -/
theorem second_family_alone :
    ¬∀ (payload bytes : List UInt8) (entries : List AssignedAddress) (before : Iface)
      (events : List PipeStep) (s : AddrPipe), parseAddressAssign payload = .ok entries →
      encodeCapsule capsuleAddressAssign payload = some bytes →
      Run (ofNext AddrPipe.step)
        (AddrPipe.start (H3.drainCapsules { buf := bytes }).addrs before) events s →
      s.Done → Configured (assignedAddrs entries) before s.iface := by
  intro claim
  have run : Run (ofNext AddrPipe.step)
      (AddrPipe.start
        (H3.drainCapsules
          { buf := [1, 26, 0, 4, 10, 0, 0, 2, 32] ++ [0, 6] ++ List.replicate 15 0 ++ [2, 128] }).addrs
        ⟨[], none, none⟩) [.offer, .offer, .forward, .forward, .apply, .apply] _ :=
    run_of_execute rfl
  have configured := claim ([0, 4, 10, 0, 0, 2, 32] ++ [0, 6] ++ List.replicate 15 0 ++ [2, 128]) _
    [⟨0, 4, [10, 0, 0, 2], 32⟩, ⟨0, 6, List.replicate 15 0 ++ [2], 128⟩] _ _ _ rfl rfl run
    ⟨rfl, rfl, rfl⟩
  obtain ⟨b, _, family, cidr, there, same⟩ :=
    configured.present ⟨sampleV4, 32⟩ List.mem_cons_self
  have alone : cidr.address = sampleV6 := congrArg IpCidr.address (List.mem_singleton.mp there)
  rw [alone] at same
  rw [← same] at family
  cases family

end MolidoVpn.Masque
