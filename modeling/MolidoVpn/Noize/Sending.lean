import MolidoVpn.Noize.Patterns

/-!
What is sent around a handshake (`apply_obfuscation` and `send_post_handshake_junk`), and what of it
the user's own values decide. The count for after the handshake stays the profile's, a largest size
below the smallest is not noticed when only it is given, and a pattern may outgrow a datagram.
-/

namespace MolidoVpn.Noize

open Text (trim)
open Utf8 (encode)

inductive Sent where
  | first (datagram : List UInt8)
  | junk (datagram : List UInt8)
  | signature (datagram : List UInt8)

def Sent.isJunk : Sent → Bool
  | .junk _ => true
  | _ => false

/-- The clock and the draws of one handshake, by the pattern and the packet that they are for. -/
structure Chances where
  now : Nat → Nat
  tag : Nat → Nat → Draw
  initiator : Draw
  responder : Draw
  junk : Nat → Draw
  afterwards : Nat → Draw

def firstPacket (config : AetherNoizeConfig) (chances : Chances) : List Sent :=
  match config.i1 with
  | none => []
  | some i1 =>
      let payload := parseCps i1 (chances.now 1) (chances.tag 1)
      if payload = [] then []
      else [.first (wrapIkev2 payload chances.initiator chances.responder)]

def junkPackets (config : AetherNoizeConfig) (count : Nat) (draws : Nat → Draw) : List Sent :=
  (List.range count).map fun place => .junk (generateJunk config (draws place))

/-- The packet of one of the patterns `i2` to `i5`. -/
def signaturePacket (chances : Chances) (sig : Option (List Char) × Nat) : List Sent :=
  match sig.1 with
  | none => []
  | some spec =>
      let pkt := parseCps spec (chances.now sig.2) (chances.tag sig.2)
      if pkt = [] then [] else [.signature pkt]

def applyObfuscation (config : AetherNoizeConfig) (chances : Chances) : List Sent :=
  if config.isEnabled then
    firstPacket config chances ++ junkPackets config config.jcAfterI1 chances.junk ++
      junkPackets config config.jcBeforeHs
        (fun place => chances.junk (config.jcAfterI1 + place)) ++
      [(config.i2, 2), (config.i3, 3), (config.i4, 4), (config.i5, 5)].flatMap
        (signaturePacket chances)
  else []

def sendPostHandshakeJunk (config : AetherNoizeConfig) (chances : Chances) : List Sent :=
  junkPackets config config.jcAfterHs chances.afterwards

/-- A profile and values of the user's that `with_manual` accepts for it. -/
structure Accepted where
  profile : List Char
  manual : ManualParameters
  config : AetherNoizeConfig
  accepted : withManual profile (.ok manual) = .ok config

section Accepting

variable {profile : List Char} {manual : ManualParameters} {config : AetherNoizeConfig}

theorem withManual_ok (accepted : withManual profile (.ok manual) = .ok config) :
    config = merged (fromProfile profile) manual ∧
      ∀ low ∈ manual.jmin, ∀ high ∈ manual.jmax, low ≤ high := by
  rw [withManual] at accepted
  split at accepted
  · cases accepted
  · split at accepted
    · cases accepted
    · split at accepted
      · cases accepted
      · rename_i ordered
        split at accepted
        · cases accepted
        · cases accepted
          refine ⟨rfl, ?_⟩
          intro low isLow high isHigh
          rw [Option.mem_def] at isLow isHigh
          rw [isLow, isHigh] at ordered
          by_contra less
          exact ordered (decide_eq_true (Nat.lt_of_not_le less))

/-- The profile is one of four. -/
theorem fromProfile_cases (name : List Char) :
    fromProfile name = .off ∨ fromProfile name = .light ∨ fromProfile name = .balanced ∨
      fromProfile name = .aggressive := by
  unfold fromProfile
  split
  · exact Or.inl rfl
  · split
    · exact Or.inr (Or.inl rfl)
    · split
      · exact Or.inr (Or.inr (Or.inr rfl))
      · exact Or.inr (Or.inr (Or.inl rfl))

end Accepting

section Counting

variable {config : AetherNoizeConfig} {chances : Chances}

theorem countP_junkPackets (config : AetherNoizeConfig) (count : Nat) (draws : Nat → Draw) :
    (junkPackets config count draws).countP Sent.isJunk = count := by
  have all : ∀ sent ∈ junkPackets config count draws, sent.isJunk = true := by
    intro sent member
    obtain ⟨place, _, rfl⟩ := List.mem_map.mp member
    rfl
  rw [List.countP_eq_length.mpr all, junkPackets, List.length_map, List.length_range]

theorem countP_firstPacket : (firstPacket config chances).countP Sent.isJunk = 0 := by
  unfold firstPacket
  split
  · rfl
  · dsimp only
    split <;> rfl

theorem countP_signatures (sigs : List (Option (List Char) × Nat)) :
    (sigs.flatMap (signaturePacket chances)).countP Sent.isJunk = 0 := by
  induction sigs with
  | nil => rfl
  | cons sig sigs ih =>
      have one : (signaturePacket chances sig).countP Sent.isJunk = 0 := by
        unfold signaturePacket
        split
        · rfl
        · dsimp only
          split <;> rfl
      rw [List.flatMap_cons, List.countP_append, one, ih]

/-- The junk of one handshake, before and after. -/
def junkCount (config : AetherNoizeConfig) (chances : Chances) : Nat :=
  (applyObfuscation config chances ++ sendPostHandshakeJunk config chances).countP Sent.isJunk

theorem junkCount_eq (config : AetherNoizeConfig) (chances : Chances) :
    junkCount config chances =
      (if config.isEnabled then config.jcAfterI1 + config.jcBeforeHs else 0) +
        config.jcAfterHs := by
  unfold junkCount applyObfuscation sendPostHandshakeJunk
  rw [List.countP_append, countP_junkPackets]
  split
  · rw [List.countP_append, List.countP_append, List.countP_append, countP_firstPacket,
      countP_junkPackets, countP_junkPackets, countP_signatures, Nat.zero_add, Nat.add_zero]
  · rfl

end Counting

section Honouring

variable {config : AetherNoizeConfig}

theorem length_generateJunk {low high : Nat} (sizes : junkSizes config = .inr (low, high))
    (some_ : 0 < low) (draw : Draw) :
    (generateJunk config draw).length = max low (min high draw.size) := by
  have size : (if high = low then low else randomRange low high draw) =
      max low (min high draw.size) := by
    unfold randomRange
    split
    · omega
    · rfl
  unfold generateJunk
  rw [sizes]
  dsimp only
  rw [size, if_neg (by omega), length_randomBytes]

/-- The largest size that a junk packet has by some draw. -/
def largestJunk (config : AetherNoizeConfig) : Nat :=
  if config.jmax = 0 then max config.jmin 1 else max config.jmax config.jmin

theorem le_largestJunk (config : AetherNoizeConfig) :
    max config.jmin 1 ≤ largestJunk config := by
  unfold largestJunk
  split
  · exact Nat.le_refl _
  · omega

theorem junkSizes_nonzero (nonzero : config.allowZeroSize = false)
    (some_ : config.jmin ≠ 0 ∨ config.jmax ≠ 0) :
    junkSizes config = .inr (max config.jmin 1, largestJunk config) := by
  unfold junkSizes largestJunk
  rw [nonzero]
  cases low : config.jmin with
  | zero =>
      cases high : config.jmax with
      | zero => exact absurd some_ (not_or.mpr ⟨not_not.mpr low, not_not.mpr high⟩)
      | succ size =>
          rw [if_neg (Nat.succ_ne_zero size)]
          rfl
  | succ size =>
      cases config.jmax with
      | zero =>
          rw [if_pos rfl]
          rfl
      | succ other =>
          rw [if_neg (Nat.succ_ne_zero other)]
          rfl

/-- Where no packet may be empty, the smallest size is one. -/
theorem length_generateJunk_nonzero (nonzero : config.allowZeroSize = false) (draw : Draw) :
    (generateJunk config draw).length =
      max (max config.jmin 1) (min (largestJunk config) draw.size) := by
  by_cases none_ : config.jmin = 0 ∧ config.jmax = 0
  · have one : (generateJunk config draw).length = 1 := by
      unfold generateJunk junkSizes
      rw [none_.1, none_.2, nonzero]
      rfl
    rw [one, largestJunk, none_.1, if_pos none_.2]
    omega
  · exact length_generateJunk (junkSizes_nonzero nonzero (not_and_or.mp none_)) (by omega) draw

theorem generateJunk_sizes (nonzero : config.allowZeroSize = false) :
    (∀ draw, config.jmin ≤ (generateJunk config draw).length ∧
      (generateJunk config draw).length ≤ largestJunk config) ∧
    ∃ draw, (generateJunk config draw).length = largestJunk config := by
  have least := le_largestJunk config
  constructor
  · intro draw
    rw [length_generateJunk_nonzero nonzero]
    omega
  · refine ⟨⟨largestJunk config, fun _ => 0⟩, ?_⟩
    rw [length_generateJunk_nonzero nonzero, Nat.min_self, Nat.max_eq_right least]

variable {profile : AetherNoizeConfig} {manual : ManualParameters}

/-- What of the profile no value of the user's replaces. -/
theorem merged_kept (profile : AetherNoizeConfig) (manual : ManualParameters) :
    (merged profile manual).jcAfterHs = profile.jcAfterHs ∧
      (merged profile manual).allowZeroSize = profile.allowZeroSize ∧
      (merged profile manual).jmin = manual.jmin.getD profile.jmin ∧
      (merged profile manual).jmax = manual.jmax.getD profile.jmax := by
  unfold merged
  cases manual.jc with
  | none => exact ⟨rfl, rfl, rfl, rfl⟩
  | some jc => exact ⟨rfl, rfl, rfl, rfl⟩

/-- A profile sends as many junk packets as it says, and one that is off sends none. -/
def Balanced (profile : AetherNoizeConfig) : Prop :=
  profile.jcAfterI1 + profile.jcBeforeHs + profile.jcAfterHs = profile.jc

theorem balanced_fromProfile (name : List Char) :
    Balanced (fromProfile name) ∧ (fromProfile name).allowZeroSize = false := by
  rcases fromProfile_cases name with named | named | named | named
  · rw [named]
    exact ⟨rfl, rfl⟩
  · rw [named]
    exact ⟨rfl, rfl⟩
  · rw [named]
    exact ⟨rfl, rfl⟩
  · rw [named]
    exact ⟨rfl, rfl⟩

theorem jc_of_disabled (disabled : ¬config.isEnabled = true) : config.jc = 0 := by
  unfold AetherNoizeConfig.isEnabled at disabled
  rw [Bool.or_eq_true, not_or, decide_eq_true_eq] at disabled
  omega

theorem junkCount_profile (balanced : Balanced profile) (unset : manual.jc = none)
    (chances : Chances) : junkCount (merged profile manual) chances = profile.jc := by
  unfold Balanced at balanced
  have counts : (merged profile manual).jcAfterI1 = profile.jcAfterI1 ∧
      (merged profile manual).jcBeforeHs = profile.jcBeforeHs ∧
      (merged profile manual).jc = profile.jc := by
    unfold merged
    rw [unset]
    exact ⟨rfl, rfl, rfl⟩
  rw [junkCount_eq, (merged_kept profile manual).1, counts.1, counts.2.1]
  split
  · exact balanced
  · rename_i disabled
    have none_ := jc_of_disabled disabled
    rw [counts.2.2] at none_
    omega

theorem junkCount_manual {jc : Nat} (set : manual.jc = some jc) (chances : Chances) :
    junkCount (merged profile manual) chances =
      jc - (jc / 2 + profile.jcAfterHs) + jc / 2 + profile.jcAfterHs := by
  have counts : (merged profile manual).jcAfterI1 = jc - (jc / 2 + profile.jcAfterHs) ∧
      (merged profile manual).jcBeforeHs = jc / 2 ∧ (merged profile manual).jc = jc := by
    unfold merged
    rw [set]
    exact ⟨rfl, rfl, rfl⟩
  rw [junkCount_eq, (merged_kept profile manual).1, counts.1, counts.2.1]
  split
  · rfl
  · rename_i disabled
    have none_ := jc_of_disabled disabled
    rw [counts.2.2] at none_
    omega

/-- The junk is as many packets as were asked for, and none is smaller or larger. -/
structure Honours (a : Accepted) : Prop where
  total : ∀ chances, junkCount a.config chances = a.manual.jc.getD (fromProfile a.profile).jc
  least : ∀ low ∈ a.manual.jmin, ∀ draw, low ≤ (generateJunk a.config draw).length
  most : ∀ high ∈ a.manual.jmax, ∀ draw, (generateJunk a.config draw).length ≤ high

/-- A handshake in which every draw is zero. -/
def plainChances : Chances :=
  { now := fun _ => 0
    tag := fun _ _ => ⟨0, fun _ => 0⟩
    initiator := ⟨0, fun _ => 0⟩
    responder := ⟨0, fun _ => 0⟩
    junk := fun _ => ⟨0, fun _ => 0⟩
    afterwards := fun _ => ⟨0, fun _ => 0⟩ }

/-- The user's values are honoured unless the profile sends more than half of the packets after
the handshake, or the largest size is below the smallest one or below one byte. -/
theorem honours_iff (a : Accepted) :
    Honours a ↔
      (∀ jc ∈ a.manual.jc, (fromProfile a.profile).jcAfterHs ≤ jc - jc / 2) ∧
        ∀ high ∈ a.manual.jmax,
          max 1 (a.manual.jmin.getD (fromProfile a.profile).jmin) ≤ high := by
  obtain ⟨same, _⟩ := withManual_ok a.accepted
  obtain ⟨balanced, zero⟩ := balanced_fromProfile a.profile
  obtain ⟨_, nonzero, jmin, jmax⟩ := merged_kept (fromProfile a.profile) a.manual
  rw [← same] at nonzero jmin jmax
  obtain ⟨sizes, largest, drawn⟩ := generateJunk_sizes (nonzero.trans zero)
  have bound {high : Nat} (given : a.manual.jmax = some high) : largestJunk a.config ≤ high ↔
      max 1 (a.manual.jmin.getD (fromProfile a.profile).jmin) ≤ high := by
    rw [given, Option.getD_some] at jmax
    rw [largestJunk, jmax, ← jmin]
    split <;> omega
  constructor
  · intro honours
    constructor
    · intro jc given
      have total := honours.total plainChances
      rw [same, junkCount_manual given, given, Option.getD_some] at total
      omega
    · intro high given
      rw [← bound given, ← drawn]
      exact honours.most high given largest
  · rintro ⟨counts, highs⟩
    refine ⟨?_, ?_, ?_⟩
    · intro chances
      rw [same]
      cases given : a.manual.jc with
      | none => exact junkCount_profile balanced given chances
      | some jc =>
          have := counts jc given
          rw [junkCount_manual given, Option.getD_some]
          omega
    · intro low given draw
      rw [Option.mem_def] at given
      rw [given, Option.getD_some] at jmin
      rw [← jmin]
      exact (sizes draw).1
    · intro high given draw
      exact Nat.le_trans (sizes draw).2 ((bound given).mpr (highs high given))

/-- No junk packets at all, for a profile that sends one after the handshake. -/
def noJunk : Accepted :=
  { profile := "light".toList
    manual := ⟨some 0, none, none, none, none⟩
    config := merged .light ⟨some 0, none, none, none, none⟩
    accepted := rfl }

theorem junk_after_handshake_kept : ¬∀ a : Accepted, Honours a := by
  intro every
  exact absurd ((every noJunk).total plainChances) (by decide)

end Honouring

section Disguise

/-- Which patterns disguise well is decided by the most bytes that they stand for. -/
theorem profile_patterns (name : List Char) :
    ∀ pattern ∈ (fromProfile name).i1, largestPayload pattern ≤ 65455 := by
  intro pattern given
  rcases fromProfile_cases name with named | named | named | named
  · rw [named] at given
    cases given
  · rw [named] at given
    cases given
    decide +kernel
  · rw [named] at given
    cases given
    decide +kernel
  · rw [named] at given
    cases given
    decide +kernel

theorem captures_of_plain {turns : Nat} {spec : List Char} (plain : '<' ∉ spec) :
    capturesFrom turns spec = [] := by
  induction turns generalizing spec with
  | zero => rfl
  | succ turns ih =>
      cases spec with
      | nil => rfl
      | cons c rest =>
          rw [List.mem_cons, not_or] at plain
          rw [capturesFrom, if_neg (fun starts => plain.1 starts.1.symm)]
          exact ih plain.2

/-- A pattern that is none stands for nothing. -/
theorem largestPayload_blank {pattern : List Char} (blank : trim pattern = []) :
    largestPayload pattern = 0 := by
  have plain : '<' ∉ pattern := by
    intro member
    exact absurd (Text.spaces_of_trim blank '<' member) (by decide)
  rw [largestPayload, captures, captures_of_plain plain]
  rfl

theorem mem_applyObfuscation {config : AetherNoizeConfig} {chances : Chances}
    {datagram : List UInt8} :
    .first datagram ∈ applyObfuscation config chances ↔
      .first datagram ∈ firstPacket config chances := by
  have junk (count : Nat) (draws : Nat → Draw) :
      .first datagram ∉ junkPackets config count draws := by
    intro member
    obtain ⟨place, _, same⟩ := List.mem_map.mp member
    cases same
  have signature (sigs : List (Option (List Char) × Nat)) :
      .first datagram ∉ sigs.flatMap (signaturePacket chances) := by
    intro member
    obtain ⟨sig, _, inside⟩ := List.mem_flatMap.mp member
    unfold signaturePacket at inside
    split at inside
    · cases inside
    · dsimp only at inside
      split at inside
      · cases inside
      · cases List.mem_singleton.mp inside
  unfold applyObfuscation
  constructor
  · intro member
    split at member
    · rcases List.mem_append.mp member with member | late
      · rcases List.mem_append.mp member with member | late
        · rcases List.mem_append.mp member with first | late
          · exact first
          · exact absurd late (junk _ _)
        · exact absurd late (junk _ _)
      · exact absurd late (signature _)
    · cases member
  · intro member
    have enabled : config.isEnabled = true := by
      unfold firstPacket at member
      cases given : config.i1 with
      | none =>
          rw [given] at member
          cases member
      | some i1 =>
          rw [AetherNoizeConfig.isEnabled, given]
          exact Bool.or_true _
    rw [if_pos enabled]
    exact List.mem_append_left _ (List.mem_append_left _ (List.mem_append_left _ member))

theorem framed_of_pattern {config : AetherNoizeConfig}
    (small : ∀ pattern ∈ config.i1, largestPayload pattern ≤ 65455) {chances : Chances}
    {datagram : List UInt8} (sent : .first datagram ∈ applyObfuscation config chances) :
    Framed datagram := by
  rw [mem_applyObfuscation, firstPacket] at sent
  split at sent
  · cases sent
  · rename_i i1 given
    dsimp only at sent
    split at sent
    · cases sent
    · rename_i some_
      cases List.mem_singleton.mp sent
      rw [framed_iff some_]
      exact Nat.le_trans (length_parseCps_le _ _ _) (small i1 given)

/-- A handshake in which every draw takes the end of its range. -/
def longestChances : Chances :=
  { plainChances with tag := fun _ _ => highest }

theorem i1_of_accepted (a : Accepted) :
    a.config.i1 = a.manual.i1.elim (fromProfile a.profile).i1 givenPattern := by
  rw [(withManual_ok a.accepted).1, merged]
  cases a.manual.jc with
  | none => rfl
  | some jc => rfl

theorem unframed_of_large {a : Accepted} {pattern : List Char} (given : a.manual.i1 = some pattern)
    (large : 65455 < largestPayload pattern) :
    ∃ datagram, .first datagram ∈ applyObfuscation a.config longestChances ∧
      ¬Framed datagram := by
  have i1 := i1_of_accepted a
  have solid : trim pattern ≠ [] := by
    intro blank
    rw [largestPayload_blank blank] at large
    omega
  rw [given, Option.elim_some, givenPattern, if_neg solid] at i1
  have length : (parseCps pattern (longestChances.now 1) (longestChances.tag 1)).length =
      largestPayload pattern := length_parseCps_highest pattern _
  have some_ : parseCps pattern (longestChances.now 1) (longestChances.tag 1) ≠ [] := by
    intro empty
    rw [empty, List.length_nil] at length
    omega
  refine ⟨wrapIkev2 (parseCps pattern (longestChances.now 1) (longestChances.tag 1))
    longestChances.initiator longestChances.responder, ?_, ?_⟩
  · rw [mem_applyObfuscation, firstPacket, i1]
    dsimp only
    rw [if_neg some_]
    exact List.mem_singleton.mpr rfl
  · rw [framed_iff some_, length]
    omega

/-- The first packet is well formed whatever is drawn, unless the user's pattern stands for more
bytes than a datagram has room for behind 52 bytes of disguise. -/
theorem framed_packets_iff (a : Accepted) :
    (∀ chances datagram, .first datagram ∈ applyObfuscation a.config chances →
        Framed datagram) ↔
      ∀ pattern ∈ a.manual.i1, largestPayload pattern ≤ 65455 := by
  have i1 := i1_of_accepted a
  constructor
  · intro framed pattern given
    by_contra large
    obtain ⟨datagram, sent, broken⟩ := unframed_of_large given (Nat.lt_of_not_le large)
    exact broken (framed longestChances datagram sent)
  · intro small chances datagram sent
    refine framed_of_pattern ?_ sent
    intro pattern given
    rw [i1] at given
    cases manual : a.manual.i1 with
    | none =>
        rw [manual, Option.elim_none] at given
        exact profile_patterns a.profile pattern given
    | some value =>
        rw [manual, Option.elim_some, givenPattern] at given
        split at given
        · cases given
        · cases given
          exact small _ manual

/-- Thirty-two tags of two kilobytes each, in a text of 256 characters. -/
def longPattern : List Char := (List.replicate 32 "<r 2048>".toList).flatten

def longFirst : Accepted :=
  { profile := "balanced".toList
    manual := ⟨none, none, none, some longPattern, none⟩
    config := merged .balanced ⟨none, none, none, some longPattern, none⟩
    accepted := by
      have short : ((some longPattern).any (fun value => (encode value).length > 2048) ||
          (none : Option (List Char)).any fun value => (encode value).length > 2048) = false := by
        decide +kernel
      rw [withManual, short]
      rfl }

theorem long_first_misframed :
    ¬∀ (a : Accepted) (chances : Chances) (datagram : List UInt8),
      .first datagram ∈ applyObfuscation a.config chances → Framed datagram := by
  intro every
  have large : 65455 < largestPayload longPattern := by decide +kernel
  obtain ⟨datagram, sent, broken⟩ := unframed_of_large (a := longFirst) rfl large
  exact broken (every longFirst longestChances datagram sent)

end Disguise

end MolidoVpn.Noize
