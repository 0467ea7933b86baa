import MolidoVpn.Lib.Text
import MolidoVpn.Lib.Utf8

/-!
The settings of the disguise (`aethernoize.rs`): the four profiles, what the user's own values make
of them, and the junk packets that are sent around the handshake. The pauses between the packets
are left out.
-/

namespace MolidoVpn.Noize

open Text (trim)
open Utf8 (encode)

structure ManualParameters where
  jc : Option Nat
  jmin : Option Nat
  jmax : Option Nat
  i1 : Option (List Char)
  i2 : Option (List Char)

structure AetherNoizeConfig where
  i1 : Option (List Char)
  i2 : Option (List Char)
  i3 : Option (List Char)
  i4 : Option (List Char)
  i5 : Option (List Char)
  jc : Nat
  jcBeforeHs : Nat
  jcAfterI1 : Nat
  jcAfterHs : Nat
  jmin : Nat
  jmax : Nat
  allowZeroSize : Bool

def AetherNoizeConfig.off : AetherNoizeConfig :=
  { i1 := none
    i2 := none
    i3 := none
    i4 := none
    i5 := none
    jc := 0
    jcBeforeHs := 0
    jcAfterI1 := 0
    jcAfterHs := 0
    jmin := 0
    jmax := 0
    allowZeroSize := false }

def AetherNoizeConfig.light : AetherNoizeConfig :=
  { i1 := some "<b 0d0a0d0a><t><r 20-32>".toList
    i2 := some "<rc 24-48>".toList
    i3 := none
    i4 := none
    i5 := none
    jc := 4
    jcBeforeHs := 2
    jcAfterI1 := 1
    jcAfterHs := 1
    jmin := 48
    jmax := 190
    allowZeroSize := false }

def AetherNoizeConfig.balanced : AetherNoizeConfig :=
  { i1 := some "<b 0d0a0d0a><t><rc 20-40>".toList
    i2 := some "<b 504f5354><rd 10-20><rc 20-30>".toList
    i3 := some "<r 30-50>".toList
    i4 := none
    i5 := none
    jc := 6
    jcBeforeHs := 3
    jcAfterI1 := 2
    jcAfterHs := 1
    jmin := 64
    jmax := 256
    allowZeroSize := false }

def AetherNoizeConfig.aggressive : AetherNoizeConfig :=
  { i1 := some "<b 0d0a0d0a><t><rc 40-64>".toList
    i2 := some "<b 504f5354><t><rd 15-30><rc 30-50>".toList
    i3 := some "<b 474554><rc 40-60>".toList
    i4 := some "<r 60-100>".toList
    i5 := some "<c><rd 20-40>".toList
    jc := 10
    jcBeforeHs := 4
    jcAfterI1 := 3
    jcAfterHs := 3
    jmin := 80
    jmax := 384
    allowZeroSize := false }

def AetherNoizeConfig.isEnabled (config : AetherNoizeConfig) : Bool :=
  config.jc > 0 || config.i1.isSome

def fromProfile (name : List Char) : AetherNoizeConfig :=
  if name = "off".toList ∨ name = "none".toList then .off
  else if name = "light".toList then .light
  else if name = "aggressive".toList ∨ name = "heavy".toList then .aggressive
  else .balanced

/-- A pattern of nothing but white space is none. -/
def givenPattern (value : List Char) : Option (List Char) :=
  if trim value = [] then none else some value

def withJc (config : AetherNoizeConfig) (value : Nat) : AetherNoizeConfig :=
  { config with
    jc := value
    jcBeforeHs := value / 2
    jcAfterI1 := value - (value / 2 + config.jcAfterHs) }

/-- The second half of `with_manual`: what is given replaces what the profile has. -/
def merged (config : AetherNoizeConfig) (manual : ManualParameters) : AetherNoizeConfig :=
  let config := manual.jc.elim config (withJc config)
  { config with
    jmin := manual.jmin.getD config.jmin
    jmax := manual.jmax.getD config.jmax
    i1 := manual.i1.elim config.i1 givenPattern
    i2 := manual.i2.elim config.i2 givenPattern }

/-- `with_manual`, for the outcome of `serde_json::from_str` on its argument. -/
def withManual (profile : List Char) (parsed : Except (List Char) ManualParameters) :
    Except (List Char) AetherNoizeConfig :=
  match parsed with
  | .error error => .error ("advanced obfuscation parameters: ".toList ++ error)
  | .ok manual =>
      if manual.jc.any (· > 10) then .error "advanced obfuscation Jc must be 0–10".toList
      else if manual.jmin.any (· > 1024) || manual.jmax.any (· > 1024) then
        .error "advanced obfuscation Jmin/Jmax must be 0–1024".toList
      else if manual.jmin.any fun low => manual.jmax.any (· < low) then
        .error "advanced obfuscation Jmax must be at least Jmin".toList
      else if manual.i1.any (fun value => (encode value).length > 2048) ||
          manual.i2.any (fun value => (encode value).length > 2048) then
        .error "advanced obfuscation packet patterns are limited to 2048 characters".toList
      else .ok (merged (fromProfile profile) manual)

/-- What one packet, or one tag of a pattern, draws at random: a size, which is brought into the
range that is asked for, and what the bytes are made of. -/
structure Draw where
  size : Nat
  filler : Nat → Nat

/-- `random_range(low..=high)`; every number of the range is drawn by some draw. -/
def randomRange (low high : Nat) (draw : Draw) : Nat := max low (min high draw.size)

def randomBytes (size : Nat) (draw : Draw) : List UInt8 :=
  (List.range size).map fun place => UInt8.ofNat (draw.filler place)

/-- The packets of a fixed content, and the smallest and the largest size of all others. -/
def junkSizes (config : AetherNoizeConfig) : List UInt8 ⊕ Nat × Nat :=
  match config.jmin, config.jmax with
  | 0, 0 => if config.allowZeroSize then .inl [] else .inl [0x00]
  | low, 0 =>
      if !config.allowZeroSize then .inr (max low 1, max low 1) else .inr (low, max 0 low)
  | low, high =>
      if !config.allowZeroSize then .inr (max low 1, max high low) else .inr (low, max high low)

def generateJunk (config : AetherNoizeConfig) (draw : Draw) : List UInt8 :=
  match junkSizes config with
  | .inl packet => packet
  | .inr (low, high) =>
      let size := if high = low then low else randomRange low high draw
      if size = 0 then if config.allowZeroSize then [] else [0x00] else randomBytes size draw

end MolidoVpn.Noize
