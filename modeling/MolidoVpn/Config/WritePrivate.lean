import MolidoVpn.Lib.Files
import MolidoVpn.Lib.Numbered
import MolidoVpn.Lib.Text
import MolidoVpn.Lib.Transition

/-!
Calls of `write_private` for one path in one process, one system call a step. Their
temporary file has one name, so a call may open what another one is about to rename.
-/

namespace MolidoVpn.Config

open Files (FileSystem splice splice_end)
open Numbered (getElem?_set_cases mem_set_of_ne)
open Transition (Run ofNext Restrict executeChecked run_of_executeChecked execute run_of_execute)

/-- A directory and a file name in it. -/
abbrev Path := List Char × List Char

/-- The temporary file that goes with a path. -/
def temporary (pid : Nat) (target : Path) : Path :=
  (target.1, '.' :: target.2 ++ '.' :: Text.decimal pid ++ ".tmp".toList)

theorem temporary_ne (pid : Nat) (target : Path) : temporary pid target ≠ target := by
  intro same
  have length := congrArg (fun path => path.2.length) same
  simp only [temporary, List.length_append, List.length_cons] at length
  omega

/-- How far a call is; an open file is its inode, kept as a trace after it is closed. -/
inductive Pc where
  | start
  | ready
  | writing (inode written : Nat)
  | closed (inode : Nat)
  | owned (inode : Nat)
  | failed
  | returned (installed : Option Nat)
  deriving DecidableEq

/-- The file that the call has opened and not yet renamed or given up. -/
def Pc.inode : Pc → Option Nat
  | .writing inode _ => some inode
  | .closed inode => some inode
  | .owned inode => some inode
  | _ => none

structure Call where
  contents : List UInt8
  pc : Pc
  deriving DecidableEq

structure State where
  system : FileSystem Path
  calls : List Call

/-- The next system call of a call, or of its loop that writes. -/
inductive Action where
  | createDirectory (ok : Bool)
  | openFile
  | write (count : Nat)
  | close
  | setPermissions
  | rename
  /-- the system call that comes next fails -/
  | fail
  | cleanUp (ok : Bool)
  deriving DecidableEq

section Steps

variable (pid : Nat) (target : Path)

def advance (system : FileSystem Path) (call : Call) : Action → Option (FileSystem Path × Pc)
  | .createDirectory ok =>
      match call.pc with
      | .start => some (system, if ok then .ready else .returned none)
      | _ => none
  | .openFile =>
      match call.pc with
      | .ready =>
          let (system, inode) := system.openTruncate (temporary pid target) 0o600
          some (system, .writing inode 0)
      | _ => none
  | .write count =>
      match call.pc with
      | .writing inode written =>
          if 0 < count ∧ written + count ≤ call.contents.length then
            some (system.writeAt inode written ((call.contents.drop written).take count),
              .writing inode (written + count))
          else none
      | _ => none
  | .close =>
      match call.pc with
      | .writing inode written =>
          if written = call.contents.length then some (system, .closed inode) else none
      | _ => none
  | .setPermissions =>
      match call.pc with
      | .closed inode =>
          match system.setPermissions (temporary pid target) 0o600 with
          | some system => some (system, .owned inode)
          | none => some (system, .failed)
      | _ => none
  | .rename =>
      match call.pc with
      | .owned _ =>
          match system.rename (temporary pid target) target with
          | some after => some (after, .returned (system.names.lookup (temporary pid target)))
          | none => some (system, .failed)
      | _ => none
  | .fail =>
      match call.pc with
      | .ready | .writing _ _ | .closed _ | .owned _ => some (system, .failed)
      | _ => none
  | .cleanUp ok =>
      match call.pc with
      | .failed =>
          some (if ok then system.remove (temporary pid target) else system, .returned none)
      | _ => none

/-- One of the calls moves on. -/
def next (state : State) (label : Nat × Action) : Option State :=
  match state.calls[label.1]? with
  | none => none
  | some call =>
      (advance pid target state.system call label.2).map fun (system, pc) =>
        { system := system
          calls := state.calls.set label.1 { call with pc := pc } }

/-- No call opens the temporary file while another one has it open or is about to rename it. -/
def opensAlone (state : State) (label : Nat × Action) : Bool :=
  label.2 != .openFile || state.calls.all fun call => call.pc.inode.isNone

/-- A reader finds the old file or the whole contents of a call, and a call that has reported
success has installed all of its own. -/
structure Whole (old : Option (List UInt8)) (state : State) : Prop where
  reader : state.system.read target = old ∨ ∃ call ∈ state.calls, ∃ inode,
    call.pc = .returned (some inode) ∧ state.system.read target = some call.contents
  installed : ∀ call ∈ state.calls, ∀ inode, call.pc = .returned (some inode) →
    state.system.data inode = some call.contents

end Steps

def initial (system : FileSystem Path) (contents : List (List UInt8)) : State :=
  { system := system
    calls := contents.map fun bytes => ⟨bytes, .start⟩ }

/-- The file that a call writes, and what is in it by now. -/
def Call.file (call : Call) : Option (Nat × List UInt8) :=
  match call.pc with
  | .writing inode written => some (inode, call.contents.take written)
  | .closed inode => some (inode, call.contents)
  | .owned inode => some (inode, call.contents)
  | _ => none

/-- A file that no reader sees and no call has installed. -/
def Spare (target : Path) (state : State) (inode : Nat) : Prop :=
  state.system.names.lookup target ≠ some inode ∧
    ∀ call ∈ state.calls, call.pc ≠ .returned (some inode)

/-- What holds when the temporary file is never shared. -/
structure Sound (pid : Nat) (target : Path) (old : Option (List UInt8)) (state : State) : Prop where
  whole : Whole target old state
  alone : ∀ (first second : Nat) (call other : Call), state.calls[first]? = some call →
    state.calls[second]? = some other → call.file.isSome = true → other.file.isSome = true →
      first = second
  held : ∀ call ∈ state.calls, ∀ inode bytes, call.file = some (inode, bytes) →
    Spare target state inode ∧ state.system.data inode = some bytes ∧
      ∀ other, state.system.names.lookup (temporary pid target) = some other → other = inode
  spare : ∀ inode, state.system.names.lookup (temporary pid target) = some inode →
    Spare target state inode

/-- One call has changed, and the file system with it. -/
def State.put (state : State) (index : Nat) (changed : Call) (system : FileSystem Path) : State :=
  { system := system
    calls := state.calls.set index changed }

section Preservation

variable {pid : Nat} {target : Path} {old : Option (List UInt8)} {state : State} {index : Nat}
  {call changed : Call} {system : FileSystem Path}

theorem Spare.put {inode : Nat} (spare : Spare target state inode)
    (unread : system.names.lookup target ≠ some inode)
    (uninstalled : changed.pc ≠ .returned (some inode)) :
    Spare target (state.put index changed system) inode := by
  refine ⟨unread, ?_⟩
  intro other member
  rcases List.mem_or_eq_of_mem_set member with before | rfl
  · exact spare.2 other before
  · exact uninstalled

/-- Whatever happens to spare files, and whichever name the temporary file has then. -/
theorem Whole.put (whole : Whole target old state) (at_ : state.calls[index]? = some call)
    (running : ∀ inode, call.pc ≠ .returned (some inode))
    (still : ∀ inode, changed.pc ≠ .returned (some inode))
    (target_ : system.names.lookup target = state.system.names.lookup target)
    (data : ∀ inode, ¬ Spare target state inode → system.data inode = state.system.data inode) :
    Whole target old (state.put index changed system) := by
  have read : system.read target = state.system.read target := by
    unfold FileSystem.read
    rw [target_]
    cases seen : state.system.names.lookup target with
    | none => rfl
    | some inode => exact data inode fun spare => spare.1 seen
  have stays {other : Call} {inode : Nat} (member : other ∈ state.calls)
      (returned : other.pc = .returned (some inode)) : other ∈ state.calls.set index changed := by
    apply mem_set_of_ne at_ member
    rintro rfl
    exact running inode returned
  constructor
  · change system.read target = old ∨ _
    rw [read]
    rcases whole.reader with same | ⟨other, member, inode, returned, seen⟩
    · exact Or.inl same
    · refine Or.inr ⟨other, stays member returned, inode, returned, ?_⟩
      exact read.trans seen
  · intro other member inode returned
    rcases List.mem_or_eq_of_mem_set member with before | rfl
    · rw [← whole.installed other before inode returned]
      exact data inode fun spare => spare.2 other before returned
    · exact absurd returned (still inode)

/-- A call that leaves its file, or has none yet. -/
theorem Sound.quiet (sound : Sound pid target old state) (at_ : state.calls[index]? = some call)
    (running : ∀ inode, call.pc ≠ .returned (some inode))
    (still : ∀ inode, changed.pc ≠ .returned (some inode)) (leaves : changed.file = none)
    (target_ : system.names.lookup target = state.system.names.lookup target)
    (temporary_ : ∀ inode, system.names.lookup (temporary pid target) = some inode →
      state.system.names.lookup (temporary pid target) = some inode)
    (data : ∀ inode, system.data inode = state.system.data inode) :
    Sound pid target old (state.put index changed system) where
  whole := sound.whole.put at_ running still target_ fun inode _ => data inode
  alone := by
    intro first second one other atFirst atSecond oneHolds otherHolds
    rcases getElem?_set_cases atFirst with ⟨_, rfl⟩ | ⟨_, atFirst⟩
    · rw [leaves] at oneHolds
      cases oneHolds
    · rcases getElem?_set_cases atSecond with ⟨_, rfl⟩ | ⟨_, atSecond⟩
      · rw [leaves] at otherHolds
        cases otherHolds
      · exact sound.alone first second one other atFirst atSecond oneHolds otherHolds
  held := by
    intro other member inode bytes holds
    rcases List.mem_or_eq_of_mem_set member with before | rfl
    · obtain ⟨spare, written, named⟩ := sound.held other before inode bytes holds
      refine ⟨spare.put ?_ (still inode), (data inode).trans written, ?_⟩
      · rw [target_]
        exact spare.1
      · intro name found
        exact named name (temporary_ name found)
    · rw [leaves] at holds
      cases holds
  spare := by
    intro inode found
    have spare := sound.spare inode (temporary_ inode found)
    apply spare.put _ (still inode)
    rw [target_]
    exact spare.1

/-- The call that has the temporary file to itself goes on with it. -/
theorem Sound.progress (sound : Sound pid target old state)
    (at_ : state.calls[index]? = some call)
    (running : ∀ inode, call.pc ≠ .returned (some inode))
    (still : ∀ inode, changed.pc ≠ .returned (some inode))
    {inode : Nat} {bytes : List UInt8} (holds : changed.file = some (inode, bytes))
    (others : ∀ (place : Nat) (other : Call), place ≠ index → state.calls[place]? = some other →
      other.file = none)
    (spare : Spare target state inode)
    (target_ : system.names.lookup target = state.system.names.lookup target)
    (temporary_ : ∀ name, system.names.lookup (temporary pid target) = some name → name = inode)
    (written : system.data inode = some bytes)
    (data : ∀ other, other ≠ inode → system.data other = state.system.data other) :
    Sound pid target old (state.put index changed system) where
  whole := by
    apply sound.whole.put at_ running still target_
    intro other taken
    apply data
    rintro rfl
    exact taken spare
  alone := by
    intro first second one other atFirst atSecond oneHolds otherHolds
    rcases getElem?_set_cases atFirst with ⟨rfl, _⟩ | ⟨different, atFirst⟩
    · rcases getElem?_set_cases atSecond with ⟨rfl, _⟩ | ⟨different, atSecond⟩
      · rfl
      · rw [others second other different atSecond] at otherHolds
        cases otherHolds
    · rw [others first one different atFirst] at oneHolds
      cases oneHolds
  held := by
    intro other member own content ownHolds
    obtain ⟨place, stands⟩ := List.mem_iff_getElem?.mp member
    rcases getElem?_set_cases stands with ⟨_, rfl⟩ | ⟨different, before⟩
    · rw [holds] at ownHolds
      cases ownHolds
      refine ⟨spare.put ?_ (still inode), written, temporary_⟩
      rw [target_]
      exact spare.1
    · rw [others place other different before] at ownHolds
      cases ownHolds
  spare := by
    intro name found
    obtain rfl := temporary_ name found
    apply spare.put _ (still name)
    rw [target_]
    exact spare.1

theorem Sound.others (sound : Sound pid target old state)
    (at_ : state.calls[index]? = some call) (holds : call.file.isSome = true) (place : Nat)
    (other : Call) (different : place ≠ index) (stands : state.calls[place]? = some other) :
    other.file = none := by
  by_contra some_
  exact different (sound.alone place index other call stands at_
    (Option.isSome_iff_ne_none.mpr some_) holds)

/-- The call gives its file the name that readers use. -/
theorem Sound.install (sound : Sound pid target old state)
    (at_ : state.calls[index]? = some call) {inode : Nat} (holds : call.file = some (inode, call.contents))
    (done : state.system.rename (temporary pid target) target = some system)
    (same : changed.contents = call.contents) (returns : changed.pc = .returned (some inode)) :
    Sound pid target old (state.put index changed system) := by
  obtain ⟨spare, written, named⟩ :=
    sound.held call (List.mem_of_getElem? at_) inode call.contents holds
  obtain ⟨moved, renamed⟩ := FileSystem.rename_renamed done
  obtain rfl := named moved renamed.held
  have gone := renamed.gone (temporary_ne pid target) spare.1
  have data (other : Nat) : system.data other = state.system.data other := by
    unfold FileSystem.data
    rw [renamed.files]
  have leaves : changed.file = none := by
    unfold Call.file
    rw [returns]
  have others := sound.others at_ (by rw [holds]; rfl)
  refine ⟨⟨?_, ?_⟩, ?_, ?_, ?_⟩
  · refine Or.inr ⟨changed, List.mem_set (List.getElem?_eq_some_iff.mp at_).1 changed, moved, returns, ?_⟩
    change (system.names.lookup target).bind system.data = _
    rw [renamed.named, Option.bind_some, data, written, same]
  · intro other member own returned
    rw [show (state.put index changed system).system.data own = state.system.data own from data own]
    rcases List.mem_or_eq_of_mem_set member with before | rfl
    · exact sound.whole.installed other before own returned
    · rw [returns] at returned
      cases returned
      rw [written, same]
  · intro first second one other atFirst atSecond oneHolds otherHolds
    rcases getElem?_set_cases atFirst with ⟨_, rfl⟩ | ⟨different, atFirst⟩
    · rw [leaves] at oneHolds
      cases oneHolds
    · rw [others first one different atFirst] at oneHolds
      cases oneHolds
  · intro other member own content ownHolds
    obtain ⟨place, stands⟩ := List.mem_iff_getElem?.mp member
    rcases getElem?_set_cases stands with ⟨_, rfl⟩ | ⟨different, before⟩
    · rw [leaves] at ownHolds
      cases ownHolds
    · rw [others place other different before] at ownHolds
      cases ownHolds
  · intro own found
    rw [show (state.put index changed system).system.names.lookup (temporary pid target) = none
      from gone] at found
    cases found

theorem file_eq_none {other : Call} (none_ : other.pc.inode = none) : other.file = none := by
  unfold Pc.inode at none_
  unfold Call.file
  cases here : other.pc with
  | writing inode written | closed inode | owned inode =>
      rw [here] at none_
      cases none_
  | _ => rfl

private theorem sound_openFile (sound : Sound pid target old state)
    (at_ : state.calls[index]? = some call) (ready : call.pc = .ready)
    (alone : opensAlone state (index, .openFile) = true) :
    Sound pid target old (state.put index
      { call with
        pc := .writing (state.system.openTruncate (temporary pid target) 0o600).2 0 }
      (state.system.openTruncate (temporary pid target) 0o600).1) := by
  have opened := FileSystem.openTruncate_opened state.system (temporary pid target) 0o600
  apply @Sound.progress _ _ _ _ _ call _ _ sound at_ _ _ _ [] rfl
  · intro place other different stands
    apply file_eq_none
    have all := List.all_eq_true.mp alone other (List.mem_of_getElem? stands)
    exact Option.isNone_iff_eq_none.mp all
  · rcases opened.source with named | fresh
    · exact sound.spare _ named
    · constructor
      · intro linked
        have within := state.system.linked target _ linked
        omega
      · intro other member returned
        have within := FileSystem.lt_of_data (sound.whole.installed other member _ returned)
        omega
  · exact opened.frame target (Ne.symm (temporary_ne pid target))
  · intro name found
    exact Option.some.inj (found.symm.trans opened.named)
  · exact opened.empty
  · exact opened.others
  · intro inode
    rw [ready]
    exact Pc.noConfusion
  · intro inode
    exact Pc.noConfusion

private theorem sound_write (sound : Sound pid target old state)
    (at_ : state.calls[index]? = some call) {inode written count : Nat}
    (writing : call.pc = .writing inode written)
    (fits : written + count ≤ call.contents.length) :
    Sound pid target old (state.put index { call with pc := .writing inode (written + count) }
      (state.system.writeAt inode written ((call.contents.drop written).take count))) := by
  have holds : call.file = some (inode, call.contents.take written) := by
    unfold Call.file
    rw [writing]
  obtain ⟨spare, before, named⟩ := sound.held call (List.mem_of_getElem? at_) _ _ holds
  apply @Sound.progress _ _ _ _ _ call _ _ sound at_ _ _ inode
    (call.contents.take (written + count)) rfl
  · exact sound.others at_ (by rw [holds]; rfl)
  · exact spare
  · rfl
  · exact named
  · have length : (call.contents.take written).length = written := by
      rw [List.length_take]
      omega
    rw [FileSystem.data_writeAt before]
    nth_rewrite 2 [← length]
    rw [splice_end, List.take_add]
  · intro other different
    exact FileSystem.data_writeAt_ne (Ne.symm different) _ _
  · intro inode
    rw [writing]
    exact Pc.noConfusion
  · intro inode
    exact Pc.noConfusion

private theorem sound_close (sound : Sound pid target old state)
    (at_ : state.calls[index]? = some call) {inode : Nat}
    (writing : call.pc = .writing inode call.contents.length) :
    Sound pid target old (state.put index { call with pc := .closed inode } state.system) := by
  have holds : call.file = some (inode, call.contents) := by
    unfold Call.file
    rw [writing]
    simp only [List.take_length]
  obtain ⟨spare, written, named⟩ := sound.held call (List.mem_of_getElem? at_) _ _ holds
  apply @Sound.progress _ _ _ _ _ call _ _ sound at_ _ _ inode call.contents rfl
  · exact sound.others at_ (by rw [holds]; rfl)
  · exact spare
  · rfl
  · exact named
  · exact written
  · intro other _
    rfl
  · intro inode
    rw [writing]
    exact Pc.noConfusion
  · intro inode
    exact Pc.noConfusion

private theorem sound_setPermissions (sound : Sound pid target old state)
    (at_ : state.calls[index]? = some call) {inode : Nat} (closed : call.pc = .closed inode)
    (done : state.system.setPermissions (temporary pid target) 0o600 = some system) :
    Sound pid target old (state.put index { call with pc := .owned inode } system) := by
  have holds : call.file = some (inode, call.contents) := by
    unfold Call.file
    rw [closed]
  obtain ⟨spare, written, named⟩ := sound.held call (List.mem_of_getElem? at_) _ _ holds
  have names := FileSystem.names_setPermissions done
  apply @Sound.progress _ _ _ _ _ call _ _ sound at_ _ _ inode call.contents rfl
  · exact sound.others at_ (by rw [holds]; rfl)
  · exact spare
  · rw [names]
  · rw [names]
    exact named
  · rw [FileSystem.data_setPermissions done]
    exact written
  · intro other _
    exact FileSystem.data_setPermissions done other
  · intro inode
    rw [closed]
    exact Pc.noConfusion
  · intro inode
    exact Pc.noConfusion

/-- A call that fails or has nothing to do with files in this step. -/
private theorem sound_idle (sound : Sound pid target old state)
    (at_ : state.calls[index]? = some call) (running : ∀ inode, call.pc ≠ .returned (some inode))
    {pc : Pc} (leaves : Call.file ⟨call.contents, pc⟩ = none)
    (still : ∀ inode, pc ≠ .returned (some inode)) :
    Sound pid target old (state.put index { call with pc := pc } state.system) :=
  sound.quiet at_ running still leaves rfl (fun _ same => same) fun _ => rfl

private theorem sound_cleanUp (sound : Sound pid target old state)
    (at_ : state.calls[index]? = some call) (failed : call.pc = .failed) :
    Sound pid target old (state.put index { call with pc := .returned none }
      (state.system.remove (temporary pid target))) := by
  apply @Sound.quiet _ _ _ _ _ call _ _ sound at_
  · intro inode
    rw [failed]
    exact Pc.noConfusion
  · intro inode same
    cases same
  · rfl
  · rw [FileSystem.lookup_remove, if_neg (Ne.symm (temporary_ne pid target))]
  · intro inode found
    rw [FileSystem.lookup_remove, if_pos rfl] at found
    cases found
  · intro inode
    rfl

/-- What one system call preserves. -/
theorem advance_sound (sound : Sound pid target old state)
    (at_ : state.calls[index]? = some call) {action : Action} {pc : Pc}
    (alone : opensAlone state (index, action) = true)
    (taken : advance pid target state.system call action = some (system, pc)) :
    Sound pid target old (state.put index { call with pc := pc } system) := by
  cases action with
  | createDirectory ok =>
      simp only [advance] at taken
      split at taken
      · rename_i start
        cases taken
        apply sound_idle sound at_
        · rw [start]
          exact fun _ => Pc.noConfusion
        · cases ok <;> rfl
        · intro inode same
          cases ok <;> cases same
      · cases taken
  | openFile =>
      simp only [advance] at taken
      split at taken
      · rename_i ready
        cases taken
        exact sound_openFile sound at_ ready alone
      · cases taken
  | write count =>
      simp only [advance] at taken
      split at taken
      · rename_i inode written writing
        split at taken
        · rename_i bounds
          cases taken
          exact sound_write sound at_ writing bounds.2
        · cases taken
      · cases taken
  | close =>
      simp only [advance] at taken
      split at taken
      · rename_i inode written writing
        split at taken
        · rename_i all
          cases taken
          subst all
          exact sound_close sound at_ writing
        · cases taken
      · cases taken
  | setPermissions =>
      simp only [advance] at taken
      split at taken
      · rename_i inode closed
        split at taken
        · rename_i after done
          cases taken
          exact sound_setPermissions sound at_ closed done
        · cases taken
          apply sound_idle sound at_ _ rfl
          · exact fun _ => Pc.noConfusion
          · rw [closed]
            exact fun _ => Pc.noConfusion
      · cases taken
  | rename =>
      simp only [advance] at taken
      split at taken
      · rename_i inode owned
        have holds : call.file = some (inode, call.contents) := by
          unfold Call.file
          rw [owned]
        split at taken
        · rename_i after done
          cases taken
          have named := (sound.held call (List.mem_of_getElem? at_) _ _ holds).2.2
          obtain ⟨moved, renamed⟩ := FileSystem.rename_renamed done
          obtain rfl := named moved renamed.held
          apply Sound.install sound at_ holds done
          · rfl
          · rw [renamed.held]
        · cases taken
          apply sound_idle sound at_ _ rfl
          · exact fun _ => Pc.noConfusion
          · rw [owned]
            exact fun _ => Pc.noConfusion
      · cases taken
  | fail =>
      simp only [advance] at taken
      split at taken
      all_goals
        cases taken
      all_goals
        rename_i here
        apply sound_idle sound at_ _ rfl (fun _ => Pc.noConfusion)
        rw [here]
        exact fun _ => Pc.noConfusion
  | cleanUp ok =>
      simp only [advance] at taken
      split at taken
      · rename_i failed
        cases ok with
        | true =>
            cases taken
            exact sound_cleanUp sound at_ failed
        | false =>
            cases taken
            apply sound_idle sound at_ _ rfl
            · intro inode same
              cases same
            · rw [failed]
              exact fun _ => Pc.noConfusion
      · cases taken

end Preservation

theorem next_sound {pid : Nat} {target : Path} {old : Option (List UInt8)} (source : State)
    (label : Nat × Action) (after : State)
    (taken : Restrict (ofNext (next pid target)) (fun state label => opensAlone state label) source
      label after)
    (sound : Sound pid target old source) : Sound pid target old after := by
  obtain ⟨taken, alone⟩ := taken
  unfold ofNext next at taken
  split at taken
  · cases taken
  · rename_i call at_
    obtain ⟨⟨system, pc⟩, advanced, rfl⟩ := Option.map_eq_some_iff.mp taken
    exact advance_sound sound at_ alone advanced

theorem initial_sound (pid : Nat) (target : Path) (system : FileSystem Path)
    (contents : List (List UInt8))
    (apart : ∀ inode, system.names.lookup (temporary pid target) = some inode →
      system.names.lookup target ≠ some inode) :
    Sound pid target (system.read target) (initial system contents) := by
  have start : ∀ call ∈ (initial system contents).calls, call.pc = .start := by
    intro call member
    obtain ⟨bytes, _, rfl⟩ := List.mem_map.mp member
    rfl
  have leaves : ∀ call ∈ (initial system contents).calls, call.file = none := by
    intro call member
    unfold Call.file
    rw [start call member]
  constructor
  · refine ⟨Or.inl rfl, ?_⟩
    intro call member inode returned
    rw [start call member] at returned
    cases returned
  · intro first second call other atFirst atSecond holds _
    rw [leaves call (List.mem_of_getElem? atFirst)] at holds
    cases holds
  · intro call member inode bytes holds
    rw [leaves call member] at holds
    cases holds
  · intro inode named
    refine ⟨apart inode named, ?_⟩
    intro call member returned
    rw [start call member] at returned
    cases returned

/-- When no call opens the temporary file of another one, readers find the old contents or all
that one call has written, and a call that reports success has installed its own. -/
theorem writePrivate_whole (pid : Nat) (target : Path) (system : FileSystem Path)
    (contents : List (List UInt8))
    (apart : ∀ inode, system.names.lookup (temporary pid target) = some inode →
      system.names.lookup target ≠ some inode)
    {labels : List (Nat × Action)} {state : State}
    (run : Run (Restrict (ofNext (next pid target)) (fun state label => opensAlone state label))
      (initial system contents) labels state) :
    Whole target (system.read target) state :=
  (run.invariant (Sound pid target (system.read target)) (fun _ _ _ taken => next_sound _ _ _ taken)
    (initial_sound pid target system contents apart)).whole

def emptySystem : FileSystem Path :=
  { names := ∅
    files := []
    linked := by
      intro path inode found
      cases found }

def identityFile : Path := ("/data".toList, "aether.toml".toList)

/-- A call that writes everything at once, one system call after the other. -/
def allOf (call count : Nat) : List (Nat × Action) :=
  [(call, .createDirectory true), (call, .openFile), (call, .write count), (call, .close),
    (call, .setPermissions), (call, .rename)]

theorem writePrivate_whole_in_turn :
    ∃ state : State, state.system.read identityFile = some [3] ∧
      Whole identityFile (emptySystem.read identityFile) state := by
  have executed : (executeChecked (next 7 identityFile) opensAlone
      (initial emptySystem [[1, 2], [3]]) (allOf 0 2 ++ allOf 1 1)).map
        (fun state => state.system.read identityFile) = some (some [3]) := by
    rfl
  obtain ⟨state, reached, read⟩ := Option.map_eq_some_iff.mp executed
  refine ⟨state, read, ?_⟩
  apply writePrivate_whole 7 identityFile emptySystem [[1, 2], [3]] _ (run_of_executeChecked reached)
  intro inode found
  cases found

/-- The second call opens, and so empties, what the first one renames next. -/
theorem writePrivate_installs_empty_file :
    ¬ ∀ (pid : Nat) (target : Path) (system : FileSystem Path) (contents : List (List UInt8)),
      (∀ inode, system.names.lookup (temporary pid target) = some inode →
        system.names.lookup target ≠ some inode) →
      ∀ (labels : List (Nat × Action)) (state : State),
        Run (ofNext (next pid target)) (initial system contents) labels state →
          Whole target (system.read target) state := by
  intro always
  have executed : (execute (next 7 identityFile) (initial emptySystem [[1, 2], [3]])
      [(0, .createDirectory true), (1, .createDirectory true), (0, .openFile), (0, .write 2),
        (0, .close), (0, .setPermissions), (1, .openFile), (0, .rename)]).map
        (fun state => (state.calls, state.system.data 0)) =
      some ([⟨[1, 2], .returned (some 0)⟩, ⟨[3], .writing 0 0⟩], some []) := by
    rfl
  obtain ⟨state, reached, seen⟩ := Option.map_eq_some_iff.mp executed
  obtain ⟨calls, data⟩ := Prod.mk.inj seen
  have whole := always 7 identityFile emptySystem [[1, 2], [3]]
    (by intro inode found; cases found) _ state (run_of_execute reached)
  have installed := whole.installed ⟨[1, 2], .returned (some 0)⟩
    (by rw [calls]; exact List.mem_cons_self) 0 rfl
  rw [data] at installed
  cases installed

end MolidoVpn.Config
