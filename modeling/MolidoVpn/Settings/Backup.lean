import Mathlib.Data.Finset.Dedup
import Mathlib.Data.List.Dedup
import Mathlib.Logic.Function.Basic
import MolidoVpn.Lib.Json
import MolidoVpn.Lib.Text

/-!
Restoring a backup of the settings: the preference files are cleared and written one after the
other, and only then is it looked at whether there was anything to write.
-/

namespace MolidoVpn.Settings

/-- What the preferences keep; a float by its bits. -/
inductive Value where
  | boolean (value : Bool)
  | int (value : Int)
  | long (value : Int)
  | float (bits : UInt32)
  | string (value : List Char)
  | stringSet (value : Finset (List Char))
  deriving DecidableEq

/-- A preference file. -/
abbrev Prefs := List Char → Option Value

/-- All preference files of the app, by their names. -/
abbrev Store := List Char → Prefs

/-- What the code takes from `org.json`: how a text is read, and the number that a value is. -/
structure OrgJson where
  parse : List Char → Option (List (List Char × Json))
  toInteger : Json → Option Int
  toLong : Json → Option Int
  /-- The bits of the value as a float. -/
  toFloat : Json → Option UInt32

def appMarker : List Char := "MolidoVPN".toList

def format : Int := 1

def settingsFile : List Char := "settings".toList

def splitTunnelFile : List Char := "split_tunneling".toList

/-- `FILES` -/
def files : List (List Char) := [settingsFile, splitTunnelFile]

def transientKeys : List String :=
  ["last_ip", "last_exit_region", "shard_etag", "shard_last_check", "shard_last_count",
    "shard_last_paths", "policy_etag", "policy_last_check", "smart_split_etag",
    "smart_split_last_check", "psiphon_available_regions", "psiphon_winning_strategy",
    "psiphon_winning_strategy_shape", "psiphon_winning_strategy_chained",
    "psiphon_winning_strategy_chained_shape", "chain_outer_index", "plain_working_transport",
    "tor_winning_mode", "tor_winning_mode_chained", "auto_scan_done"]

def transientPrefixes : List String := ["smart_split_profile_"]

def transient (key : List Char) : Bool :=
  transientKeys.any (fun other => other.toList == key) ||
    transientPrefixes.any (fun start => start.toList.isPrefixOf key)

/-- `optJSONObject` -/
def optJsonObject (json : Json) (name : List Char) : Option (List (List Char × Json)) :=
  match json with
  | .object members =>
      match members.find? fun member => member.1 == name with
      | some (_, .object inner) => some inner
      | _ => none
  | _ => none

/-- `optBoolean` of a member that is there. -/
def toBoolean : Json → Bool
  | .bool value => value
  | .string value => value.map Char.toLower == "true".toList
  | _ => false

section Restore

variable (lib : OrgJson)

/-- The value that `writeValue` writes; nothing where the entry is malformed. -/
def decode (entry : Json) : Option Value := do
  let v ← entry.opt "v"
  match String.ofList (entry.optString "t") with
  | "b" => some (.boolean (toBoolean v))
  | "i" => some (.int ((lib.toInteger v).getD 0))
  | "l" => some (.long ((lib.toLong v).getD 0))
  -- The float that is no number.
  | "f" => some (.float ((lib.toFloat v).getD 0x7fc00000))
  | "s" => some (.string (entry.optString "v"))
  | "ss" =>
      match v with
      | .array items =>
          some (.stringSet
            ((items.map fun item => item.text.getD []).filter (· ≠ [])).toFinset)
      | _ => none
  | _ => none

/-- What a restore has done to the file at hand, and the counts. -/
structure Progress where
  editor : Prefs
  restored : Nat
  skipped : Nat

def restoreKey (file : List Char) (values : List (List Char × Json)) (progress : Progress)
    (key : List Char) : Progress :=
  if file = settingsFile && transient key then
    { progress with skipped := progress.skipped + 1 }
  else
    match (optJsonObject (.object values) key).bind fun entry => decode lib (.object entry) with
    | none => { progress with skipped := progress.skipped + 1 }
    | some value =>
        { progress with
          editor := Function.update progress.editor key (some value)
          restored := progress.restored + 1 }

/-- `keys` -/
def keysOf (values : List (List Char × Json)) : List (List Char) :=
  (values.map Prod.fst).dedup

/-- One file of the backup: the editor is cleared, filled and committed. -/
def restoreFile (prefs : Json) (progress : Store × Nat × Nat) (file : List Char) :
    Store × Nat × Nat :=
  match optJsonObject prefs file with
  | none => progress
  | some values =>
      let written := (keysOf values).foldl (restoreKey lib file values)
        { editor := fun _ => none
          restored := progress.2.1
          skipped := progress.2.2 }
      (Function.update progress.1 file written.editor, written.restored, written.skipped)

/-- The loop over the files, which counts what it restores and what it skips. -/
def restoreFiles (prefs : Json) (store : Store) : Store × Nat × Nat :=
  files.foldl (restoreFile lib prefs) (store, 0, 0)

structure Outcome where
  restored : Nat
  skipped : Nat
  version : List Char
  deriving DecidableEq

/-- What a restore throws. -/
inductive Refusal where
  | notBackup
  | otherApp
  | newerVersion
  | noSettings
  deriving DecidableEq

def Refusal.message : Refusal → String
  | notBackup => "This file is not a settings backup"
  | otherApp => "This backup belongs to another app"
  | newerVersion => "This backup was made by a newer version"
  | noSettings => "This backup carries no settings"

/-- The checks of `restore` before it touches a file: the `prefs` of the backup and its version. -/
def readBackup (text : List Char) : Except Refusal (Json × List Char) :=
  match lib.parse text with
  | none => .error .notBackup
  | some members =>
      let root := Json.object members
      if root.optString "app" ≠ appMarker then .error .otherApp
      else
        let made := ((root.opt "format").bind lib.toInteger).getD (-1)
        if made < 1 ∨ format < made then .error .newerVersion
        else
          match optJsonObject root "prefs".toList with
          | none => .error .noSettings
          | some prefs =>
              .ok (.object prefs, ((root.opt "version").bind Json.text).getD "?".toList)

def restore (store : Store) (text : List Char) : Except Refusal Outcome × Store :=
  match readBackup lib text with
  | .error refusal => (.error refusal, store)
  | .ok (prefs, version) =>
      let written := restoreFiles lib prefs store
      if written.2.1 = 0 then (.error .noSettings, written.1)
      else
        (.ok { restored := written.2.1, skipped := written.2.2, version := version }, written.1)

end Restore

section Claim

variable (lib : OrgJson)

/-- The value of a key in a file of the backup, without the measurements. -/
def decodedFile (prefs : Json) (file key : List Char) : Option Value :=
  if file = settingsFile && transient key then none
  else
    (optJsonObject prefs file).bind fun values =>
      (optJsonObject (.object values) key).bind fun entry => decode lib (.object entry)

/-- The backup has a value that can be restored. -/
def HasValue (prefs : Json) : Prop :=
  ∃ file ∈ files, ∃ key, decodedFile lib prefs file key ≠ none

/-- A restore that returns has left exactly the values of the backup in the files that it covers,
and one that throws has left everything as it was. -/
def Atomic (store : Store) (text : List Char) : Prop :=
  match restore lib store text with
  | (.ok _, after) =>
      ∃ prefs version, readBackup lib text = .ok (prefs, version) ∧
        ∀ file, after file = if file ∈ files then decodedFile lib prefs file else store file
  | (.error _, after) => after = store

/-- A backup without a value that can be restored has no object for a file that holds something;
any other has one for every file that does. -/
def Spares (store : Store) (text : List Char) : Prop :=
  ∀ prefs version, readBackup lib text = .ok (prefs, version) →
    ∀ file ∈ files,
      (HasValue lib prefs → optJsonObject prefs file = none → store file = fun _ => none) ∧
      (¬HasValue lib prefs → optJsonObject prefs file ≠ none → store file = fun _ => none)

variable {lib} {prefs : Json} {file : List Char} {values : List (List Char × Json)}

theorem decodedFile_of_values (found : optJsonObject prefs file = some values) (key : List Char) :
    decodedFile lib prefs file key =
      if file = settingsFile && transient key then none
      else (optJsonObject (.object values) key).bind fun entry => decode lib (.object entry) := by
  rw [decodedFile, found]
  rfl

theorem decodedFile_of_none (missing : optJsonObject prefs file = none) :
    decodedFile lib prefs file = fun _ => none := by
  funext key
  rw [decodedFile, missing]
  exact ite_self none

theorem optJsonObject_of_notMem {key : List Char} (missing : key ∉ keysOf values) :
    optJsonObject (.object values) key = none := by
  unfold optJsonObject
  have absent : values.find? (fun member => member.1 == key) = none := by
    rw [List.find?_eq_none]
    intro member there same
    apply missing
    rw [keysOf, List.mem_dedup, ← beq_iff_eq.mp same]
    exact List.mem_map_of_mem there
  simp only [absent]

/-- One key: its value is written and counted, or it is skipped. -/
theorem restoreKey_eq (found : optJsonObject prefs file = some values) (progress : Progress)
    (key : List Char) :
    restoreKey lib file values progress key =
      match decodedFile lib prefs file key with
      | none => { progress with skipped := progress.skipped + 1 }
      | some value =>
          { progress with
            editor := Function.update progress.editor key (some value)
            restored := progress.restored + 1 } := by
  rw [decodedFile_of_values found, restoreKey]
  split
  · rfl
  · rfl

variable (lib) in
/-- What the loop over the keys leaves in the editor, and when it has restored nothing. -/
theorem foldl_restoreKey (found : optJsonObject prefs file = some values) (keys : List (List Char))
    (progress : Progress) :
    (∀ key, (keys.foldl (restoreKey lib file values) progress).editor key =
      if key ∈ keys ∧ decodedFile lib prefs file key ≠ none then decodedFile lib prefs file key
      else progress.editor key) ∧
    ((keys.foldl (restoreKey lib file values) progress).restored = 0 ↔
      progress.restored = 0 ∧ ∀ key ∈ keys, decodedFile lib prefs file key = none) := by
  induction keys generalizing progress with
  | nil => simp
  | cons first rest ih =>
      rw [List.foldl_cons, restoreKey_eq found]
      cases decoded : decodedFile lib prefs file first with
      | none =>
          obtain ⟨editor, restored⟩ := ih { progress with skipped := progress.skipped + 1 }
          constructor
          · intro key
            rw [editor key]
            by_cases same : key = first
            · subst same
              simp [decoded]
            · simp [same]
          · rw [restored, List.forall_mem_cons]
            simp [decoded]
      | some value =>
          obtain ⟨editor, restored⟩ := ih
            { progress with
              editor := Function.update progress.editor first (some value)
              restored := progress.restored + 1 }
          constructor
          · intro key
            rw [editor key]
            by_cases same : key = first
            · subst same
              simp [decoded]
            · simp [same]
          · rw [restored, List.forall_mem_cons]
            simp [decoded]

variable (lib) in
/-- One file: it holds the values of the backup, if the backup has an object for it. -/
theorem restoreFile_spec (prefs : Json) (progress : Store × Nat × Nat) (file : List Char) :
    (∀ other, (restoreFile lib prefs progress file).1 other =
      if other = file ∧ optJsonObject prefs file ≠ none then decodedFile lib prefs file
      else progress.1 other) ∧
    ((restoreFile lib prefs progress file).2.1 = 0 ↔
      progress.2.1 = 0 ∧ ∀ key, decodedFile lib prefs file key = none) := by
  unfold restoreFile
  split
  · rename_i missing
    rw [decodedFile_of_none missing]
    simp [missing]
  · rename_i values found
    obtain ⟨editor, restored⟩ := foldl_restoreKey lib found (keysOf values)
      { editor := fun _ => none, restored := progress.2.1, skipped := progress.2.2 }
    have absent (key : List Char) (missing : key ∉ keysOf values) :
        decodedFile lib prefs file key = none := by
      rw [decodedFile_of_values found, optJsonObject_of_notMem missing]
      exact ite_self none
    dsimp only
    constructor
    · intro other
      by_cases same : other = file
      · subst same
        rw [if_pos ⟨rfl, by rw [found]; exact Option.some_ne_none values⟩, Function.update_self]
        funext key
        rw [editor key]
        split
        · rfl
        · rename_i unwritten
          by_cases member : key ∈ keysOf values
          · exact (not_not.mp fun some_ => unwritten ⟨member, some_⟩).symm
          · exact (absent key member).symm
      · rw [if_neg fun both => same both.1, Function.update_of_ne same]
    · rw [restored]
      apply and_congr_right
      intro _
      constructor
      · intro none_ key
        by_cases member : key ∈ keysOf values
        · exact none_ key member
        · exact absent key member
      · exact fun none_ key _ => none_ key

variable (lib) in
/-- Both files: what they hold in the end, and when nothing has been restored. -/
theorem restoreFiles_spec (prefs : Json) (store : Store) :
    (∀ file, (restoreFiles lib prefs store).1 file =
      if file ∈ files ∧ optJsonObject prefs file ≠ none then decodedFile lib prefs file
      else store file) ∧
    ((restoreFiles lib prefs store).2.1 = 0 ↔ ¬HasValue lib prefs) := by
  have first := restoreFile_spec lib prefs (store, 0, 0) settingsFile
  have second := restoreFile_spec lib prefs
    (restoreFile lib prefs (store, 0, 0) settingsFile) splitTunnelFile
  have different : settingsFile ≠ splitTunnelFile := by decide
  have listed (file : List Char) :
      file ∈ files ↔ file = settingsFile ∨ file = splitTunnelFile := by
    rw [files, List.mem_cons, List.mem_singleton]
  constructor
  · intro file
    change (restoreFile lib prefs (restoreFile lib prefs (store, 0, 0) settingsFile)
      splitTunnelFile).1 file = _
    rw [second.1, first.1]
    by_cases atSecond : file = splitTunnelFile
    · subst atSecond
      simp [listed, different.symm]
    · by_cases atFirst : file = settingsFile
      · subst atFirst
        simp [listed, different]
      · simp [listed, atFirst, atSecond]
  · change (restoreFile lib prefs (restoreFile lib prefs (store, 0, 0) settingsFile)
      splitTunnelFile).2.1 = 0 ↔ _
    rw [second.2, first.2]
    unfold HasValue
    constructor
    · rintro ⟨⟨_, none_⟩, noneToo⟩ ⟨file, member, key, value⟩
      rcases (listed file).mp member with rfl | rfl
      · exact value (none_ key)
      · exact value (noneToo key)
    · intro empty
      have none_ (file : List Char) (member : file ∈ files) (key : List Char) :
          decodedFile lib prefs file key = none :=
        not_not.mp fun value => empty ⟨file, member, key, value⟩
      exact ⟨⟨rfl, none_ settingsFile ((listed _).mpr (.inl rfl))⟩,
        none_ splitTunnelFile ((listed _).mpr (.inr rfl))⟩

/-- A restore is all or nothing exactly if it spares what its backup has no values for. -/
theorem restore_atomic_iff (lib : OrgJson) (store : Store) (text : List Char) :
    Atomic lib store text ↔ Spares lib store text := by
  unfold Atomic Spares restore
  cases read : readBackup lib text with
  | error refusal =>
      refine ⟨fun _ _ _ accepted => ?_, fun _ => rfl⟩
      cases accepted
  | ok backup =>
      obtain ⟨prefs, version⟩ := backup
      obtain ⟨holds, nothing⟩ := restoreFiles_spec lib prefs store
      dsimp only
      by_cases none_ : (restoreFiles lib prefs store).2.1 = 0
      · have empty := nothing.mp none_
        have nowhere (file : List Char) (member : file ∈ files) :
            decodedFile lib prefs file = fun _ => none := by
          funext key
          exact not_not.mp fun value => empty ⟨file, member, key, value⟩
        rw [if_pos none_]
        constructor
        · rintro same _ _ ⟨⟩ file member
          refine ⟨fun value => absurd value empty, fun _ carried => ?_⟩
          rw [← same, holds file, if_pos ⟨member, carried⟩, nowhere file member]
        · intro spared
          funext file
          rw [holds file]
          split
          · rename_i both
            rw [nowhere file both.1, (spared prefs version rfl file both.1).2 empty both.2]
          · rfl
      · have value := not_not.mp fun empty => none_ (nothing.mpr empty)
        rw [if_neg none_]
        constructor
        · rintro ⟨_, _, ⟨⟩, exact_⟩ _ _ ⟨⟩ file member
          refine ⟨fun _ missing => ?_, fun empty => absurd value empty⟩
          have now := exact_ file
          rw [if_pos member, holds file, if_neg fun both => both.2 missing,
            decodedFile_of_none missing] at now
          exact now
        · intro spared
          refine ⟨prefs, version, rfl, fun file => ?_⟩
          rw [holds file]
          by_cases member : file ∈ files
          · by_cases missing : optJsonObject prefs file = none
            · rw [if_neg fun both => both.2 missing, if_pos member, decodedFile_of_none missing]
              exact (spared prefs version rfl file member).1 value missing
            · rw [if_pos ⟨member, missing⟩, if_pos member]
          · rw [if_neg fun both => member both.1, if_neg member]

end Claim

section Rejected

theorem Atomic.unchanged {lib : OrgJson} {store : Store} {text : List Char} {refusal : Refusal}
    (atomic : Atomic lib store text) (refused : (restore lib store text).1 = .error refusal) :
    (restore lib store text).2 = store := by
  unfold Atomic at atomic
  split at atomic
  · rename_i outcome after same
    rw [same] at refused
    cases refused
  · rename_i other after same
    rw [same]
    exact atomic

theorem Atomic.exact_ {lib : OrgJson} {store : Store} {text : List Char} {outcome : Outcome}
    {prefs : Json} {version : List Char} (atomic : Atomic lib store text)
    (returned : (restore lib store text).1 = .ok outcome)
    (read : readBackup lib text = .ok (prefs, version)) :
    ∀ file ∈ files, (restore lib store text).2 file = decodedFile lib prefs file := by
  unfold Atomic at atomic
  split at atomic
  · rename_i other after same
    obtain ⟨_, _, again, holds⟩ := atomic
    cases read.symm.trans again
    intro file member
    rw [same]
    exact (holds file).trans (if_pos member)
  · rename_i refusal after same
    rw [same] at returned
    cases returned

/-- A backup whose settings are empty. -/
def emptied : List Char :=
  "\x7b\"app\":\"MolidoVPN\",\"format\":1,\"prefs\":\x7b\"settings\":\x7b\x7d\x7d\x7d".toList

/-- A backup of the settings alone, with one value. -/
def settingsOnly : List Char :=
  ("\x7b\"app\":\"MolidoVPN\",\"format\":1,\"prefs\":\x7b\"settings\":" ++
    "\x7b\"socks_port\":\x7b\"t\":\"i\",\"v\":1\x7d\x7d\x7d\x7d").toList

/-- A reader that knows these two texts and the number one. -/
def readingLib : OrgJson :=
  let root (settings : Json) : List (List Char × Json) :=
    [("app".toList, .str "MolidoVPN"), ("format".toList, .int 1),
      ("prefs".toList, .obj [("settings", settings)])]
  { parse := fun text =>
      if text = emptied then some (root (.obj []))
      else if text = settingsOnly then
        some (root (.obj [("socks_port", .obj [("t", .str "i"), ("v", .int 1)])]))
      else none
    toInteger := fun json => if json.text = some ['1'] then some 1 else none
    toLong := fun json => if json.text = some ['1'] then some 1 else none
    toFloat := fun _ => none }

/-- Something chosen in each of the two files. -/
def chosen : Store := fun file key =>
  if file = settingsFile ∧ key = "protocol".toList then some (.string "psiphon".toList)
  else if file = splitTunnelFile ∧ key = "enabled".toList then some (.boolean true)
  else none

theorem restore_emptied : (restore readingLib chosen emptied).1 = .error .noSettings ∧
    (restore readingLib chosen emptied).2 settingsFile "protocol".toList = none := by
  decide +kernel

theorem restore_settingsOnly : ∃ prefs version outcome,
    readBackup readingLib settingsOnly = .ok (prefs, version) ∧
      (restore readingLib chosen settingsOnly).1 = .ok outcome ∧
      optJsonObject prefs splitTunnelFile = none ∧
      (restore readingLib chosen settingsOnly).2 splitTunnelFile "enabled".toList =
        some (.boolean true) :=
  ⟨_, _, _, rfl, rfl, rfl, rfl⟩

/-- A backup that is refused clears the settings, and one that is taken leaves the split tunnel as
it was although it has no values for it. -/
theorem chosen_lost :
    ¬Atomic readingLib chosen emptied ∧ ¬Atomic readingLib chosen settingsOnly := by
  constructor
  · intro atomic
    have kept := atomic.unchanged restore_emptied.1
    have gone := restore_emptied.2
    rw [kept] at gone
    revert gone
    decide +kernel
  · intro atomic
    obtain ⟨prefs, version, outcome, read, returned, missing, there⟩ := restore_settingsOnly
    have holds := atomic.exact_ returned read splitTunnelFile (by decide)
    rw [holds, decodedFile_of_none missing] at there
    cases there

end Rejected

end MolidoVpn.Settings
