import MolidoVpn.Settings.Backup
import Std.Data.String.ToInt

/-!
What `export` writes of the preferences, and when `restore` reads exactly the same values from it.
-/

namespace MolidoVpn.Settings

/-- A value that the preferences can hold. -/
def Value.Fits : Value → Prop
  | .int value => -2 ^ 31 ≤ value ∧ value < 2 ^ 31
  | .long value => -2 ^ 63 ≤ value ∧ value < 2 ^ 63
  | _ => True

/-- What `all` of a preference file gives, in the order of the map. -/
structure Entries where
  entries : List (List Char × Value)
  distinct : (entries.map Prod.fst).Nodup
  fits : ∀ entry ∈ entries, entry.2.Fits

/-- `org.json` with its writing side: the number that the double of a float is, and the text of an
object. -/
structure OrgJsonText extends OrgJson where
  double : UInt32 → Json
  write : List (List Char × Json) → List Char

/-- Neither infinite nor no number. -/
def isFinite (bits : UInt32) : Bool := (bits &&& 0x7f800000) != 0x7f800000

section Export

variable (lib : OrgJsonText) (order : Finset (List Char) → List (List Char))

/-- `JSONObject().put("t", type).put("v", value)` -/
def typed (type : String) (value : Json) : Json := .obj [("t", .str type), ("v", value)]

/-- `put` of a double, which throws where it is not finite. -/
def checkDouble (bits : UInt32) : Option Json :=
  if isFinite bits then some (lib.double bits) else none

/-- Nothing where it throws. A set is written in the order of its iteration. -/
def encode : Value → Option Json
  | .boolean value => some (typed "b" (.bool value))
  | .int value => some (typed "i" (.int value))
  | .long value => some (typed "l" (.int value))
  | .float bits => (checkDouble lib bits).map (typed "f")
  | .string value => some (typed "s" (.string value))
  | .stringSet value => some (typed "ss" (.array ((order value).map .string)))

def exportable (file : List Char) (saved : Entries) : List (List Char × Value) :=
  saved.entries.filter fun entry => !(file = settingsFile && transient entry.1)

def exportFile (file : List Char) (saved : Entries) : Option (List (List Char × Json)) :=
  (exportable file saved).mapM fun entry =>
    (encode lib order entry.2).map fun value => (entry.1, value)

/-- The object of a backup. -/
def exportRoot (saved : List Char → Entries) (version : List Char) (created : Int) :
    Option (List (List Char × Json)) :=
  (files.mapM fun file =>
    (exportFile lib order file (saved file)).map fun values => (file, Json.object values)).map
    fun prefs =>
      [("app".toList, .string appMarker), ("format".toList, .int format),
        ("version".toList, .string version), ("created".toList, .int created),
        ("prefs".toList, .object prefs)]

/-- `export`; nothing where it throws. -/
def exportText (saved : List Char → Entries) (version : List Char) (created : Int) :
    Option (List Char) :=
  (exportRoot lib order saved version created).map lib.write

end Export

section Values

variable {lib : OrgJsonText} {order : Finset (List Char) → List (List Char)}

/-- Numbers of the ranges of the types come back. -/
structure OrgJsonText.Numbers (lib : OrgJsonText) : Prop where
  int : ∀ value, -2 ^ 31 ≤ value → value < 2 ^ 31 → lib.toInteger (.int value) = some value
  long : ∀ value, -2 ^ 63 ≤ value → value < 2 ^ 63 → lib.toLong (.int value) = some value
  float : ∀ bits, isFinite bits = true → lib.toFloat (lib.double bits) = some bits

/-- What is read of a value that was written. -/
def readBack : Value → Value
  | .stringSet value => .stringSet (value.erase [])
  | value => value

def Value.Writes : Value → Prop
  | .float bits => isFinite bits = true
  | _ => True

/-- No float that is not finite and no set with the empty string. -/
def Value.Portable : Value → Prop
  | .float bits => isFinite bits = true
  | .stringSet value => [] ∉ value
  | _ => True

theorem Value.portable_iff (value : Value) :
    value.Portable ↔ value.Writes ∧ readBack value = value := by
  cases value with
  | boolean value => exact ⟨fun _ => ⟨trivial, rfl⟩, fun _ => trivial⟩
  | int value => exact ⟨fun _ => ⟨trivial, rfl⟩, fun _ => trivial⟩
  | long value => exact ⟨fun _ => ⟨trivial, rfl⟩, fun _ => trivial⟩
  | float bits => exact ⟨fun finite => ⟨finite, rfl⟩, fun both => both.1⟩
  | string value => exact ⟨fun _ => ⟨trivial, rfl⟩, fun _ => trivial⟩
  | stringSet value =>
      constructor
      · intro clear
        exact ⟨trivial, congrArg Value.stringSet (Finset.erase_eq_of_notMem clear)⟩
      · rintro ⟨-, same⟩
        exact Finset.erase_eq_self.mp (Value.stringSet.inj same)

variable (lib order) in
theorem encode_isSome_iff (value : Value) :
    (encode lib order value).isSome = true ↔ value.Writes := by
  cases value with
  | float bits =>
      rw [encode, Option.isSome_map, checkDouble, Value.Writes]
      split
      · rename_i finite
        exact iff_of_true rfl finite
      · rename_i infinite
        exact iff_of_false Bool.false_ne_true infinite
  | boolean value => exact iff_of_true rfl trivial
  | int value => exact iff_of_true rfl trivial
  | long value => exact iff_of_true rfl trivial
  | string value => exact iff_of_true rfl trivial
  | stringSet value => exact iff_of_true rfl trivial

private theorem opt_typed (type : String) (value : Json) :
    (typed type value).opt "v" = some value ∧
      (typed type value).optString "t" = type.toList := by
  simp [typed, Json.optString]

theorem decode_typed (type : String) (value : Json) :
    decode lib.toOrgJson (typed type value) =
      match type with
      | "b" => some (.boolean (toBoolean value))
      | "i" => some (.int ((lib.toInteger value).getD 0))
      | "l" => some (.long ((lib.toLong value).getD 0))
      | "f" => some (.float ((lib.toFloat value).getD 0x7fc00000))
      | "s" => some (.string (value.text.getD []))
      | "ss" =>
          match value with
          | .array items =>
              some (.stringSet
                ((items.map fun item => item.text.getD []).filter (· ≠ [])).toFinset)
          | _ => none
      | _ => none := by
  obtain ⟨inner, kind⟩ := opt_typed type value
  have text : (typed type value).optString "v" = value.text.getD [] := by
    rw [Json.optString, inner]
    rfl
  unfold decode
  rw [inner, kind, text, String.ofList_toList]
  rfl

/-- One value there and back. -/
theorem decode_encode (numbers : lib.Numbers) (listed : ∀ set, (order set).toFinset = set)
    {value : Value} (fits : value.Fits) {entry : Json}
    (written : encode lib order value = some entry) :
    decode lib.toOrgJson entry = some (readBack value) := by
  cases value with
  | boolean value =>
      obtain rfl := Option.some.inj written
      exact decode_typed "b" _
  | int value =>
      obtain rfl := Option.some.inj written
      rw [decode_typed]
      change some (Value.int ((lib.toInteger (.int value)).getD 0)) = _
      rw [numbers.int value fits.1 fits.2]
      rfl
  | long value =>
      obtain rfl := Option.some.inj written
      rw [decode_typed]
      change some (Value.long ((lib.toLong (.int value)).getD 0)) = _
      rw [numbers.long value fits.1 fits.2]
      rfl
  | float bits =>
      obtain ⟨double, checked, rfl⟩ := Option.map_eq_some_iff.mp written
      rw [checkDouble] at checked
      split at checked
      · rename_i finite
        obtain rfl := Option.some.inj checked
        rw [decode_typed]
        change some (Value.float ((lib.toFloat (lib.double bits)).getD _)) = _
        rw [numbers.float bits finite]
        rfl
      · cases checked
  | string value =>
      obtain rfl := Option.some.inj written
      exact decode_typed "s" _
  | stringSet value =>
      obtain rfl := Option.some.inj written
      rw [decode_typed]
      change some (Value.stringSet ((((order value).map Json.string).map
        fun item => item.text.getD []).filter (· ≠ [])).toFinset) = _
      have same : ((order value).map Json.string).map (fun item => item.text.getD []) =
          order value := by
        rw [List.map_map]
        exact List.map_id _
      rw [same, readBack]
      congr 2
      ext member
      rw [List.mem_toFinset, List.mem_filter, Finset.mem_erase, ← List.mem_toFinset, listed,
        decide_eq_true_eq, and_comm]

end Values

section RoundTrip

variable {lib : OrgJsonText} {order : Finset (List Char) → List (List Char)}
  {saved : List Char → Entries} {version : List Char} {created : Int}

/-- What is to be given back of a file: its values without the measurements. -/
def kept (saved : List Char → Entries) (file key : List Char) : Option Value :=
  ((exportable file (saved file)).find? fun entry => entry.1 == key).map Prod.snd

/-- An export that succeeds, and a restore of it onto any device that leaves exactly its values in
the files that it covers. Without a value there is nothing to restore, and `restore` says so. -/
def GivenBack (lib : OrgJsonText) (order : Finset (List Char) → List (List Char))
    (saved : List Char → Entries) (version : List Char) (created : Int) : Prop :=
  ∃ text, exportText lib order saved version created = some text ∧ ∀ store,
    (∀ file, (restore lib.toOrgJson store text).2 file =
      if file ∈ files then kept saved file else store file) ∧
    ((∃ outcome, (restore lib.toOrgJson store text).1 = .ok outcome) ↔
      ∃ file ∈ files, exportable file (saved file) ≠ [])

/-- The objects for the values, name by name. -/
theorem find_mapM {entries : List (List Char × Value)} {values : List (List Char × Json)}
    (written : (entries.mapM fun entry =>
      (encode lib order entry.2).map fun value => (entry.1, value)) = some values)
    (key : List Char) :
    (values.find? fun member => member.1 == key).map Prod.snd =
      (entries.find? fun entry => entry.1 == key).bind fun entry => encode lib order entry.2 := by
  induction entries generalizing values with
  | nil =>
      obtain rfl := Option.some.inj written
      rfl
  | cons entry rest ih =>
      rw [List.mapM_cons] at written
      obtain ⟨member, first, written⟩ := Option.bind_eq_some_iff.mp written
      obtain ⟨later, others, written⟩ := Option.bind_eq_some_iff.mp written
      obtain rfl := Option.some.inj written
      obtain ⟨value, encoded, rfl⟩ := Option.map_eq_some_iff.mp first
      rw [List.find?_cons, List.find?_cons]
      by_cases same : (entry.1 == key) = true
      · rw [same]
        exact encoded.symm
      · rw [Bool.not_eq_true] at same
        rw [same]
        exact ih others

variable (lib order) in
theorem mapM_isSome_iff (entries : List (List Char × Value)) :
    (entries.mapM fun entry =>
      (encode lib order entry.2).map fun value => (entry.1, value)).isSome = true ↔
      ∀ entry ∈ entries, entry.2.Writes := by
  induction entries with
  | nil => exact iff_of_true rfl fun entry member => absurd member List.not_mem_nil
  | cons entry rest ih =>
      rw [List.mapM_cons, List.forall_mem_cons, ← ih, ← encode_isSome_iff lib order]
      cases encode lib order entry.2 with
      | none => exact iff_of_false Bool.false_ne_true fun both => Bool.false_ne_true both.1
      | some value =>
          cases rest.mapM fun entry =>
            (encode lib order entry.2).map fun value => (entry.1, value) with
          | none => exact iff_of_false Bool.false_ne_true fun both => Bool.false_ne_true both.2
          | some later => exact iff_of_true rfl ⟨rfl, rfl⟩

theorem optJsonObject_eq (values : List (List Char × Json)) (key : List Char) :
    optJsonObject (.object values) key =
      match (values.find? fun member => member.1 == key).map Prod.snd with
      | some (.object inner) => some inner
      | _ => none := by
  unfold optJsonObject
  dsimp only
  cases values.find? fun member => member.1 == key with
  | none => rfl
  | some member =>
      obtain ⟨name, value⟩ := member
      cases value <;> rfl

theorem encode_object {value : Value} {entry : Json} (written : encode lib order value = some entry) :
    ∃ inner, entry = .object inner := by
  cases value with
  | float bits =>
      obtain ⟨double, -, rfl⟩ := Option.map_eq_some_iff.mp written
      exact ⟨_, rfl⟩
  | boolean value => exact ⟨_, (Option.some.inj written).symm⟩
  | int value => exact ⟨_, (Option.some.inj written).symm⟩
  | long value => exact ⟨_, (Option.some.inj written).symm⟩
  | string value => exact ⟨_, (Option.some.inj written).symm⟩
  | stringSet value => exact ⟨_, (Option.some.inj written).symm⟩

theorem transient_of_exportable {file key : List Char} {value : Value}
    (found : kept saved file key = some value) : (file = settingsFile && transient key) = false := by
  obtain ⟨entry, there, -⟩ := Option.map_eq_some_iff.mp found
  have found := List.find?_some there
  have named := beq_iff_eq.mp found
  have plain := (List.mem_filter.mp (List.mem_of_find?_eq_some there)).2
  rw [named, Bool.not_eq_true'] at plain
  exact plain

theorem fits_of_kept {file key : List Char} {value : Value}
    (found : kept saved file key = some value) : value.Fits := by
  obtain ⟨entry, there, rfl⟩ := Option.map_eq_some_iff.mp found
  exact (saved file).fits entry (List.mem_filter.mp (List.mem_of_find?_eq_some there)).1

/-- What restoring a file of the export reads for a key. -/
theorem decodedFile_export (numbers : lib.Numbers) (listed : ∀ set, (order set).toFinset = set)
    {prefs : Json} {file : List Char} {values : List (List Char × Json)}
    (written : exportFile lib order file (saved file) = some values)
    (found : optJsonObject prefs file = some values) (key : List Char) :
    decodedFile lib.toOrgJson prefs file key = (kept saved file key).map readBack := by
  have member := find_mapM written key
  rw [decodedFile_of_values found, optJsonObject_eq, member]
  cases stored : kept saved file key with
  | none =>
      have absent : (exportable file (saved file)).find? (fun entry => entry.1 == key) = none :=
        Option.map_eq_none_iff.mp stored
      rw [absent]
      exact ite_self none
  | some value =>
      obtain ⟨entry, there, rfl⟩ := Option.map_eq_some_iff.mp stored
      have all : ∀ entry ∈ exportable file (saved file), entry.2.Writes := by
        rw [← mapM_isSome_iff lib order]
        exact Option.isSome_iff_exists.mpr ⟨values, written⟩
      have writes := all entry (List.mem_of_find?_eq_some there)
      rw [← encode_isSome_iff lib order, Option.isSome_iff_exists] at writes
      obtain ⟨object, encoded⟩ := writes
      obtain ⟨inner, rfl⟩ := encode_object encoded
      rw [transient_of_exportable stored, there, Option.bind_some, encoded]
      exact decode_encode numbers listed (fits_of_kept stored) encoded

private theorem exportRoot_eq {values others : List (List Char × Json)}
    (first : exportFile lib order settingsFile (saved settingsFile) = some values)
    (second : exportFile lib order splitTunnelFile (saved splitTunnelFile) = some others) :
    exportRoot lib order saved version created =
      some [("app".toList, .string appMarker), ("format".toList, .int format),
        ("version".toList, .string version), ("created".toList, .int created),
        ("prefs".toList,
          .object [(settingsFile, .object values), (splitTunnelFile, .object others)])] := by
  unfold exportRoot files
  rw [List.mapM_cons, List.mapM_cons, List.mapM_nil, first, second]
  rfl

theorem exportRoot_isSome_iff :
    (exportRoot lib order saved version created).isSome = true ↔
      ∀ file ∈ files, ∀ entry ∈ exportable file (saved file), entry.2.Writes := by
  have each (file : List Char) :
      (exportFile lib order file (saved file)).isSome = true ↔
        ∀ entry ∈ exportable file (saved file), entry.2.Writes :=
    mapM_isSome_iff lib order _
  rw [files, List.forall_mem_cons, List.forall_mem_singleton, ← each, ← each]
  cases first : exportFile lib order settingsFile (saved settingsFile) with
  | none =>
      refine iff_of_false ?_ fun both => Bool.false_ne_true both.1
      unfold exportRoot files
      rw [List.mapM_cons, first]
      exact Bool.false_ne_true
  | some values =>
      cases second : exportFile lib order splitTunnelFile (saved splitTunnelFile) with
      | none =>
          refine iff_of_false ?_ fun both => Bool.false_ne_true both.2
          unfold exportRoot files
          rw [List.mapM_cons, List.mapM_cons, first, second]
          exact Bool.false_ne_true
      | some others =>
          rw [exportRoot_eq first second]
          exact iff_of_true rfl ⟨rfl, rfl⟩

/-- The backup that is read back has an object with its values for each file. -/
theorem readBackup_export (numbers : lib.Numbers) {root : List (List Char × Json)}
    (exported : exportRoot lib order saved version created = some root)
    (read : lib.parse (lib.write root) = some root) :
    ∃ prefs, readBackup lib.toOrgJson (lib.write root) = .ok (prefs, version) ∧
      ∀ file ∈ files, ∃ values, exportFile lib order file (saved file) = some values ∧
        optJsonObject prefs file = some values := by
  have writes := exportRoot_isSome_iff.mp (Option.isSome_iff_exists.mpr ⟨root, exported⟩)
  have each (file : List Char) (member : file ∈ files) :
      ∃ values, exportFile lib order file (saved file) = some values :=
    Option.isSome_iff_exists.mp ((mapM_isSome_iff lib order _).mpr (writes file member))
  obtain ⟨values, first⟩ := each settingsFile List.mem_cons_self
  obtain ⟨others, second⟩ := each splitTunnelFile (List.mem_cons_of_mem _ List.mem_cons_self)
  obtain rfl := Option.some.inj ((exportRoot_eq first second).symm.trans exported)
  refine ⟨.object [(settingsFile, .object values), (splitTunnelFile, .object others)], ?_, ?_⟩
  · have made : lib.toInteger (.int 1) = some 1 := numbers.int 1 (by decide) (by decide)
    let root : Json := .object [("app".toList, .string appMarker), ("format".toList, .int format),
      ("version".toList, .string version), ("created".toList, .int created),
      ("prefs".toList,
        .object [(settingsFile, .object values), (splitTunnelFile, .object others)])]
    have app : root.optString "app" = appMarker := rfl
    have number : (root.opt "format").bind lib.toInteger = some 1 := made
    have prefs : optJsonObject root "prefs".toList =
        some [(settingsFile, .object values), (splitTunnelFile, .object others)] := rfl
    have given : (root.opt "version").bind Json.text = some version := rfl
    have known : ¬((1 : Int) < 1 ∨ format < 1) := by decide
    unfold readBackup
    rw [read]
    dsimp only
    rw [if_neg fun other => other app, number, Option.getD_some, if_neg known, prefs, given]
    rfl
  · intro file member
    rw [files, List.mem_cons, List.mem_singleton] at member
    rcases member with rfl | rfl
    · exact ⟨values, first, rfl⟩
    · exact ⟨others, second, rfl⟩

theorem kept_of_mem {file : List Char} {entry : List Char × Value}
    (member : entry ∈ exportable file (saved file)) : kept saved file entry.1 = some entry.2 := by
  have distinct : ((exportable file (saved file)).map Prod.fst).Nodup :=
    (saved file).distinct.sublist (List.filter_sublist.map Prod.fst)
  unfold kept
  generalize exportable file (saved file) = entries at member distinct ⊢
  induction entries with
  | nil => cases member
  | cons first rest ih =>
      rw [List.map_cons, List.nodup_cons] at distinct
      rw [List.find?_cons]
      rcases List.mem_cons.mp member with rfl | later
      · rw [beq_self_eq_true]
        rfl
      · have other : (first.1 == entry.1) = false := by
          rw [beq_eq_false_iff_ne]
          intro same
          exact distinct.1 (same ▸ List.mem_map_of_mem later)
        rw [other]
        exact ih later distinct.2

theorem exists_kept_iff (file : List Char) :
    (∃ key, kept saved file key ≠ none) ↔ exportable file (saved file) ≠ [] := by
  constructor
  · rintro ⟨key, there⟩ none_
    rw [kept, none_] at there
    exact there rfl
  · intro some_
    obtain ⟨entry, member⟩ := List.exists_mem_of_ne_nil _ some_
    refine ⟨entry.1, ?_⟩
    rw [kept_of_mem member]
    exact Option.some_ne_none entry.2

/-- Restoring an export, whatever was there before. -/
theorem restore_export (numbers : lib.Numbers) (listed : ∀ set, (order set).toFinset = set)
    {root : List (List Char × Json)}
    (exported : exportRoot lib order saved version created = some root)
    (read : lib.parse (lib.write root) = some root) (store : Store) :
    (∀ file, (restore lib.toOrgJson store (lib.write root)).2 file =
      if file ∈ files then fun key => (kept saved file key).map readBack else store file) ∧
    ((∃ outcome, (restore lib.toOrgJson store (lib.write root)).1 = .ok outcome) ↔
      ∃ file ∈ files, exportable file (saved file) ≠ []) := by
  obtain ⟨prefs, backup, each⟩ := readBackup_export numbers exported read
  obtain ⟨holds, nothing⟩ := restoreFiles_spec lib.toOrgJson prefs store
  have decoded (file : List Char) (member : file ∈ files) :
      optJsonObject prefs file ≠ none ∧
        decodedFile lib.toOrgJson prefs file = fun key => (kept saved file key).map readBack := by
    obtain ⟨values, written, found⟩ := each file member
    refine ⟨?_, funext (decodedFile_export numbers listed written found)⟩
    rw [found]
    exact Option.some_ne_none values
  have left (file : List Char) : (restoreFiles lib.toOrgJson prefs store).1 file =
      if file ∈ files then fun key => (kept saved file key).map readBack else store file := by
    rw [holds file]
    by_cases member : file ∈ files
    · rw [if_pos ⟨member, (decoded file member).1⟩, if_pos member, (decoded file member).2]
    · rw [if_neg fun both => member both.1, if_neg member]
  have value : HasValue lib.toOrgJson prefs ↔ ∃ file ∈ files, exportable file (saved file) ≠ [] := by
    unfold HasValue
    refine exists_congr fun file => and_congr_right fun member => ?_
    rw [← exists_kept_iff, (decoded file member).2]
    simp only [ne_eq, Option.map_eq_none_iff]
  unfold restore
  rw [backup]
  dsimp only
  by_cases none_ : (restoreFiles lib.toOrgJson prefs store).2.1 = 0
  · rw [if_pos none_]
    refine ⟨left, iff_of_false ?_ fun some_ => nothing.mp none_ (value.mpr some_)⟩
    rintro ⟨outcome, impossible⟩
    cases impossible
  · rw [if_neg none_]
    refine ⟨left, iff_of_true ⟨_, rfl⟩ (value.mp ?_)⟩
    exact not_not.mp fun empty => none_ (nothing.mpr empty)

/-- An export is given back exactly if it has no float that is not finite and no set with the
empty string. -/
theorem givenBack_iff (numbers : lib.Numbers) (listed : ∀ set, (order set).toFinset = set)
    (reads : ∀ root, exportRoot lib order saved version created = some root →
      lib.parse (lib.write root) = some root) :
    GivenBack lib order saved version created ↔
      ∀ file ∈ files, ∀ entry ∈ exportable file (saved file), entry.2.Portable := by
  constructor
  · rintro ⟨text, exported, back⟩
    obtain ⟨root, rooted, rfl⟩ := Option.map_eq_some_iff.mp exported
    have writes := exportRoot_isSome_iff.mp (Option.isSome_iff_exists.mpr ⟨root, rooted⟩)
    intro file covered entry member
    obtain ⟨left, -⟩ := restore_export numbers listed rooted (reads root rooted)
      fun _ _ => none
    have same := ((left file).symm.trans ((back fun _ _ => none).1 file))
    rw [if_pos covered, if_pos covered] at same
    have value := congrFun same entry.1
    rw [kept_of_mem member] at value
    exact entry.2.portable_iff.mpr ⟨writes file covered entry member, Option.some.inj value⟩
  · intro portable
    have writes : (exportRoot lib order saved version created).isSome = true :=
      exportRoot_isSome_iff.mpr fun file covered entry member =>
        (entry.2.portable_iff.mp (portable file covered entry member)).1
    obtain ⟨root, rooted⟩ := Option.isSome_iff_exists.mp writes
    refine ⟨lib.write root, by rw [exportText, rooted]; rfl, fun store => ?_⟩
    obtain ⟨left, returns⟩ := restore_export numbers listed rooted (reads root rooted) store
    refine ⟨fun file => ?_, returns⟩
    rw [left file]
    split
    · rename_i covered
      funext key
      cases found : kept saved file key with
      | none => rfl
      | some value =>
          obtain ⟨entry, there, rfl⟩ := Option.map_eq_some_iff.mp found
          have member := List.mem_of_find?_eq_some there
          exact congrArg some (entry.2.portable_iff.mp (portable file covered entry member)).2
    · rfl

end RoundTrip

section Samples

def Entries.empty : Entries :=
  { entries := []
    distinct := List.nodup_nil
    fits := fun _ member => absurd member List.not_mem_nil }

def Entries.single (key : List Char) (value : Value) (fits : value.Fits) : Entries :=
  { entries := [(key, value)]
    distinct := List.nodup_singleton key
    fits := by
      intro entry member
      rw [List.mem_singleton.mp member]
      exact fits }

/-- One setting on a device that splits no tunnel. -/
def onlySetting (value : Value) (fits : value.Fits) : List Char → Entries := fun file =>
  if file = settingsFile then .single "setting".toList value fits else .empty

/-- The numbers of `org.json` without its texts. No float is written of the samples. -/
def numbersOnly : OrgJsonText where
  parse := fun _ => none
  toInteger := fun json => json.text.bind fun text => (String.ofList text).toInt?
  toLong := fun json => json.text.bind fun text => (String.ofList text).toInt?
  toFloat := fun json => json.text.bind fun text =>
    (String.ofList text).toInt?.map fun value => UInt32.ofNat value.toNat
  double := fun bits => .int bits.toNat
  write := fun _ => []

/-- The same with the text of one export. -/
noncomputable def textOf (saved : List Char → Entries) (text : List Char) : OrgJsonText :=
  { numbersOnly with
    parse := fun other =>
      if other = text then exportRoot numbersOnly Finset.toList saved "2.0".toList 1700000000000
      else none
    write := fun _ => text }

theorem textOf_numbers (saved : List Char → Entries) (text : List Char) :
    (textOf saved text).Numbers := by
  have back (value : Int) : ((Json.int value).text.bind fun text => (String.ofList text).toInt?) =
      some value := by
    rw [Json.text_int, Option.bind_some, String.ofList_toList]
    exact Int.toInt?_repr value
  constructor
  · exact fun value _ _ => back value
  · exact fun value _ _ => back value
  · intro bits _finite
    have read := back bits.toNat
    rw [Json.text_int, Option.bind_some] at read
    simp only [textOf, numbersOnly, Json.text_int, Option.bind_some, read, Option.map_some,
      Int.toNat_natCast, UInt32.ofNat_toNat]

theorem textOf_reads (saved : List Char → Entries) (text : List Char)
    (root : List (List Char × Json))
    (exported : exportRoot (textOf saved text) Finset.toList saved "2.0".toList 1700000000000 =
      some root) :
    (textOf saved text).parse ((textOf saved text).write root) = some root :=
  (if_pos rfl).trans exported

/-- What `export` writes of the port 1080. -/
def portText : List Char :=
  ("\x7b\n  \"app\": \"MolidoVPN\",\n  \"format\": 1,\n  \"version\": \"2.0\",\n" ++
    "  \"created\": 1700000000000,\n  \"prefs\": \x7b\n    \"settings\": \x7b\n" ++
    "      \"setting\": \x7b\n        \"t\": \"i\",\n        \"v\": 1080\n      \x7d\n    \x7d,\n" ++
    "    \"split_tunneling\": \x7b\x7d\n  \x7d\n\x7d").toList

def port : List Char → Entries := onlySetting (.int 1080) ⟨by decide, by decide⟩

theorem givenBack_iff_port :
    GivenBack (textOf port portText) Finset.toList port "2.0".toList 1700000000000 ↔
      ∀ file ∈ files, ∀ entry ∈ exportable file (port file), entry.2.Portable :=
  givenBack_iff (textOf_numbers _ _) Finset.toList_toFinset (textOf_reads _ _)

def infinity : List Char → Entries := onlySetting (.float 0x7f800000) trivial

def emptyMember : List Char → Entries := onlySetting (.stringSet {[]}) trivial

private theorem setting_exportable (value : Value) (fits : value.Fits) :
    ("setting".toList, value) ∈ exportable settingsFile (onlySetting value fits settingsFile) := by
  have chosen : (settingsFile = settingsFile && transient "setting".toList) = false := by
    decide +kernel
  refine List.mem_filter.mpr ⟨List.mem_singleton_self _, ?_⟩
  rw [chosen]
  rfl

/-- What `export` writes of the set. -/
def memberText : List Char :=
  ("\x7b\n  \"app\": \"MolidoVPN\",\n  \"format\": 1,\n  \"version\": \"2.0\",\n" ++
    "  \"created\": 1700000000000,\n  \"prefs\": \x7b\n    \"settings\": \x7b\n" ++
    "      \"setting\": \x7b\n        \"t\": \"ss\",\n        \"v\": [\n          \"\"\n        ]\n" ++
    "      \x7d\n    \x7d,\n    \"split_tunneling\": \x7b\x7d\n  \x7d\n\x7d").toList

/-- An infinite float cannot be exported, and the empty string is lost from a set. -/
theorem not_givenBack :
    exportText (textOf infinity []) Finset.toList infinity "2.0".toList 1700000000000 = none ∧
      ¬GivenBack (textOf infinity []) Finset.toList infinity "2.0".toList 1700000000000 ∧
      ¬GivenBack (textOf emptyMember memberText) Finset.toList emptyMember "2.0".toList
        1700000000000 := by
  have thrown : exportText (textOf infinity []) Finset.toList infinity "2.0".toList
      1700000000000 = none := by
    rw [exportText, Option.map_eq_none_iff, ← Option.not_isSome_iff_eq_none, exportRoot_isSome_iff]
    intro writes
    have finite := writes settingsFile List.mem_cons_self _ (setting_exportable _ _)
    have infinite : isFinite 0x7f800000 = false := by decide
    exact absurd (infinite.symm.trans finite) Bool.false_ne_true
  refine ⟨thrown, ?_, ?_⟩
  · rintro ⟨text, exported, -⟩
    rw [thrown] at exported
    cases exported
  · rintro ⟨text, exported, back⟩
    obtain ⟨root, rooted, rfl⟩ := Option.map_eq_some_iff.mp exported
    obtain ⟨left, -⟩ := restore_export (textOf_numbers _ _) Finset.toList_toFinset rooted
      (textOf_reads _ _ root rooted) fun _ _ => none
    have same := congrFun ((left settingsFile).symm.trans
      ((back fun _ _ => none).1 settingsFile)) "setting".toList
    have covered : settingsFile ∈ files := List.mem_cons_self
    rw [if_pos covered, if_pos covered] at same
    have stored : kept emptyMember settingsFile "setting".toList = some (.stringSet {[]}) :=
      kept_of_mem (setting_exportable (.stringSet {[]}) trivial)
    change (kept emptyMember settingsFile _).map readBack = _ at same
    rw [stored] at same
    have members := Value.stringSet.inj (Option.some.inj same)
    exact Finset.notMem_erase [] _ (members ▸ Finset.mem_singleton_self [])

end Samples

end MolidoVpn.Settings
