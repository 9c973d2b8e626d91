import Scopewright.Proofs.Files.TreeAccess
import Scopewright.Proofs.Settings.Overlay

/-!
# Which layer decides about a setting

Files and single settings are given to the loader in any order.  For each setting of the program the
last single value decides, or else the last file that gives one, or else what comes with the
program.

* `LayerCall` — what is said to the loader; `FileTree.settingsAfter` — the settings that it makes of
  that, on a tree of files.
* `foldlM_apply` — only the order of the files among each other counts, and that of the single
  settings among each other.
* `LayerCall.decided` — the value on which the layers agree in the end.
* `settingsAfter_of_isPlain` — the settings are these values.
-/

set_option autoImplicit false

namespace Scopewright

/-! ## What is said to the loader -/

/-- One thing that is said to the loader. -/
inductive LayerCall where
  /-- To read a file, which has to be there. -/
  | file (path : String)
  /-- To read a file, if there is one. -/
  | optionalFile (path : String)
  /-- To take a value for the setting of a key. -/
  | override (key : String) (value : Scalar)
deriving DecidableEq, Repr

namespace LayerCall

/-- What the loader makes of it. -/
def apply (l : Layers) : LayerCall → Except SettingsError Layers
  | file path => .ok (l.withFile path)
  | optionalFile path => .ok (l.withOptionalFile path)
  | override key v => l.withOverride key v

/-- The file of a call. -/
def file? : LayerCall → Option SettingsFile
  | file path => some ⟨path, true⟩
  | optionalFile path => some ⟨path, false⟩
  | override _ _ => none

/-- The single setting of a call. -/
def override? : LayerCall → Option (String × Scalar)
  | override key v => some (key, v)
  | file _ | optionalFile _ => none

end LayerCall

/-- The path of a single setting, with its value. -/
def readOverride (o : String × Scalar) : Except SettingsError (KeyPath × Scalar) :=
  match KeyPath.ofText? o.1 with
  | some path => .ok (path, o.2)
  | none => .error (.malformedKey o.1)

/-- **Files are kept in their order, and single settings in theirs.** -/
theorem foldlM_apply (calls : List LayerCall) (l : Layers) :
    calls.foldlM LayerCall.apply l = (do
      let overrides ← (calls.filterMap LayerCall.override?).mapM readOverride
      return { files := l.files ++ calls.filterMap LayerCall.file?,
               overrides := l.overrides ++ overrides }) := by
  induction calls generalizing l with
  | nil => simp [pure, Except.pure]
  | cons c calls ih =>
    rw [List.foldlM_cons, List.filterMap_cons, List.filterMap_cons]
    cases c with
    | file path =>
      rw [LayerCall.apply, except_ok_bind, ih]
      simp [Layers.withFile, LayerCall.file?, LayerCall.override?]
    | optionalFile path =>
      rw [LayerCall.apply, except_ok_bind, ih]
      simp [Layers.withOptionalFile, LayerCall.file?, LayerCall.override?]
    | override key v =>
      simp only [LayerCall.apply, Layers.withOverride, LayerCall.override?, LayerCall.file?,
        List.mapM_cons, readOverride]
      cases KeyPath.ofText? key with
      | none => rfl
      | some path =>
        simp only [except_ok_bind, ih, bind_assoc, pure_bind, List.append_assoc,
          List.singleton_append]

/-! ## The settings that come of it -/

namespace FileTree

/-- The settings that the loader makes of what is said to it, on a tree of files. -/
def settingsAfter (t : FileTree) (calls : List LayerCall) : Except SettingsError Settings := do
  t.ask ((← calls.foldlM LayerCall.apply {}).load access)

/-- The path of the file of settings to which a path leads: the path itself, or else the path with
the ending. -/
def settingsPath? (t : FileTree) (path : String) : Option String :=
  if t.isFile path then some path
  else (Path.withEnding? path Layers.ending).filter (t.isFile ·)

/-- The document in the file of settings to which a path leads. -/
def document? (t : FileTree) (path : String) : Option (List (String × Toml.Value)) := do
  let found ← t.settingsPath? path
  let text ← ((t.read found).bind FileError.decode).toOption
  Toml.Value.ofText? text

end FileTree

variable {t : FileTree}

/-- There is no such file of settings, or it is a plain document. -/
def SettingsFile.IsPlain (t : FileTree) (f : SettingsFile) : Prop :=
  t.settingsPath? f.path = none ∨ ∃ es ∈ t.document? f.path, PlainDocument es

instance (t : FileTree) (f : SettingsFile) : Decidable (f.IsPlain t) :=
  inferInstanceAs (Decidable (_ ∨ _))

/-- The values that a file of settings gives for a setting; a file that is not there gives none. -/
def SettingsFile.values (t : FileTree) (n : SettingName) (f : SettingsFile) : List Scalar :=
  ((t.document? f.path).map n.valuesIn).getD []

/-- The file is missing, and it is an error that it is. -/
def SettingsFile.IsMissed (t : FileTree) (f : SettingsFile) : Prop :=
  f.isRequired = true ∧ t.settingsPath? f.path = none

namespace Layers

theorem readOnly_find (path : String) : ReadOnly (find FileTree.access path) := by
  refine (FileTree.readOnly_isFile path).bind fun here ↦ ?_
  split
  · exact .pure _
  · split
    · exact (FileTree.readOnly_isFile _).bind fun _ ↦ .pure _
    · exact .pure _

theorem ask_find (t : FileTree) (path : String) :
    t.ask (find FileTree.access path) = t.settingsPath? path := by
  rw [find, (FileTree.readOnly_isFile path).ask_bind, FileTree.ask_isFile, FileTree.settingsPath?]
  split
  · rfl
  · cases h : Path.withEnding? path ending with
    | none => rfl
    | some longer =>
      dsimp only
      rw [(FileTree.readOnly_isFile longer).ask_bind, FileTree.ask_isFile, Option.filter_some]
      rfl

theorem readOnly_readFile (f : SettingsFile) : ReadOnly (readFile FileTree.access f) := by
  refine (readOnly_find f.path).bind fun found ↦ ?_
  split
  · exact .pure _
  · refine (FileTree.readOnly_readText _).bind fun read ↦ ?_
    split <;> exact .pure _

/-- A file that is missed is an error. -/
theorem ask_readFile_of_isMissed {f : SettingsFile} (h : f.IsMissed t) :
    t.ask (readFile FileTree.access f) = .error (.missingFile f.path) := by
  rw [readFile, (readOnly_find f.path).ask_bind, ask_find, h.2]
  simp [h.1, FileTree.ask_pure]

/-- A file that is not there, and need not be, brings in nothing. -/
theorem ask_readFile_of_absent {path : String} (h : t.settingsPath? path = none) :
    t.ask (readFile FileTree.access ⟨path, false⟩) = .ok [] := by
  rw [readFile, (readOnly_find path).ask_bind, ask_find, h]
  rfl

/-- **A plain file that is not missed brings in the entries of its document**, and if it is not
there then none. -/
theorem ask_readFile_of_isPlain {f : SettingsFile} (hplain : f.IsPlain t) (h : ¬ f.IsMissed t) :
    ∃ file es, t.ask (readFile FileTree.access f) = .ok (Setting.ofTomlEntries file es) ∧
      PlainDocument es ∧ ∀ n : SettingName, n.valuesIn es = f.values t n := by
  rcases hplain with hnone | ⟨es, hdocument, hes⟩
  · have hvalues : ∀ n : SettingName, f.values t n = [] := by
      intro n
      rw [SettingsFile.values, FileTree.document?, hnone]
      rfl
    have hoptional : f.isRequired = false := by
      rw [← Bool.not_eq_true]
      exact fun hrequired ↦ h ⟨hrequired, hnone⟩
    refine ⟨"", [], ?_, fun e he ↦ absurd he List.not_mem_nil, fun n ↦ (hvalues n).symm⟩
    obtain ⟨path, required⟩ := f
    obtain rfl : required = false := hoptional
    exact ask_readFile_of_absent hnone
  · have hvalues : ∀ n : SettingName, f.values t n = n.valuesIn es := by
      intro n
      rw [SettingsFile.values, hdocument]
      rfl
    obtain ⟨found, hfound, hread⟩ := Option.bind_eq_some_iff.mp hdocument
    obtain ⟨text, htext, hes'⟩ := Option.bind_eq_some_iff.mp hread
    have hdecode : (t.read found).bind FileError.decode = .ok text := by
      cases hbytes : (t.read found).bind FileError.decode with
      | ok text' => rw [hbytes] at htext; exact congrArg Except.ok (Option.some.inj htext)
      | error e => rw [hbytes] at htext; cases htext
    refine ⟨Path.plain found, es, ?_, hes, fun n ↦ (hvalues n).symm⟩
    rw [readFile, (readOnly_find f.path).ask_bind, ask_find, hfound]
    dsimp only
    rw [(FileTree.readOnly_readText found).ask_bind, FileTree.ask_readText, hdecode]
    dsimp only
    rw [FileTree.ask_pure, ofFileText, hes']

/-- **One file after the other.** -/
theorem ask_layFiles_cons (f : SettingsFile) (files : List SettingsFile) (root : Setting) :
    t.ask (layFiles FileTree.access (f :: files) root) = (do
      let entries ← t.ask (readFile FileTree.access f)
      t.ask (layFiles FileTree.access files
        (entries.foldl (fun root (key, s) ↦ KeyPath.placeNamed key s root) root))) := by
  rw [layFiles, (readOnly_readFile f).ask_bind]
  cases t.ask (readFile FileTree.access f) <;> rfl

/-- A file that is not there, and need not be, may as well be left out. -/
theorem ask_layFiles_of_absent {path : String} (h : t.settingsPath? path = none)
    (before after : List SettingsFile) (root : Setting) :
    t.ask (layFiles FileTree.access (before ++ ⟨path, false⟩ :: after) root) =
      t.ask (layFiles FileTree.access (before ++ after) root) := by
  induction before generalizing root with
  | nil => rw [List.nil_append, ask_layFiles_cons, ask_readFile_of_absent h]; rfl
  | cons f before ih =>
    rw [List.cons_append, List.cons_append, ask_layFiles_cons, ask_layFiles_cons]
    simp only [ih]

theorem readOnly_layFiles (files : List SettingsFile) (root : Setting) :
    ReadOnly (layFiles FileTree.access files root) := by
  induction files generalizing root with
  | nil => exact .pure _
  | cons f files ih =>
    refine (readOnly_readFile f).bind fun entries ↦ ?_
    split
    · exact .pure _
    · exact ih _

variable {root : Setting} {value : SettingName → Scalar} {files : List SettingsFile}

/-- **Plain files that are not missed: the last one that gives a value decides.** -/
theorem exists_layFiles_eq (hplain : ∀ f ∈ files, f.IsPlain t)
    (hthere : ∀ f ∈ files, ¬ f.IsMissed t) (h : root.Holds value) :
    ∃ root', t.ask (layFiles FileTree.access files root) = .ok root' ∧
      root'.Holds fun n ↦ (files.flatMap (·.values t n)).getLast?.getD (value n) := by
  induction files generalizing root value with
  | nil => exact ⟨root, rfl, h⟩
  | cons f files ih =>
    obtain ⟨hf, hplain⟩ := List.forall_mem_cons.mp hplain
    obtain ⟨hfthere, hthere⟩ := List.forall_mem_cons.mp hthere
    obtain ⟨file, es, hread, hes, hvalues⟩ := ask_readFile_of_isPlain hf hfthere
    rw [ask_layFiles_cons, hread, except_ok_bind]
    simp only [List.flatMap_cons, getD_getLast?_append, ← hvalues]
    exact ih hplain hthere (h.layEntries hes file)

/-- **The first plain file that is missed is the error.** -/
theorem exists_layFiles_eq_error (hplain : ∀ f ∈ files, f.IsPlain t)
    (hmissed : ∃ f ∈ files, f.IsMissed t) (root : Setting) :
    ∃ f ∈ files, f.IsMissed t ∧
      t.ask (layFiles FileTree.access files root) = .error (.missingFile f.path) := by
  induction files generalizing root with
  | nil =>
    obtain ⟨f, hf, -⟩ := hmissed
    cases hf
  | cons f files ih =>
    obtain ⟨hf, hplain⟩ := List.forall_mem_cons.mp hplain
    by_cases hthis : f.IsMissed t
    · refine ⟨f, List.mem_cons_self, hthis, ?_⟩
      rw [ask_layFiles_cons, ask_readFile_of_isMissed hthis, except_error_bind]
    · obtain ⟨file, es, hread, -, -⟩ := ask_readFile_of_isPlain hf hthis
      have hrest : ∃ f ∈ files, f.IsMissed t := by
        obtain ⟨g, hg, hmissed⟩ := hmissed
        rcases List.mem_cons.mp hg with rfl | hg
        · exact absurd hmissed hthis
        · exact ⟨g, hg, hmissed⟩
      obtain ⟨g, hg, hgmissed, herror⟩ := ih hplain hrest _
      refine ⟨g, List.mem_cons_of_mem f hg, hgmissed, ?_⟩
      rw [ask_layFiles_cons, hread, except_ok_bind]
      exact herror

/-- What the loader does: it lays the files, and then the single settings. -/
theorem ask_load (l : Layers) :
    t.ask (l.load FileTree.access) = (do
      let root ← t.ask (layFiles FileTree.access l.files Settings.standard)
      Settings.ofSetting
        (l.overrides.foldl (fun root (path, s) ↦ path.place (.scalar s none) root) root)) := by
  rw [load, (readOnly_layFiles l.files _).ask_bind]
  cases t.ask (layFiles FileTree.access l.files Settings.standard) <;> rfl

theorem readOnly_load (l : Layers) : ReadOnly (l.load FileTree.access) := by
  refine (readOnly_layFiles l.files _).bind fun root ↦ ?_
  split <;> exact .pure _

end Layers

/-! ## Single settings -/

/-- Names of different settings are different. -/
theorem SettingName.text_injective : Function.Injective SettingName.text := by
  intro m n h
  revert h
  cases m <;> cases n <;> decide

/-- The values that single settings give for a setting, in their order. -/
def overrideValues (n : SettingName) (overrides : List (String × Scalar)) : List Scalar :=
  overrides.flatMap fun o ↦ if o.1 = n.text then [o.2] else []

/-- Put single settings into a table, one after the other. -/
def placeOverrides (paths : List (KeyPath × Scalar)) (root : Setting) : Setting :=
  paths.foldl (fun root (path, s) ↦ path.place (.scalar s none) root) root

/-- **Single settings of the program: the last one that gives a value decides.** -/
theorem exists_mapM_readOverride_eq {overrides : List (String × Scalar)}
    (hplain : ∀ o ∈ overrides, ∃ n : SettingName, o.1 = n.text ∧ n.admits o.2 = true) :
    ∃ paths, overrides.mapM readOverride = .ok paths ∧
      ∀ (root : Setting) (value : SettingName → Scalar), root.Holds value →
        (placeOverrides paths root).Holds
          fun n ↦ (overrideValues n overrides).getLast?.getD (value n) := by
  induction overrides with
  | nil => exact ⟨[], rfl, fun root value h ↦ h⟩
  | cons o overrides ih =>
    obtain ⟨⟨m, hm, -⟩, hplain⟩ := List.forall_mem_cons.mp hplain
    obtain ⟨paths, hpaths, hholds⟩ := ih hplain
    refine ⟨(⟨m.group, [.key m.key]⟩, o.2) :: paths, ?_, fun root value h ↦ ?_⟩
    · rw [List.mapM_cons, readOverride, hm, m.ofText?_text, hpaths]
      rfl
    · simp only [overrideValues, List.flatMap_cons, getD_getLast?_append]
      refine hholds _ _ ?_
      convert h.place m o.2 using 2 with n
      rw [hm]
      by_cases hn : n = m
      · rw [if_pos hn, if_pos (congrArg _ hn.symm)]
        rfl
      · rw [if_neg hn, if_neg fun htext ↦ hn (SettingName.text_injective htext).symm]
        rfl

/-! ## The decision -/

namespace LayerCall

/-- The files of the call are plain, and what it sets is a setting of the program, to a value that
is of use. -/
def IsPlain (t : FileTree) : LayerCall → Prop
  | file path => SettingsFile.IsPlain t ⟨path, true⟩
  | optionalFile path => SettingsFile.IsPlain t ⟨path, false⟩
  | override key v => ∃ n : SettingName, key = n.text ∧ n.admits v = true

instance (t : FileTree) : (c : LayerCall) → Decidable (c.IsPlain t)
  | file path => inferInstanceAs (Decidable (SettingsFile.IsPlain t ⟨path, true⟩))
  | optionalFile path => inferInstanceAs (Decidable (SettingsFile.IsPlain t ⟨path, false⟩))
  | override _ _ => inferInstanceAs (Decidable (∃ _, _))

/-- The values that the file of a call gives for a setting. -/
def fileValues (t : FileTree) (n : SettingName) (c : LayerCall) : List Scalar :=
  (c.file?.map (·.values t n)).getD []

/-- The value that a call itself gives for a setting. -/
def ownValues (n : SettingName) : LayerCall → List Scalar
  | override key v => if key = n.text then [v] else []
  | file _ | optionalFile _ => []

/-- The value of a setting after some calls: the last one that a call itself gives, or else the last
one of a file, or else the one that comes with the program. -/
def decided (t : FileTree) (calls : List LayerCall) (n : SettingName) : Scalar :=
  ((calls.flatMap (ownValues n)).getLast?.or
    (calls.flatMap (fileValues t n)).getLast?).getD n.standard

theorem flatMap_fileValues (t : FileTree) (n : SettingName) (calls : List LayerCall) :
    calls.flatMap (fileValues t n) = (calls.filterMap file?).flatMap (·.values t n) := by
  induction calls with
  | nil => rfl
  | cons c calls ih => cases c <;> simp [fileValues, file?, List.filterMap_cons, ih]

theorem flatMap_ownValues (n : SettingName) (calls : List LayerCall) :
    calls.flatMap (ownValues n) = overrideValues n (calls.filterMap override?) := by
  induction calls with
  | nil => rfl
  | cons c calls ih =>
    rw [overrideValues] at ih
    cases c <;> simp [ownValues, override?, List.filterMap_cons, overrideValues, ih]

variable {calls : List LayerCall}

theorem isPlain_of_mem_files (hplain : ∀ c ∈ calls, c.IsPlain t) :
    ∀ f ∈ calls.filterMap file?, f.IsPlain t := by
  intro f hf
  obtain ⟨c, hc, hfile⟩ := List.mem_filterMap.mp hf
  have hc := hplain c hc
  cases c <;> cases hfile <;> exact hc

theorem admits_of_mem_overrides (hplain : ∀ c ∈ calls, c.IsPlain t) :
    ∀ o ∈ calls.filterMap override?, ∃ n : SettingName, o.1 = n.text ∧ n.admits o.2 = true := by
  intro o ho
  obtain ⟨c, hc, hover⟩ := List.mem_filterMap.mp ho
  have hc := hplain c hc
  cases c <;> cases hover
  exact hc

/-- What decides about a setting is of use. -/
theorem admits_decided (hplain : ∀ c ∈ calls, c.IsPlain t) (n : SettingName) :
    n.admits (decided t calls n) = true := by
  have hown : ∀ v ∈ calls.flatMap (ownValues n), n.admits v = true := by
    intro v hv
    rw [flatMap_ownValues] at hv
    obtain ⟨o, ho, hgiven⟩ := List.mem_flatMap.mp hv
    obtain ⟨m, hm, hadmits⟩ := admits_of_mem_overrides hplain o ho
    split at hgiven
    · rename_i htext
      obtain rfl := SettingName.text_injective (hm.symm.trans htext)
      rwa [List.mem_singleton.mp hgiven]
    · cases hgiven
  have hfiles : ∀ v ∈ calls.flatMap (fileValues t n), n.admits v = true := by
    intro v hv
    rw [flatMap_fileValues] at hv
    obtain ⟨f, hf, hv⟩ := List.mem_flatMap.mp hv
    rcases isPlain_of_mem_files hplain f hf with hnone | ⟨es, hdocument, hes⟩
    · rw [SettingsFile.values, FileTree.document?, hnone] at hv
      cases hv
    · rw [SettingsFile.values, hdocument] at hv
      exact hes.admits hv
  rw [decided]
  cases hlast : (calls.flatMap (ownValues n)).getLast? with
  | some v => exact hown v (List.mem_of_getLast? hlast)
  | none =>
    rw [Option.none_or]
    cases hlast : (calls.flatMap (fileValues t n)).getLast? with
    | some v => exact hfiles v (List.mem_of_getLast? hlast)
    | none => exact n.admits_standard

end LayerCall

/-! ## The loader -/

namespace FileTree

open LayerCall

variable {calls : List LayerCall}

/-- **Only the order of the files among each other counts, and that of the single settings among
each other.** -/
theorem settingsAfter_congr (t : FileTree) {calls' : List LayerCall}
    (hfiles : calls'.filterMap file? = calls.filterMap file?)
    (hoverrides : calls'.filterMap override? = calls.filterMap override?) :
    t.settingsAfter calls' = t.settingsAfter calls := by
  rw [settingsAfter, settingsAfter, foldlM_apply, foldlM_apply, hfiles, hoverrides]

/-- What the loader makes of plain calls. -/
theorem exists_settingsAfter_eq (hplain : ∀ c ∈ calls, c.IsPlain t) :
    ∃ paths, t.settingsAfter calls = (do
      let root ← t.ask (Layers.layFiles access (calls.filterMap file?) Settings.standard)
      Settings.ofSetting (placeOverrides paths root)) ∧
      ∀ (root : Setting) (value : SettingName → Scalar), root.Holds value →
        (placeOverrides paths root).Holds
          fun n ↦ (calls.flatMap (ownValues n)).getLast?.getD (value n) := by
  obtain ⟨paths, hpaths, hholds⟩ := exists_mapM_readOverride_eq (admits_of_mem_overrides hplain)
  simp only [← flatMap_ownValues] at hholds
  refine ⟨paths, ?_, hholds⟩
  rw [settingsAfter, foldlM_apply, hpaths, except_ok_bind]
  exact Layers.ask_load _

/-- A file that is missed by none of the calls. -/
theorem settingsAfter_of_there (hplain : ∀ c ∈ calls, c.IsPlain t)
    (hthere : ∀ f ∈ calls.filterMap file?, ¬ f.IsMissed t) :
    ∃ s, t.settingsAfter calls = .ok s ∧ ∀ n : SettingName, n.valueIn s = decided t calls n := by
  obtain ⟨paths, heq, hholds⟩ := exists_settingsAfter_eq hplain
  obtain ⟨root, hroot, hroots⟩ :=
    Layers.exists_layFiles_eq (isPlain_of_mem_files hplain) hthere Setting.holds_standard
  have hend := hholds root _ hroots
  have hdecided : (fun n ↦ decided t calls n) = fun n ↦ (calls.flatMap (ownValues n)).getLast?.getD
      (((calls.filterMap file?).flatMap (·.values t n)).getLast?.getD n.standard) := by
    funext n
    rw [decided, flatMap_fileValues]
    cases (calls.flatMap (ownValues n)).getLast? <;> rfl
  rw [← hdecided] at hend
  obtain ⟨s, hs, hvalues⟩ := hend.exists_ofSetting_eq (admits_decided hplain)
  refine ⟨s, ?_, hvalues⟩
  rw [heq, hroot, except_ok_bind]
  exact hs

/-- The calls miss a file if one of them demands it and it is not there. -/
theorem exists_isMissed_iff :
    (∃ f ∈ calls.filterMap file?, f.IsMissed t) ↔
      ∃ path, .file path ∈ calls ∧ t.settingsPath? path = none := by
  constructor
  · rintro ⟨f, hf, hrequired, hnone⟩
    obtain ⟨c, hc, hfile⟩ := List.mem_filterMap.mp hf
    cases c with
    | file path =>
      cases hfile
      exact ⟨path, hc, hnone⟩
    | optionalFile path =>
      cases hfile
      cases hrequired
    | override key v => cases hfile
  · rintro ⟨path, hc, hnone⟩
    exact ⟨⟨path, true⟩, List.mem_filterMap.mpr ⟨_, hc, rfl⟩, rfl, hnone⟩

/-- If a file is missed, that is the error. -/
theorem settingsAfter_of_isMissed (hplain : ∀ c ∈ calls, c.IsPlain t)
    (hmissed : ∃ f ∈ calls.filterMap file?, f.IsMissed t) :
    ∃ path, .file path ∈ calls ∧ t.settingsPath? path = none ∧
      t.settingsAfter calls = .error (.missingFile path) := by
  obtain ⟨paths, heq, -⟩ := exists_settingsAfter_eq hplain
  obtain ⟨f, hf, hmissed, herror⟩ :=
    Layers.exists_layFiles_eq_error (isPlain_of_mem_files hplain) hmissed Settings.standard
  obtain ⟨c, hc, hfile⟩ := List.mem_filterMap.mp hf
  obtain ⟨hrequired, hnone⟩ := hmissed
  cases c with
  | file path =>
    cases hfile
    refine ⟨path, hc, hnone, ?_⟩
    rw [heq, herror, except_error_bind]
  | optionalFile path =>
    cases hfile
    cases hrequired
  | override key v => cases hfile

/-- A file that is not there, and need not be, makes no difference. -/
theorem settingsAfter_of_absent {path : String} (h : t.settingsPath? path = none)
    (before after : List LayerCall) :
    t.settingsAfter (before ++ .optionalFile path :: after) =
      t.settingsAfter (before ++ after) := by
  rw [settingsAfter, settingsAfter, foldlM_apply, foldlM_apply]
  simp only [List.filterMap_append, List.filterMap_cons, file?, override?, List.nil_append,
    bind_assoc, pure_bind, Layers.ask_load, Layers.ask_layFiles_of_absent h]

/-- Two files of settings. -/
def layeredTree : FileTree where
  nodes := [
    (["iro.toml"], .file "[textmate]\nindent_width = 4\n\n[extra]\nsome_key = [1]\n".toUTF8),
    (["late.toml"], .file "[textmate]\nindent_width = 8\n".toUTF8)]

/-- Files and single settings in a mixed order; one file is named without its ending, and another
one is not there. -/
def layeredCalls : List LayerCall :=
  [.override "textmate.helper_prefix" (.text "x"), .file "iro", .optionalFile "absent",
    .override "textmate.helper_prefix" (.text "y"), .optionalFile "late.toml"]

end FileTree

end Scopewright
