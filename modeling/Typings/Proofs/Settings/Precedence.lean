/-
Precedence of settings: which source gives a setting, and when there are settings at all.

Each source is put over the one below it, and the values are checked at the end. So a value that is overridden is never
looked at, while a key that is no setting stays and is refused.
- `get?_entries`: what is checked in the end is what the highest source gives.
- `ofValue_eq_ok`: values are settings exactly when each of them can be one and no other key is there.
- `resolve_precedence`: there are settings exactly when the project file is fit for them and the values that count are;
  all else is a failure of the settings.
- `long_link_crashes`: the price. Whether there is a project file is asked outside of all that. A link to a name that
  is too long is refused there, and so is a working directory that has been removed; neither becomes a failure.
-/
import Typings.Proofs.FileSystem.Reach
import Typings.Proofs.Shape.Acceptance
import Typings.Proofs.Value.Entries
import Typings.Settings

namespace Typings

namespace Settings

open Shape Shape.Checked

variable {fs : FileSystem} {env : Environment} {overrides : Overrides} {project : List (Value × Value)}
  {settings : Settings}

/-! ## One source over another -/

/-- values that are given under some keys, as a source lists them -/
def given (l : List (Text × Option Value)) : List (Text × Value) := l.filterMap fun e => e.2.map (e.1, ·)

theorem get?_override_given (key : Text) {l : List (Text × Option Value)} (hl : (l.map Prod.fst).Nodup)
    (entries : List (Value × Value)) :
    Value.get? key (override entries (given l)) = ((l.lookup key).join).or (Value.get? key entries) := by
  induction l generalizing entries with
  | nil => rfl
  | cons e l ih =>
    obtain ⟨k, found⟩ := e
    obtain ⟨hk, hl⟩ := List.nodup_cons.1 hl
    have hrest : override entries (given ((k, found) :: l)) =
        override (match found with
          | some v => Value.insert entries (.text k) v
          | none => entries) (given l) := by
      cases found <;> rfl
    rw [hrest, ih hl]
    by_cases h : key = k
    · -- no later value is given under this key
      subst h
      have hnone : l.lookup key = none := by
        rw [List.lookup_eq_none_iff]
        intro x hx
        have hmem : x.1 ∈ l.map Prod.fst := List.mem_map_of_mem hx
        have hne : key ≠ x.1 := fun he => hk (he ▸ hmem)
        simpa using hne
      cases found with
      | none => simp [hnone]
      | some v => simp [hnone, Value.get?_insert_self]
    · have hb : (key == k) = false := by simpa using h
      cases found with
      | none => simp [List.lookup_cons, hb]
      | some v => simp [List.lookup_cons, hb, Value.get?_insert_of_ne h]

theorem forall_override_iff {P : Value → Prop} {more : List (Text × Value)} (h : ∀ e ∈ more, P (.text e.1))
    (entries : List (Value × Value)) :
    (∀ e ∈ override entries more, P e.1) ↔ ∀ e ∈ entries, P e.1 := by
  induction more generalizing entries with
  | nil => rfl
  | cons e more ih =>
    obtain ⟨he, hmore⟩ := List.forall_mem_cons.1 h
    exact (ih hmore _).trans (Value.forall_insert_iff he)

theorem mem_given {l : List (Text × Option Value)} {e : Text × Value} (h : e ∈ given l) : e.1 ∈ l.map Prod.fst := by
  obtain ⟨x, hx, hxe⟩ := List.mem_filterMap.1 h
  obtain ⟨v, -, rfl⟩ := Option.map_eq_some_iff.1 hxe
  exact List.mem_map_of_mem hx

/-! ## The sources -/

/-- what a variable gives: its value, if it is set and not empty -/
def ofVariable (env : Environment) (name : Text) : Option Value :=
  match Environment.get? env name with
  | some t => if t.isEmpty then none else some (.text t)
  | none => none

/-- the values that count before they are checked: the command line comes before the environment, and that before the
project file; whether the first failure ends the run is no matter of the environment -/
def effective (env : Environment) (overrides : Overrides) (project : List (Value × Value)) : Overrides where
  sourceDir := overrides.sourceDir.or ((ofVariable env "DTSGEN_SOURCE_DIR").or (Value.get? "source_dir" project))
  descriptorSuffix := overrides.descriptorSuffix.or
    ((ofVariable env "DTSGEN_DESCRIPTOR_SUFFIX").or (Value.get? "descriptor_suffix" project))
  declarationSuffix := overrides.declarationSuffix.or
    ((ofVariable env "DTSGEN_DECLARATION_SUFFIX").or (Value.get? "declaration_suffix" project))
  failFast := overrides.failFast.or (Value.get? "fail_fast" project)

/-- what the environment gives under the keys of the settings -/
def environmentGiven (env : Environment) : List (Text × Option Value) :=
  sourceVariables.map fun e => (e.2, ofVariable env e.1)

/-- what the command line gives under the keys of the settings -/
def overridesGiven (o : Overrides) : List (Text × Option Value) :=
  [(sourceDirKey, o.sourceDir), (descriptorSuffixKey, o.descriptorSuffix),
    (declarationSuffixKey, o.declarationSuffix), (failFastKey, o.failFast)]

theorem environmentEntries_eq (env : Environment) : environmentEntries env = given (environmentGiven env) := by
  rw [environmentEntries, given, environmentGiven, List.filterMap_map]
  refine List.filterMap_congr fun e _ => ?_
  obtain ⟨name, key⟩ := e
  simp only [Function.comp_apply, ofVariable]
  cases Environment.get? env name with
  | none => rfl
  | some t => cases t <;> rfl

/-- the entries that are checked in the end -/
def entriesOf (env : Environment) (overrides : Overrides) (project : List (Value × Value)) : List (Value × Value) :=
  override (override project (environmentEntries env)) overrides.entries

theorem get?_entriesOf (key : Text) : Value.get? key (entriesOf env overrides project) =
    (((overridesGiven overrides).lookup key).join).or
      ((((environmentGiven env).lookup key).join).or (Value.get? key project)) := by
  have henv : ((environmentGiven env).map Prod.fst).Nodup :=
    (by decide : [sourceDirKey, descriptorSuffixKey, declarationSuffixKey].Nodup)
  have hover : ((overridesGiven overrides).map Prod.fst).Nodup :=
    (by decide : [sourceDirKey, descriptorSuffixKey, declarationSuffixKey, failFastKey].Nodup)
  have hentries : overrides.entries = given (overridesGiven overrides) := rfl
  rw [entriesOf, hentries, get?_override_given key hover, environmentEntries_eq, get?_override_given key henv]

/-- **What is checked in the end** is what the highest source gives. -/
theorem get?_entries (env : Environment) (overrides : Overrides) (project : List (Value × Value)) :
    Value.get? sourceDirKey (entriesOf env overrides project) = (effective env overrides project).sourceDir ∧
    Value.get? descriptorSuffixKey (entriesOf env overrides project) =
      (effective env overrides project).descriptorSuffix ∧
    Value.get? declarationSuffixKey (entriesOf env overrides project) =
      (effective env overrides project).declarationSuffix ∧
    Value.get? failFastKey (entriesOf env overrides project) = (effective env overrides project).failFast := by
  simp only [get?_entriesOf]
  refine ⟨?_, ?_, ?_, ?_⟩
  · rfl
  · rfl
  · rfl
  · rfl

/-! ## Settings from values -/

/-- the settings that values make: each is checked if it is given, and the default otherwise -/
structure Makes (values : Overrides) (settings : Settings) : Prop where
  sourceDir : Accepts text default.sourceDir values.sourceDir settings.sourceDir
  descriptorSuffix : Accepts text default.descriptorSuffix values.descriptorSuffix settings.descriptorSuffix
  declarationSuffix : Accepts text default.declarationSuffix values.declarationSuffix settings.declarationSuffix
  failFast : Accepts Shape.bool default.failFast values.failFast settings.failFast

theorem ofValue_eq_ok {entries : List (Value × Value)} : ofValue (.map entries) = .ok settings ↔
    (∀ e ∈ entries, IsAmong keys e.1) ∧
      Accepts text default.sourceDir (Value.get? sourceDirKey entries) settings.sourceDir ∧
      Accepts text default.descriptorSuffix (Value.get? descriptorSuffixKey entries) settings.descriptorSuffix ∧
      Accepts text default.declarationSuffix (Value.get? declarationSuffixKey entries) settings.declarationSuffix ∧
      Accepts Shape.bool default.failFast (Value.get? failFastKey entries) settings.failFast := by
  have hcheck : ofValue (.map entries) = .ok settings ↔ check (.map entries) = .ok settings := by
    unfold ofValue
    cases check (.map entries) <;> simp
  have hrecord : check (.map entries) = thenCheck (readable entries) ((fun a b c d (_ : Unit) => Settings.mk a b c d)
      <$> withDefault entries sourceDirKey none default.sourceDir text
      <*> withDefault entries descriptorSuffixKey none default.descriptorSuffix text
      <*> withDefault entries declarationSuffixKey none default.declarationSuffix text
      <*> withDefault entries failFastKey none default.failFast Shape.bool
      <*> onlyKeys keys entries) := rfl
  rw [hcheck, hrecord, thenCheck_eq_ok]
  simp only [seq_eq_ok, fmap_eq_ok, withDefault_eq_ok]
  constructor
  · rintro ⟨-, _, u, ⟨_, d, ⟨_, c, ⟨_, b, ⟨a, ha, rfl⟩, hb, rfl⟩, hc, rfl⟩, hd, rfl⟩, hkeys, rfl⟩
    exact ⟨onlyKeys_eq_ok.1 hkeys, ha, hb, hc, hd⟩
  · rintro ⟨hkeys, ha, hb, hc, hd⟩
    have hread : readable entries = .ok () := readable_of_among (by decide) hkeys
    exact ⟨hread, _, (), ⟨_, _, ⟨_, _, ⟨_, _, ⟨_, ha, rfl⟩, hb, rfl⟩, hc, rfl⟩, hd, rfl⟩, onlyKeys_eq_ok.2 hkeys, rfl⟩

theorem ofValue_entriesOf : ofValue (.map (entriesOf env overrides project)) = .ok settings ↔
    (∀ e ∈ project, IsAmong keys e.1) ∧ Makes (effective env overrides project) settings := by
  obtain ⟨ha, hb, hc, hd⟩ := get?_entries env overrides project
  -- the environment and the command line bring no other keys
  have henv : ∀ e ∈ environmentEntries env, IsAmong keys (.text e.1) := by
    intro e he
    rw [environmentEntries_eq] at he
    have hmem : e.1 ∈ [sourceDirKey, descriptorSuffixKey, declarationSuffixKey] := mem_given he
    exact ⟨e.1, List.mem_append_left [failFastKey] hmem, rfl⟩
  have hover : ∀ e ∈ overrides.entries, IsAmong keys (.text e.1) := by
    intro e he
    have hmem : e.1 ∈ keys := mem_given (l := overridesGiven overrides) he
    exact ⟨e.1, hmem, rfl⟩
  have hkeys : (∀ e ∈ entriesOf env overrides project, IsAmong keys e.1) ↔ ∀ e ∈ project, IsAmong keys e.1 :=
    (forall_override_iff hover _).trans (forall_override_iff henv _)
  rw [ofValue_eq_ok, hkeys, ha, hb, hc, hd]
  constructor
  · rintro ⟨hknown, h1, h2, h3, h4⟩
    exact ⟨hknown, h1, h2, h3, h4⟩
  · rintro ⟨hknown, h1, h2, h3, h4⟩
    exact ⟨hknown, h1, h2, h3, h4⟩

/-- suffixes by which descriptors and declarations are told apart -/
def Apart (s : Settings) : Prop :=
  s.descriptorSuffix ≠ [] ∧ s.declarationSuffix ≠ [] ∧ s.descriptorSuffix ≠ s.declarationSuffix

theorem checkSuffixes_cases (s : Settings) : Apart s ∧ checkSuffixes s = .ok s ∨
    ¬ Apart s ∧ ∃ message, checkSuffixes s = failure message := by
  unfold checkSuffixes Apart
  split_ifs with h1 h2
  · refine Or.inr ⟨fun h => ?_, _, rfl⟩
    simp only [Bool.or_eq_true, List.isEmpty_iff] at h1
    exact h1.elim h.1 h.2.1
  · exact Or.inr ⟨fun h => h.2.2 h2, _, rfl⟩
  · simp only [Bool.or_eq_true, List.isEmpty_iff, not_or] at h1
    exact Or.inl ⟨⟨h1.1, h1.2, h2⟩, rfl⟩

/-! ## The project file -/

/-- where the project file of a directory would be -/
def projectPath (directory : Path) : Text := (directory.child projectFileName).toText

/-- octets that are the text of an object -/
def HoldsObject (content : Bytes) (entries : List (Value × Value)) : Prop :=
  ∃ t, Utf8.decode content = .ok t ∧ Json.read (Text.unifyNewlines t) = .ok (.map entries)

/-- what the project file of a directory gives: nothing if it is no file, and the entries of its object otherwise -/
inductive Project (fs : FileSystem) (directory : Path) : List (Value × Value) → Prop
  | missing (h : ∀ l content mode, fs.entryAt (projectPath directory) ≠ .ok (l, .file content mode)) :
      Project fs directory []
  | read {l : Location} {content : Bytes} {mode : Nat} {entries : List (Value × Value)}
      (h : fs.entryAt (projectPath directory) = .ok (l, .file content mode)) (hobject : HoldsObject content entries) :
      Project fs directory entries

/-- the question for the project file is refused -/
def Refused (fs : FileSystem) (directory : Path) : Prop :=
  FileSystem.unusable (projectPath directory) = none ∧
    fs.resolve .target (projectPath directory) = .error .nameTooLong

theorem entryAt_of_refused {directory : Path} (h : Refused fs directory) :
    fs.entryAt (projectPath directory) = .error (.os (OsCause.nameTooLong.on (projectPath directory))) := by
  unfold FileSystem.entryAt FileSystem.locate
  rw [h.1, h.2]
  rfl

theorem look_of_refused {directory : Path} (h : Refused fs directory) :
    fs.look (projectPath directory) = .error (.os (OsCause.nameTooLong.on (projectPath directory))) := by
  rw [FileSystem.look, entryAt_of_refused h]
  rfl

/-- where the question is not refused, it is answered -/
theorem look_of_not_refused {directory : Path} (h : ¬ Refused fs directory) :
    (∃ l e, fs.entryAt (projectPath directory) = .ok (l, e) ∧ fs.look (projectPath directory) = .ok (some e)) ∨
      (∀ l e, fs.entryAt (projectPath directory) ≠ .ok (l, e)) ∧ fs.look (projectPath directory) = .ok none := by
  by_cases hfound : ∃ l e, fs.entryAt (projectPath directory) = .ok (l, e)
  · obtain ⟨l, e, he⟩ := hfound
    exact Or.inl ⟨l, e, he, FileSystem.look_of_entryAt he⟩
  · push Not at hfound
    refine Or.inr ⟨hfound, ?_⟩
    cases hu : FileSystem.unusable (projectPath directory) with
    | none => exact FileSystem.look_of_missing (fun hlong => h ⟨hu, hlong⟩) hfound
    | some c =>
      have hos := Replace.unusable_ne_os hu
      have hentry : fs.entryAt (projectPath directory) = .error c := by
        rw [FileSystem.entryAt, FileSystem.locate, hu]
        rfl
      rw [FileSystem.look, hentry]
      cases c with
      | os e => exact absurd rfl (hos e)
      | _ => rfl

theorem HoldsObject.unique {content : Bytes} {project' : List (Value × Value)} (h : HoldsObject content project)
    (h' : HoldsObject content project') : project = project' := by
  obtain ⟨t, ht, hobject⟩ := h
  obtain ⟨t', ht', hobject'⟩ := h'
  cases ht.symm.trans ht'
  cases hobject.symm.trans hobject'
  rfl

theorem Project.unique {directory : Path} {project' : List (Value × Value)} (h : Project fs directory project)
    (h' : Project fs directory project') : project = project' := by
  cases h with
  | missing hno =>
    cases h' with
    | missing _ => rfl
    | read hentry _ => exact absurd hentry (hno _ _ _)
  | read hentry hobject =>
    cases h' with
    | missing hno => exact absurd hentry (hno _ _ _)
    | read hentry' hobject' =>
      cases hentry.symm.trans hentry'
      exact hobject.unique hobject'

theorem readProject_eq_ok {path : Path} {content : Bytes} :
    readProject path (.ok content) = .ok project ↔ HoldsObject content project := by
  unfold HoldsObject
  cases hdecode : Utf8.decode content with
  | error e => simp [readProject, hdecode, failure]
  | ok t =>
    cases hread : Json.read (Text.unifyNewlines t) with
    | error e => simp [readProject, hdecode, hread, failure]
    | ok v => cases v <;> simp [readProject, hdecode, hread, failure]

/-- all else that a project file holds is a failure of the settings -/
theorem readProject_cases (path : Path) (content : Bytes) :
    (∃ entries, readProject path (.ok content) = .ok entries) ∨
      ∃ message, readProject path (.ok content) = failure message := by
  unfold readProject
  dsimp only
  split
  · exact Or.inr ⟨_, rfl⟩
  · split
    · exact Or.inr ⟨_, rfl⟩
    · exact Or.inl ⟨_, rfl⟩
    · exact Or.inr ⟨_, rfl⟩

theorem projectEntries_cases {directory : Path} (h : ¬ Refused fs directory) :
    (∃ found, projectEntries fs directory = .ok found ∧ Project fs directory (found.getD [])) ∨
      (∀ project, ¬ Project fs directory project) ∧ ∃ message, projectEntries fs directory = failure message := by
  have hpath : (directory.child projectFileName).toText = projectPath directory := rfl
  rcases look_of_not_refused h with ⟨l, e, hentry, hlook⟩ | ⟨hnone, hlook⟩
  · cases e with
    | file content mode =>
      simp only [projectEntries, hpath, hlook, FileSystem.readFile_of_entryAt hentry]
      rcases readProject_cases (directory.child projectFileName) content with ⟨entries, hr⟩ | ⟨message, hr⟩
      · exact Or.inl ⟨some entries, by rw [hr]; rfl, .read hentry (readProject_eq_ok.1 hr)⟩
      · refine Or.inr ⟨fun project hproject => ?_, message, by rw [hr]; rfl⟩
        cases hproject with
        | missing hmissing => exact hmissing _ _ _ hentry
        | read hentry' hobject =>
          cases hentry.symm.trans hentry'
          cases hr.symm.trans (readProject_eq_ok.2 hobject)
    | _ =>
      refine Or.inl ⟨none, by simp only [projectEntries, hpath, hlook], .missing fun k content mode hfile => ?_⟩
      cases hentry.symm.trans hfile
  · exact Or.inl ⟨none, by simp only [projectEntries, hpath, hlook], .missing fun k content mode => hnone k _⟩

/-! ## Settings or a failure -/

/-- the settings of a run as they should be -/
def Accepted (fs : FileSystem) (env : Environment) (overrides : Overrides) (settings : Settings) : Prop :=
  ∃ directory project, fs.workingDirectory = .ok directory ∧ Project fs directory project ∧
    (∀ e ∈ project, IsAmong keys e.1) ∧ Makes (effective env overrides project) settings ∧ Apart settings

/-- whether there is a project file cannot be told -/
inductive Unaskable (fs : FileSystem) : Prop
  | removed (h : fs.cwd.isGone = true)
  | refused {directory : Path} (hd : fs.workingDirectory = .ok directory) (h : Refused fs directory)

theorem Accepts.unique {α : Type} {check : Value → Checked α} {default a b : α} {v : Option Value}
    (ha : Accepts check default v a) (hb : Accepts check default v b) : a = b := by
  cases v with
  | none => exact Eq.trans ha (Eq.symm hb)
  | some v => simpa using Eq.trans (Eq.symm ha) hb

theorem Makes.unique {values : Overrides} {s s' : Settings} (h : Makes values s) (h' : Makes values s') : s = s' := by
  have h1 := Accepts.unique h.sourceDir h'.sourceDir
  have h2 := Accepts.unique h.descriptorSuffix h'.descriptorSuffix
  have h3 := Accepts.unique h.declarationSuffix h'.declarationSuffix
  have h4 := Accepts.unique h.failFast h'.failFast
  cases s
  cases s'
  simp_all

theorem Accepted.unique {s s' : Settings} (h : Accepted fs env overrides s) (h' : Accepted fs env overrides s') :
    s = s' := by
  obtain ⟨directory, project, hd, hproject, -, hmakes, -⟩ := h
  obtain ⟨directory', project', hd', hproject', -, hmakes', -⟩ := h'
  cases hd.symm.trans hd'
  obtain rfl := hproject.unique hproject'
  exact hmakes.unique hmakes'

theorem resolve_of_project {directory : Path} {found : Option (List (Value × Value))}
    (hd : fs.workingDirectory = .ok directory) (hp : projectEntries fs directory = .ok found) :
    resolve fs env overrides = match ofValue (.map (entriesOf env overrides (found.getD []))) with
      | .error message => failure ("Invalid configuration: " ++ message)
      | .ok s => checkSuffixes s := by
  unfold resolve
  rw [hd]
  change (projectEntries fs directory).bind _ = _
  rw [hp]
  rfl

theorem resolve_cases (h : ¬ Unaskable fs) (env : Environment) (overrides : Overrides) :
    (∃ s, resolve fs env overrides = .ok s ∧ Accepted fs env overrides s) ∨
      (∀ s, ¬ Accepted fs env overrides s) ∧ ∃ message, resolve fs env overrides = failure message := by
  obtain ⟨directory, hd⟩ : ∃ directory, fs.workingDirectory = .ok directory := by
    refine ⟨fs.cwd.toPath, ?_⟩
    rw [FileSystem.workingDirectory, if_neg fun hgone => h (.removed hgone)]
  rcases projectEntries_cases fun hr => h (.refused hd hr) with ⟨found, hp, hproject⟩ | ⟨hno, message, hp⟩
  · rw [resolve_of_project hd hp]
    have honly : ∀ s, Accepted fs env overrides s →
        ofValue (.map (entriesOf env overrides (found.getD []))) = .ok s ∧ Apart s := by
      rintro s ⟨directory', project, hd', hproject', hknown, hmakes, hapart⟩
      cases hd.symm.trans hd'
      obtain rfl := hproject.unique hproject'
      exact ⟨ofValue_entriesOf.2 ⟨hknown, hmakes⟩, hapart⟩
    cases hvalue : ofValue (.map (entriesOf env overrides (found.getD []))) with
    | error why =>
      refine Or.inr ⟨fun s hs => ?_, _, rfl⟩
      cases hvalue.symm.trans (honly s hs).1
    | ok s =>
      rcases checkSuffixes_cases s with ⟨hapart, hcheck⟩ | ⟨hapart, message, hcheck⟩
      · obtain ⟨hknown, hmakes⟩ := ofValue_entriesOf.1 hvalue
        exact Or.inl ⟨s, hcheck, directory, _, hd, hproject, hknown, hmakes, hapart⟩
      · refine Or.inr ⟨fun s' hs' => ?_, message, hcheck⟩
        cases hvalue.symm.trans (honly s' hs').1
        exact hapart (honly s hs').2
  · refine Or.inr ⟨?_, message, ?_⟩
    · rintro s ⟨directory', project, hd', hproject, -⟩
      cases hd.symm.trans hd'
      exact hno project hproject
    · simp only [resolve, hd, hp, bind, Except.bind, Except.mapError, failure]

theorem resolve_of_unaskable (h : Unaskable fs) (env : Environment) (overrides : Overrides) :
    ∃ c, resolve fs env overrides = .error (.crash c) := by
  cases h with
  | removed hgone =>
    have hd : fs.workingDirectory = .error (.os ⟨.noEntry, none, none⟩) := by
      rw [FileSystem.workingDirectory, if_pos hgone]
    exact ⟨.os ⟨.noEntry, none, none⟩, by simp only [resolve, hd, bind, Except.bind, Except.mapError]⟩
  | @refused directory hd hr =>
    have hpath : (directory.child projectFileName).toText = projectPath directory := rfl
    have hp : projectEntries fs directory =
        .error (.crash (.os (OsCause.nameTooLong.on (projectPath directory)))) := by
      simp only [projectEntries, hpath, look_of_refused hr]
    exact ⟨.os (OsCause.nameTooLong.on (projectPath directory)),
      by simp only [resolve, hd, hp, bind, Except.bind, Except.mapError]⟩

/-- **Which settings a run has.** Where it can be told whether there is a project file, there are settings exactly when
that file is fit for them and each value that counts can be one, and they are these values; in every other case the
settings fail. Where it cannot be told there is a crash, and nowhere else. -/
theorem resolve_precedence (fs : FileSystem) (env : Environment) (overrides : Overrides) :
    (¬ Unaskable fs → (∀ s, resolve fs env overrides = .ok s ↔ Accepted fs env overrides s) ∧
      ((∀ s, ¬ Accepted fs env overrides s) →
        ∃ message, resolve fs env overrides = .error (.failure (Failure.of .settings message)))) ∧
    ((∃ c, resolve fs env overrides = .error (.crash c)) ↔ Unaskable fs) := by
  by_cases h : Unaskable fs
  · have hcrash := resolve_of_unaskable h env overrides
    simp [h, hcrash]
  · rcases resolve_cases h env overrides with ⟨s, hs, haccepted⟩ | ⟨hno, message, hfails⟩
    · refine ⟨fun _ => ⟨fun s' => ?_, fun hno => absurd haccepted (hno s)⟩, ?_⟩
      · rw [hs, Except.ok.injEq]
        constructor
        · rintro rfl
          exact haccepted
        · exact haccepted.unique
      · simp [hs, h]
    · refine ⟨fun _ => ⟨fun s' => ?_, fun _ => ⟨message, hfails⟩⟩, ?_⟩
      · simp [hfails, failure, hno s']
      · simp [hfails, failure, h]

/-- a project file whose source directory is no text: no harm where the command line gives another, but a key that is no
setting is refused -/
theorem resolve_precedence_overridden :
    let fs (file : String) : FileSystem :=
      ⟨[([("dtsgen.json" : Text)], .file (Utf8.encodeAll file) 0o644)], [], 0o022, [], .usual⟩
    let good := fs "\x7b\"source_dir\":5,\"fail_fast\":true\x7d"
    let bad := fs "\x7b\"source_dir\":5,\"dry_run\":true\x7d"
    let env : Environment := [("DTSGEN_SOURCE_DIR", "e"), ("DTSGEN_DESCRIPTOR_SUFFIX", ""),
      ("DTSGEN_DECLARATION_SUFFIX", ".ts")]
    let overrides : Overrides := ⟨some (.text "c"), none, none, none⟩
    ¬ Unaskable good ∧ ¬ Unaskable bad ∧ Accepted good env overrides ⟨"c", ".json", ".ts", true⟩ ∧
      (∀ s, ¬ Accepted bad env overrides s) ∧
      resolve good env overrides = .ok ⟨"c", ".json", ".ts", true⟩ ∧
      ∃ message, resolve bad env overrides = .error (.failure (Failure.of .settings message)) := by
  intro fs good bad env overrides
  have hask : ∀ file, (fs file).resolve .target (projectPath ⟨"/", []⟩) ≠ .error .nameTooLong →
      ¬ Unaskable (fs file) := by
    intro file hlong h
    cases h with
    | removed hgone =>
      have hroot : Location.isGone [] = true := hgone
      exact absurd hroot (by decide)
    | refused hd hr =>
      cases hd
      exact hlong hr.2
  have hgood : ¬ Unaskable good := hask _ (by decide +kernel)
  have hbad : ¬ Unaskable bad := hask _ (by decide +kernel)
  have hresolved : resolve good env overrides = .ok ⟨"c", ".json", ".ts", true⟩ := by decide +kernel
  obtain ⟨hiff, -⟩ := (resolve_precedence good env overrides).1 hgood
  obtain ⟨hnone, hfails⟩ := (resolve_precedence bad env overrides).1 hbad
  have hno : ∀ s, ¬ Accepted bad env overrides s := by
    intro s hs
    have hrefused : (resolve bad env overrides).isOk = false := by decide +kernel
    rw [(hnone s).2 hs] at hrefused
    cases hrefused
  exact ⟨hgood, hbad, (hiff _).1 hresolved, hno, hresolved, hfails hno⟩

/-- **A link to a name that is too long** stands where the project file would be. It leads to no file, so the defaults
should count; the question for it crashes instead. -/
theorem long_link_crashes :
    let fs : FileSystem :=
      ⟨[([("dtsgen.json" : Text)], .link (List.replicate 300 (CodePoint.ofChar 'x')))], [], 0o022, [], .usual⟩
    fs.WellFormed ∧ (∀ l content mode, fs.entryAt "/dtsgen.json" ≠ .ok (l, .file content mode)) ∧
      Accepted fs [] {} default ∧
      resolve fs [] {} = .error (.crash (.os (OsCause.nameTooLong.on "/dtsgen.json"))) := by
  intro fs
  have hentry : fs.entryAt "/dtsgen.json" = .error (.os (OsCause.nameTooLong.on "/dtsgen.json")) := by
    decide +kernel
  have hmissing : ∀ l content mode, fs.entryAt "/dtsgen.json" ≠ .ok (l, .file content mode) := by
    intro l content mode h
    rw [hentry] at h
    cases h
  have hapart : Apart default := ⟨by decide, by decide, by decide⟩
  refine ⟨by decide +kernel, hmissing, ⟨⟨"/", []⟩, [], rfl, .missing hmissing, ?_, ⟨rfl, rfl, rfl, rfl⟩, hapart⟩, ?_⟩
  · intro e he
    cases he
  · decide +kernel

end Settings
end Typings
