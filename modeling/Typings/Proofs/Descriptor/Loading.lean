/-
Loading: how the loading of a descriptor fails.

A file that cannot be read is a failure of storage, and a text that is no descriptor one of its form; both carry the
path. What crashes is neither: a path that cannot be used, and the texts on which the readers crash.
- `Document.read_fails`, `Document.IllFormed.fails`: the texts that fail are those that are ill-formed.
- `load_storage_iff`, `load_malformed_iff`: when each failure comes.
- `load_fails`: there are no other ends, and crashes are exactly those of `Unloadable`.
- `dates_escape`: the price. There are ordinary files that crash.
-/
import Typings.Proofs.Descriptor.Acceptance
import Typings.Proofs.Generate.Failures
import Typings.Proofs.Generate.Leaks

namespace Typings

/-- an end with a failure of a kind -/
def FailsAs {α : Type} (kind : Failure.Kind) (x : Except Trouble α) : Prop :=
  ∃ message, x = .error (.failure (Failure.of kind message))

/-! ## Documents -/

namespace Document

variable {form : Form} {path : Option Path} {text : Text} {f : Failure}

/-- the texts that are ill-formed: as JSON, or as YAML where they may be that -/
inductive IllFormed (form : Form) (text : Text) : Prop
  | json {e : Json.Error} (hf : form = .json) (h : Json.read text = .error (.malformed e)) : IllFormed form text
  | yaml {e : Yaml.Failure} (hf : AsYaml form text) (h : Yaml.read text = .error e) (hc : ∀ f, e ≠ .fault f) :
      IllFormed form text

theorem readYaml_fails {j : Option Json.Error} (h : readYaml path j text = .error (.failure f)) :
    (∃ e, Yaml.read text = .error e ∧ ∀ f, e ≠ .fault f) ∧ ∃ message, f = Failure.of (.descriptor path) message := by
  unfold readYaml at h
  cases he : Yaml.read text with
  | ok v => simp [he] at h
  | error e =>
    cases e with
    | fault _ => simp [he] at h
    | _ =>
      simp only [he] at h
      cases h
      exact ⟨⟨_, rfl, by simp⟩, _, rfl⟩

theorem readYaml_malformed {e : Yaml.Failure} (h : Yaml.read text = .error e) (hc : ∀ f, e ≠ .fault f)
    (j : Option Json.Error) : FailsAs (.descriptor path) (readYaml path j text) := by
  unfold readYaml
  rw [h]
  cases e with
  | fault f => exact absurd rfl (hc f)
  | _ => exact ⟨_, rfl⟩

/-- a text fails in its form only, because it is ill-formed -/
theorem read_fails (h : read form path text = .error (.failure f)) :
    IllFormed form text ∧ ∃ message, f = Failure.of (.descriptor path) message := by
  unfold read at h
  by_cases hf : form = .yaml
  · rw [if_pos hf] at h
    obtain ⟨⟨e, he, hc⟩, hmessage⟩ := readYaml_fails h
    exact ⟨.yaml (Or.inl hf) he hc, hmessage⟩
  · rw [if_neg hf] at h
    cases hj : Json.read text with
    | ok v => simp [hj] at h
    | error stop =>
      cases stop with
      | digits count => simp [hj] at h
      | malformed e =>
        simp only [hj] at h
        by_cases hjson : form = .json
        · rw [if_pos hjson] at h
          cases h
          exact ⟨.json hjson hj, _, rfl⟩
        · rw [if_neg hjson] at h
          obtain ⟨⟨e', he, hc⟩, hmessage⟩ := readYaml_fails h
          have heither : form = .either := by cases form <;> simp_all
          exact ⟨.yaml (Or.inr ⟨heither, e, hj⟩) he hc, hmessage⟩

/-- and an ill-formed text does fail -/
theorem IllFormed.fails (h : IllFormed form text) (path : Option Path) :
    FailsAs (.descriptor path) (read form path text) := by
  unfold read
  rcases h with ⟨hf, h⟩ | ⟨hf | ⟨hf, e, hj⟩, h, hc⟩
  · rw [if_neg (by simp [hf]), h]
    simp only [hf, if_true]
    exact ⟨_, rfl⟩
  · rw [if_pos hf]
    exact readYaml_malformed h hc none
  · rw [if_neg (by simp [hf]), hj]
    simp only [hf, reduceCtorEq, if_false]
    exact readYaml_malformed h hc (some e)

end Document

/-! ## Files -/

namespace Descriptor

open FileSystem Generate

variable {fs : FileSystem} {p : Path}

/-- the ways in which the content of a file is no descriptor -/
inductive Malformed (fs : FileSystem) (p : Path) : Prop
  /-- octets that are no text -/
  | octets {content : Bytes} {fault : Utf8.Undecodable} (h : fs.readFile p.toText = .ok content)
      (hd : Utf8.decode content = .error fault) : Malformed fs p
  | blank {content : Bytes} {raw : Text} (h : fs.readFile p.toText = .ok content) (hd : Utf8.decode content = .ok raw)
      (hb : (Text.unifyNewlines raw).isBlank = true) : Malformed fs p
  | form {content : Bytes} {raw : Text} (h : fs.readFile p.toText = .ok content) (hd : Utf8.decode content = .ok raw)
      (hb : (Text.unifyNewlines raw).isBlank = false)
      (hf : Document.IllFormed (Document.Form.ofPath p) (Text.unifyNewlines raw)) : Malformed fs p
  | shape {content : Bytes} {raw : Text} {v : Value} (h : fs.readFile p.toText = .ok content)
      (hd : Utf8.decode content = .ok raw) (hb : (Text.unifyNewlines raw).isBlank = false)
      (hv : Document.read (Document.Form.ofPath p) (some p) (Text.unifyNewlines raw) = .ok v)
      (hs : ∀ d, ofValue (some p) v ≠ .ok d) : Malformed fs p

/-- octets that are read fail in their form only, for one of these reasons -/
theorem ofBytes_fails {content : Bytes} {f : Failure} (hread : fs.readFile p.toText = .ok content)
    (h : ofBytes p content = .error (.failure f)) :
    Malformed fs p ∧ ∃ message, f = Failure.of (.descriptor (some p)) message := by
  unfold ofBytes at h
  cases hd : Utf8.decode content with
  | error fault =>
    simp only [hd] at h
    cases h
    exact ⟨.octets hread hd, _, rfl⟩
  | ok raw =>
    simp only [hd] at h
    cases hb : (Text.unifyNewlines raw).isBlank with
    | true =>
      simp only [hb, if_true] at h
      cases h
      exact ⟨.blank hread hd hb, _, rfl⟩
    | false =>
      simp only [hb, Bool.false_eq_true, if_false] at h
      cases hv : Document.read (Document.Form.ofPath p) (some p) (Text.unifyNewlines raw) with
      | error t =>
        simp only [hv, Except.error.injEq] at h
        subst h
        obtain ⟨hform, hmessage⟩ := Document.read_fails hv
        exact ⟨.form hread hd hb hform, hmessage⟩
      | ok v =>
        cases hs : ofValue (some p) v with
        | ok d => simp [hv, hs] at h
        | error g =>
          simp only [hv, hs, Except.error.injEq, Trouble.failure.injEq] at h
          subst h
          exact ⟨.shape hread hd hb hv (by simp [hs]), ofValue_fails hs⟩

/-- **A failure of storage** comes exactly where the file cannot be read. -/
theorem load_storage_iff : FailsAs (.storage (some p)) (load fs p) ↔ ∃ e, fs.readFile p.toText = .error (.os e) := by
  constructor
  · rintro ⟨message, h⟩
    unfold load at h
    split at h
    · rename_i content hread
      obtain ⟨-, other, hf⟩ := ofBytes_fails hread h
      cases congrArg Failure.kind hf
    · exact ⟨_, by assumption⟩
    · cases h
  · rintro ⟨e, h⟩
    rw [load, h]
    exact ⟨_, rfl⟩

/-- **A failure of form** comes exactly where its content is no descriptor. -/
theorem load_malformed_iff : FailsAs (.descriptor (some p)) (load fs p) ↔ Malformed fs p := by
  constructor
  · rintro ⟨message, h⟩
    unfold load at h
    split at h
    · rename_i content hread
      exact (ofBytes_fails hread h).1
    · simp [Failure.of] at h
    · cases h
  · intro h
    cases h with
    | octets h hd =>
      simp only [load, h, ofBytes, hd]
      exact ⟨_, rfl⟩
    | blank h hd hb =>
      simp only [load, h, ofBytes, hd, hb, if_true]
      exact ⟨_, rfl⟩
    | form h hd hb hf =>
      obtain ⟨message, hm⟩ := hf.fails (some p)
      simp only [load, h, ofBytes, hd, hb, Bool.false_eq_true, if_false, hm]
      exact ⟨_, rfl⟩
    | shape h hd hb hv hs =>
      simp only [load, h, ofBytes, hd, hb, Bool.false_eq_true, if_false, hv]
      cases he : ofValue (some p) _ with
      | ok d => exact absurd he (hs d)
      | error f =>
        obtain ⟨message, rfl⟩ := ofValue_fails he
        exact ⟨message, rfl⟩

/-- **How loading fails.** A descriptor that does not crash is loaded, or fails with its path: as storage exactly where
its file cannot be read, and in its form exactly where the octets are no text, or the text is blank, ill-formed or of
another shape. -/
theorem load_fails (fs : FileSystem) (p : Path) :
    (¬ Unloadable fs p ↔ (∃ d, load fs p = .ok d) ∨ FailsAs (.storage (some p)) (load fs p) ∨
      FailsAs (.descriptor (some p)) (load fs p)) ∧
    (FailsAs (.storage (some p)) (load fs p) ↔ ∃ e, fs.readFile p.toText = .error (.os e)) ∧
    (FailsAs (.descriptor (some p)) (load fs p) ↔ Malformed fs p) := by
  refine ⟨?_, load_storage_iff, load_malformed_iff⟩
  rw [← load_crash_iff]
  constructor
  · intro h
    cases hload : load fs p with
    | ok d => exact Or.inl ⟨d, rfl⟩
    | error t =>
      cases t with
      | crash c => exact absurd ⟨c, hload⟩ h
      | failure f =>
        cases hread : fs.readFile p.toText with
        | ok content =>
          have hbytes : ofBytes p content = .error (.failure f) := by rwa [load, hread] at hload
          obtain ⟨-, message, rfl⟩ := ofBytes_fails hread hbytes
          exact Or.inr (Or.inr ⟨message, rfl⟩)
        | error e =>
          cases e with
          | os e =>
            rw [← hload]
            exact Or.inr (Or.inl (load_storage_iff.2 ⟨e, hread⟩))
          | _ => simp [load, hread] at hload
  · rintro (⟨d, h⟩ | ⟨message, h⟩ | ⟨message, h⟩) ⟨c, hc⟩ <;> cases h.symm.trans hc

/-- **A date that is none** gets out as it is, and so does a truth value that is none: neither is a failure. -/
theorem dates_escape :
    let fs : FileSystem := ⟨[([("A.yaml" : Text)],
      .file (Utf8.encodeAll "name: A\nmethods: []\nx: 2001-99-99\n") 0o644),
      (["B"], .file (Utf8.encodeAll "name: B\nmethods: []\nx: !!bool maybe\n") 0o644)], [], 0o022, [], .usual⟩
    fs.WellFormed ∧ unusable "A.yaml" = none ∧ unusable "B" = none ∧
      load fs (Path.ofText "A.yaml") = .error (.crash (.value "month must be in 1..12")) ∧
      load fs (Path.ofText "B") = .error (.crash (.key "maybe")) := by
  intro fs
  refine ⟨by decide, by decide, by decide, ?_, ?_⟩ <;> decide +kernel

end Descriptor
end Typings
