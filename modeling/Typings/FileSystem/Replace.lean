/-
Replacing a file in one step.

The new content goes to a temporary file in the same directory, which is given the permissions of the old file, or
those of a new one, and is then renamed over it. The steps are listed one by one. A disturbance may strike before any
of them or after the last: the call of a step is refused, if it is one that can be, or an interrupt comes. Whatever
ends the replacement early removes the temporary file, once the guarded block is entered; an interrupt between the
making of the file and the entrance leaves it.
-/
import Typings.FileSystem.Operations

namespace Typings

namespace Replace

/-- the steps of a replacement, in order -/
inductive Step
  | create
  /-- enters the block that removes the temporary file when it is left early; all later steps are in it -/
  | guard
  | write
  | flush
  | sync
  | close
  /-- asks for the permissions of the old file -/
  | readMode
  /-- the mask is only read by setting it, so it is cleared and set again -/
  | clearMask
  | restoreMask
  | changeMode
  | rename
  deriving DecidableEq, Repr

/-- all steps in their order -/
def steps : List Step :=
  [.create, .guard, .write, .flush, .sync, .close, .readMode, .clearMask, .restoreMask, .changeMode, .rename]

/-- whether a step can be refused for a cause: the guarded block is entered and the mask is set without fail, a name
that is taken only leads to the next draw, and that there is no old file answers the question for its permissions -/
def Step.canBeRefused : Step → OsCause → Bool
  | .guard, _ | .clearMask, _ | .restoreMask, _ => false
  | .create, cause => cause != .exists
  | .readMode, cause => cause != .noEntry
  | _, _ => true

/-- what ends a replacement early -/
inductive Halt
  | crash (c : Crash)
  | interrupt
  deriving DecidableEq, Repr

/-- a disturbance: the call of a step is refused, or an interrupt comes before it -/
inductive Disturbance
  | refusal (e : OsError)
  | interrupt
  deriving DecidableEq, Repr

/-- a disturbance and the number of steps before it -/
abbrev Strike := Nat × Disturbance

/-- the request and what the steps have found so far -/
structure State where
  fs : FileSystem
  path : Path
  text : Text
  /-- the path and the place of the temporary file, once it is made -/
  temporary : Option (Text × Location)
  /-- whether the guarded block is entered -/
  guarded : Bool
  /-- the permissions of the old file; none if there is none -/
  oldMode : Option Nat
  /-- the mask while it is cleared -/
  mask : Option Nat

/-! ## The temporary file -/

/-- the name of the temporary file: hidden, beside the file it will replace -/
def temporaryName (name : Text) (draw : Draw) : Text := "." ++ name ++ "." ++ draw.text ++ ".tmp"

/-- whether something stands at a path -/
def isTaken (fs : FileSystem) (path : Text) : Bool :=
  match fs.locate .entry path with
  | .ok (.entry _ _) => true
  | _ => false

/-- the path at which the search for a free one ends: the first that is not taken, or the last of all -/
def lastTried (fs : FileSystem) (path : Text) : List Text → Text
  | [] => path
  | next :: rest => if isTaken fs path then lastTried fs next rest else path

/-- the path that a draw gives a temporary file in a directory -/
def candidate (directory : Path) (name : Text) (draw : Draw) : Text :=
  directory.toText ++ Text.only (directory.toText.getLast? != some Path.slash) [Path.slash] ++ temporaryName name draw

/-- the path of the temporary file, in the directory of the old one without double dots -/
def temporaryPath (fs : FileSystem) (path : Path) : Except Crash Text := do
  let directory := (← fs.absolute path.parent).normalize
  let draws := fs.choices.draws path
  return lastTried fs (candidate directory path.name draws.first) (draws.others.map (candidate directory path.name))

/-- the content of a temporary file changed -/
def State.updateTemporary (s : State) (f : Bytes → Nat → Entry) : State :=
  match s.temporary with
  | none => s
  | some (_, l) =>
    match s.fs.find? l with
    | some (.file content mode) => { s with fs := s.fs.put l (f content mode) }
    | _ => s

/-! ## Steps -/

/-- makes the temporary file, readable by its owner only -/
def create (s : State) : Except Crash State := do
  let path ← temporaryPath s.fs s.path
  match ← s.fs.locate .entry path with
  | .entry _ _ => throw (.os ⟨.noFreeName, none, none⟩)
  | .absent l => return { s with fs := s.fs.put l (.file [] 0o600), temporary := some (path, l) }

/-- writes the text as octets -/
def write (s : State) : Except Crash State :=
  match Utf8.encode s.text with
  | .error fault => .error (.encoding fault)
  | .ok content => .ok (s.updateTemporary fun _ mode => .file content mode)

/-- the permissions of what the path leads to, if it leads to anything -/
def readMode (s : State) : Except Crash State :=
  match s.fs.entryAt s.path.toText with
  | .ok (_, e) => .ok { s with oldMode := some e.mode }
  | .error (.os e) => if e.cause = .noEntry then .ok { s with oldMode := none } else .error (.os e)
  | .error c => .error c

/-- whether a path ends in no name of its own: in a root, the working directory or a parent -/
def endsNameless (path : Text) : Bool :=
  match (FileSystem.stepsOf path).getLast? with
  | none => true
  | some name => name == ("." : Text) || name == (".." : Text)

/-- renames the temporary file; a link at the path is replaced itself, a directory is not replaced, and a path that
ends in no name of its own is in use -/
def rename (s : State) : Except Crash State :=
  match s.temporary with
  | none => .ok s
  | some (temporary, l) =>
    let refused (cause : OsCause) : Except Crash State := .error (.os ⟨cause, some temporary, some s.path.toText⟩)
    match s.fs.resolve .entry s.path.toText with
    | .error cause => refused cause
    | .ok found =>
      if endsNameless s.path.toText then refused .busy
      else match found with
      | .entry _ (.directory _) => refused .isDirectory
      | .entry target _ | .absent target =>
        match s.fs.find? l with
        | none => .ok s
        | some e => .ok { s with fs := (s.fs.erase l).put target e }

/-- one step -/
def step : Step → State → Except Crash State
  | .create, s => create s
  | .guard, s => .ok { s with guarded := true }
  | .write, s => write s
  | .flush, s => .ok s
  | .sync, s => .ok s
  | .close, s => .ok s
  | .readMode, s => readMode s
  | .clearMask, s =>
    .ok (if s.oldMode.isNone then { s with mask := some s.fs.umask, fs := { s.fs with umask := 0 } } else s)
  | .restoreMask, s =>
    .ok (match s.mask with
      | some mask => { s with mask := none, fs := { s.fs with umask := mask } }
      | none => s)
  | .changeMode, s => .ok (s.updateTemporary fun content _ => .file content (s.oldMode.getD s.fs.newMode))
  | .rename, s => rename s

/-! ## Runs -/

/-- how a replacement ends -/
structure Outcome where
  fs : FileSystem
  result : Except Halt Unit

/-- the end of a replacement that does not go on: in the guarded block the temporary file is removed -/
def cleanUp (s : State) (halt : Halt) : Outcome :=
  match s.temporary with
  | none => ⟨s.fs, .error halt⟩
  | some (_, l) => ⟨if s.guarded then s.fs.erase l else s.fs, .error halt⟩

/-- how a disturbance ends a replacement before a step, if one strikes here -/
def struck (st : Step) : Option Strike → Option Halt
  | some (0, .interrupt) => some .interrupt
  | some (0, .refusal e) => if st.canBeRefused e.cause then some (.crash (.os e)) else none
  | _ => none

/-- what is left of a disturbance behind a step that it does not end -/
def later : Option Strike → Option Strike
  | some (n + 1, d) => some (n, d)
  | _ => none

/-- runs steps, with a disturbance or without; behind the last step only an interrupt can strike -/
def runSteps (strike : Option Strike) : List Step → State → Outcome
  | [], s => if strike = some (0, .interrupt) then cleanUp s .interrupt else ⟨s.fs, .ok ()⟩
  | st :: rest, s =>
    match struck st strike with
    | some halt => cleanUp s halt
    | none =>
      match step st s with
      | .error c => cleanUp s (.crash c)
      | .ok s => runSteps (later strike) rest s

/-- replaces the file at a path by a text, with a disturbance or without -/
def run (fs : FileSystem) (path : Path) (text : Text) (strike : Option Strike) : Outcome :=
  runSteps strike steps ⟨fs, path, text, none, false, none, none⟩

theorem cleanUp_result (s : State) (halt : Halt) : (cleanUp s halt).result = .error halt := by
  unfold cleanUp
  split <;> rfl

/-- an undisturbed replacement is not interrupted -/
theorem run_ne_interrupt (fs : FileSystem) (path : Path) (text : Text) :
    (run fs path text none).result ≠ .error .interrupt := by
  have steps : ∀ l s, (runSteps none l s).result ≠ .error .interrupt := by
    intro l
    induction l with
    | nil => intro s h; cases h
    | cons st rest ih =>
      intro s h
      simp only [runSteps, struck] at h
      split at h
      · rw [cleanUp_result] at h; cases h
      · exact ih _ h
  exact steps _ _

end Replace

/-- replaces the file at a path by a text, undisturbed -/
def FileSystem.replace (fs : FileSystem) (path : Path) (text : Text) : FileSystem × Except Crash Unit :=
  match h : Replace.run fs path text none with
  | ⟨fs, .ok ()⟩ => (fs, .ok ())
  | ⟨fs, .error (.crash c)⟩ => (fs, .error c)
  | ⟨_, .error .interrupt⟩ => absurd (congrArg Replace.Outcome.result h) (Replace.run_ne_interrupt fs path text)

/-- an undisturbed replacement is one that is not struck -/
theorem Replace.run_none (fs : FileSystem) (path : Path) (text : Text) :
    Replace.run fs path text none = ⟨(fs.replace path text).1, (fs.replace path text).2.mapError .crash⟩ := by
  unfold FileSystem.replace
  split <;> rename_i h
  · exact h
  · exact h
  · exact absurd (congrArg Replace.Outcome.result h) (Replace.run_ne_interrupt fs path text)

end Typings
