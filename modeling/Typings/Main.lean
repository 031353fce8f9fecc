/-
The command line on a real machine.

What a run can look at is read into a file system before it starts: the working directory, every path among the
words and the variables, and the data directory. Afterwards what has changed is stored, and the streams and the exit
code are given. The permissions of what is read are not asked for: directories, files and pipes get those of new ones.
-/
import Std.Time.Zoned
import Typings.Program

namespace Typings.Main

/-- a text of characters; a half of a surrogate pair has none and becomes the replacement character -/
def string (t : Text) : String :=
  String.ofList (t.map fun c => if c.isSurrogate then Char.ofNat 0xFFFD else Char.ofNat c.val)

/-- the variables that matter -/
def variableNames : List String :=
  ["HOME", "XDG_DATA_HOME", "COLUMNS", "LINES", "COLORTERM", "NO_COLOR", "TERM", "DTSGEN_SOURCE_DIR",
    "DTSGEN_DESCRIPTOR_SUFFIX", "DTSGEN_DECLARATION_SUFFIX"]

def environment : IO Environment :=
  variableNames.filterMapM fun name => do
    return (← IO.getEnv name).map fun value => (Text.ofString name, Text.ofString value)

/-- the digits of date and time -/
def moment : IO Text := do
  let now ← Std.Time.PlainDateTime.now
  let digits (width : Nat) (n : Int) : Text := Text.zeroFill width (Text.ofNat n.toNat)
  return digits 4 now.year.toInt ++ digits 2 now.month.toInt ++ digits 2 now.day.toInt ++ "-"
    ++ digits 2 now.hour.toInt ++ digits 2 now.minute.toInt ++ digits 2 now.second.toInt

/-! ## Reading -/

mutual

/-- adds what stands at a location, and below it unless only the way is asked for; the modes are not read -/
partial def readEntry (fs : FileSystem) (whole : Bool) (l : Location) : IO FileSystem := do
  let p := (← IO.currentDir) / string l.toPath.toText
  let known := fs.find? l
  try
    match (← p.symlinkMetadata).type with
    | .dir =>
      let fs := if known.isSome then fs else fs.put l fs.newDirectory
      if !whole then return fs
      try
        (← p.readDir).foldlM (fun fs e => readEntry fs true (l ++ [Text.ofString e.fileName])) fs
      catch _ => return { fs with denied := l.toPath.toText :: fs.denied }
    | .symlink =>
      if known.isSome then return fs
      let target := Path.ofText (Text.ofString (← IO.FS.realPath p).toString)
      let fs := fs.put l (.link target.toText)
      if target.names == l then return fs
      readWay fs whole target.names
    | .file =>
      if known.isSome then return fs
      return fs.put l (.file (← IO.FS.readBinFile p).toList fs.newMode)
    | .other => return if known.isSome then fs else fs.put l (.pipe fs.newMode)
  catch _ => return fs

/-- adds the directories that lead to a location, and all below it if the whole is asked for -/
partial def readWay (fs : FileSystem) (whole : Bool) (l : Location) : IO FileSystem := do
  let fs ← (List.range l.length).foldlM (fun fs n => readEntry fs false (l.take n)) fs
  readEntry fs whole l

end

/-- the files that a run with some words can look at -/
def files (env : Environment) (words : List Text) : IO FileSystem := do
  let cwd := (Path.ofText (Text.ofString (← IO.currentDir).toString)).names
  let fs ← readWay { entries := [], cwd, umask := 0o022, denied := [], choices := .usual } true cwd
  let data := match DataDirectory.path "Linux" env with
    | .ok p => [p.toText]
    | .error _ => []
  (words ++ env.map Prod.snd ++ data).foldlM (fun fs t => do
    let l := (fs.cwd.toPath.join (Path.ofText t)).normalize.names
    if l.length ≤ 1 || (fs.find? l).isSome then return fs else readWay fs true l) fs

/-! ## Storing -/

/-- stores the entries that are not what they were -/
def store (before after : FileSystem) : IO Unit := do
  for (l, e) in after.entries do
    let old := before.find? l
    if old != some e then
      let p := (← IO.currentDir) / string l.toPath.toText
      match e with
      | .directory _ => IO.FS.createDirAll p
      | .file content _ =>
        if old matches some (.link _) then IO.FS.removeFile p
        IO.FS.writeBinFile p (ByteArray.mk content.toArray)
      | _ => pure ()

/-- a run with some words, and its exit code -/
def run (words : List Text) : IO UInt32 := do
  let env ← environment
  let fs ← files env words
  let watched ← (← IO.getStdout).isTty
  let outcome := Program.run { fs, env, system := "Linux", watched, moment := ← moment } none words
  store fs outcome.fs
  (← IO.getStdout).putStr (string outcome.out)
  (← IO.getStderr).putStr (string outcome.err)
  match outcome.exit with
  | .ok code => return code.toNat.toUInt32
  | .error c =>
    (← IO.getStderr).putStr (string (CrashLog.lastLine c ++ "\n"))
    return Program.crashed.toNat.toUInt32

end Typings.Main

def main (words : List String) : IO UInt32 := Typings.Main.run (words.map Typings.Text.ofString)
