/-
Loading descriptors from files.
-/
import Typings.Descriptor.Shape
import Typings.Document
import Typings.FileSystem.Operations
import Typings.Text.Blank
import Typings.Text.Newline

namespace Typings.Descriptor

/-- the descriptor in the octets of a file -/
def ofBytes (path : Path) (content : Bytes) : Except Trouble Descriptor :=
  let malformed (message : Text) : Except Trouble Descriptor :=
    .error (.failure (Failure.of (.descriptor (some path)) message))
  match Utf8.decode content with
  | .error e => malformed ("Descriptor " ++ path.toText ++ " is not valid UTF-8: " ++ e.message)
  | .ok raw =>
    let text := Text.unifyNewlines raw
    if text.isBlank then malformed ("Descriptor file is empty: " ++ path.toText)
    else
      match Document.read (Document.Form.ofPath path) (some path) text with
      | .error e => .error e
      | .ok v =>
        match ofValue (some path) v with
        | .ok d => .ok d
        | .error f => .error (.failure f)

/-- the descriptor in the file at a path -/
def load (fs : FileSystem) (path : Path) : Except Trouble Descriptor :=
  match fs.readFile path.toText with
  | .ok content => ofBytes path content
  | .error (.os e) =>
    .error (.failure (Failure.of (.storage (some path))
      ("Failed to read descriptor " ++ path.toText ++ ": " ++ e.message)))
  | .error c => .error (.crash c)

end Typings.Descriptor
