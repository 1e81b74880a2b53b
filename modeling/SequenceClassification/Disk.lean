import SequenceClassification.Path
import SequenceClassification.Failure
import SequenceClassification.Text.Quoted
import SequenceClassification.Text.Utf8
import SequenceClassification.Tokenizer.Piece
import SequenceClassification.Weights.Stored

/-!
The files a pipeline can reach. Files are found by their written path; what is not listed is missing. A
file holds octets, or, where the bytes of its format do not matter, what the format describes: the pieces
of a unigram model, or stored weights.
-/
namespace SequenceClassification

inductive FileContent where
  | missing
  | directory
  | octets (bytes : List Nat)
  | pieces (model : List Tokenizer.Piece)
  | stored (value : Weights.Stored)
deriving Inhabited

abbrev Disk := Entries String FileContent

inductive OpenFault where
  | noSuchFile
  | notDirectory
  | isDirectory
  | noText (e : Text.Utf8Error)
deriving Repr, DecidableEq

def OpenFault.message (path : String) : OpenFault → String
  | .noSuchFile => "[Errno 2] No such file or directory: " ++ Text.quoted path
  | .notDirectory => "[Errno 20] Not a directory: " ++ Text.quoted path
  | .isDirectory => "[Errno 21] Is a directory: " ++ Text.quoted path
  | .noText e => e.message

def OpenFault.failure (path : String) (f : OpenFault) : Failure :=
  ⟨match f with
    | .noSuchFile => .fileNotFound
    | .notDirectory => .foreign "NotADirectoryError"
    | .isDirectory => .isDirectory
    | .noText _ => .undecodable, f.message path⟩

namespace FileContent

def isFile : FileContent → Bool
  | .missing | .directory => false
  | _ => true

/-- The octets of the file at a path. Formats given by what they describe have the octets of no text. -/
def bytes : FileContent → Except OpenFault (List Nat)
  | .missing => .error .noSuchFile
  | .directory => .error .isDirectory
  | .octets bytes => .ok bytes
  | .pieces _ | .stored _ => .ok [0x80]

def text (content : FileContent) : Except OpenFault (List Char) :=
  match content.bytes with
  | .error e => .error e
  | .ok bytes =>
    match Text.decodeUtf8 bytes with
    | .error e => .error (.noText e)
    | .ok s => .ok (Text.unifyLineEnds s)

end FileContent

namespace Disk

def find (disk : Disk) (path : String) : FileContent :=
  (Entries.get? (Path.normalize path) disk).getD .missing

def parents (path : String) : List String :=
  let parts := Path.components path.toList
  (List.range parts.length).map fun n =>
    String.ofList (Path.joined (Path.root path.toList) (parts.take n))

/-- Opening the file at a path: a missing path that leads through a file leads through no directory. -/
def openFile (disk : Disk) (path : String) : Except OpenFault (List Nat) :=
  match (disk.find path).bytes with
  | .error .noSuchFile =>
    .error (if (parents path).any fun p => (disk.find p).isFile then .notDirectory else .noSuchFile)
  | found => found

end Disk

end SequenceClassification
