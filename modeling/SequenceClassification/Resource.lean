import SequenceClassification.Disk

/-!
References to the files of a pipeline, resolved to paths when the pipeline is built. A local reference is
the path itself; a remote one is a file of a repository, which a hub delivers to a cache.
-/
namespace SequenceClassification

def projectRoot : String := "<root>"

def defaultCache : String := projectRoot ++ "/.cache"

structure RemoteFile where
  repository : String
  file : String
  revision : Option String := none
  cache : String := defaultCache
deriving Repr, DecidableEq, Inhabited

inductive Resource where
  | unspecified
  | locally (path : String)
  | remotely (file : RemoteFile)
deriving Repr, DecidableEq, Inhabited

inductive HubAnswer where
  | path (path : String)
  | refusal (kind message : String)
deriving Repr, DecidableEq, Inhabited

abbrev Hub := RemoteFile → HubAnswer

/-- The classes of failure of a hub that mean that the file cannot be had. -/
def downloadFailures : List String :=
  ["OSError", "IOError", "EnvironmentError", "FileNotFoundError", "FileExistsError", "IsADirectoryError",
    "NotADirectoryError", "PermissionError", "InterruptedError", "ProcessLookupError", "ChildProcessError",
    "BlockingIOError", "ConnectionError", "BrokenPipeError", "ConnectionAbortedError",
    "ConnectionRefusedError", "ConnectionResetError", "TimeoutError", "UnsupportedOperation", "ValueError",
    "UnicodeError", "UnicodeDecodeError", "UnicodeEncodeError", "JSONDecodeError", "HfHubHTTPError",
    "HTTPError", "RequestException", "RepositoryNotFoundError", "RevisionNotFoundError",
    "GatedRepoError", "EntryNotFoundError", "LocalEntryNotFoundError", "BadRequestError",
    "HFValidationError", "OfflineModeIsEnabled"]

namespace Resource

def remote? : Resource → Option RemoteFile
  | .remotely f => some f
  | _ => none

def hubFailure (f : RemoteFile) (kind message : String) : Failure :=
  if downloadFailures.contains kind then
    .own .resource ("Could not download " ++ f.file ++ " from " ++ f.repository ++ ": " ++ message)
  else ⟨.foreign kind, if kind == "KeyError" then Text.quoted message else message⟩

def locate (disk : Disk) (hub : Hub) : Resource → Except Failure String
  | .unspecified => .error ⟨.notImplemented, ""⟩
  | .locally path =>
    if (disk.find path).isFile then .ok (Path.normalize path)
    else .error (.own .resource ("Local resource not found: " ++ Path.normalize path))
  | .remotely f =>
    match hub f with
    | .path path => .ok (Path.normalize path)
    | .refusal kind message => .error (hubFailure f kind message)

/-- A local reference resolves exactly when there is a file at its path. -/
theorem locate_locally_isOk_iff (disk : Disk) (hub : Hub) (path : String) :
    (locate disk hub (.locally path)).isOk = true ↔ (disk.find path).isFile = true := by
  unfold locate
  by_cases h : (disk.find path).isFile = true <;> simp [h, Except.isOk, Except.toBool]

end Resource

end SequenceClassification
