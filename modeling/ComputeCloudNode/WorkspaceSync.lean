import ComputeCloudNode.Lib.Directories
import ComputeCloudNode.SessionData

/-! `_sync_ws` of the native workbench executor on a POSIX system: the files of a
session's workspace are fetched one by one and written below `/workspace`, each under
the path that the block gives for it. The calls of the file system and of the HTTP
client are those of any host; `Tree` serves as one on which everything that is asked
for succeeds. -/
namespace ComputeCloudNode.NativeWorkbench
open PosixPaths Directories Workbench

structure Request where
  url : String
  headers : List (String × String)

structure Response where
  statusCode : Int
  content : List UInt8

structure Host (σ : Type) where
  files : FileSystem σ
  /-- `http_client.get`; nothing if it raises. -/
  get : σ → Request → σ × Option Response

/-- A directory that is created, or a file that is opened for writing. -/
inductive Touch
  | created (path : Path)
  | opened (path : Path)
  deriving DecidableEq

def Touch.path : Touch → Path
  | .created path => path
  | .opened path => path

structure Synced (σ : Type) where
  touched : List Touch
  state : σ
  raised : Option Failure

/-- `ws_dir` in `start_session`. -/
def wsDir : Path := "/workspace".toList

/-- `local_path`. The separator is `/` already, so nothing is replaced. -/
def localPath (wsDir : Path) (relPath : String) : Path := join wsDir relPath.toList

variable {σ : Type}

/-- The `try` of one file: what `get` or `open` raises is dropped. -/
def fetch (host : Host σ) (request : Request) (path : Path) (state : σ) : σ × List Touch :=
  match host.get state request with
  | (state, none) => (state, [])
  | (state, some response) =>
    if response.statusCode = 200 then
      match host.files.openWb state path response.content with
      | none => (state, [])
      | some state => (state, [.opened path])
    else (state, [])

/-- The loop of `_sync_ws`. What `makedirs` raises ends it. -/
def syncFiles (host : Host σ) (wsDir : Path) (request : String → Request) : List FileInfo → σ → Synced σ
  | [], state => ⟨[], state, none⟩
  | file :: rest, state =>
    if file.relativePath = "" then syncFiles host wsDir request rest state
    else
      let path := localPath wsDir file.relativePath
      let dirs := makedirs host.files (dirname path) state
      match dirs.raised with
      | some failure => ⟨dirs.made.map .created, dirs.state, some failure⟩
      | none =>
        let (state, opened) := fetch host (request file.relativePath) path dirs.state
        let later := syncFiles host wsDir request rest state
        { later with touched := dirs.made.map .created ++ opened ++ later.touched }

/-- The request for one file. -/
def fileRequest (baseUrl : String) (block : Workspace) (poolEnv : List (String × String)) (relPath : String) : Request :=
  let token := poolToken poolEnv
  { url := s!"{rstripSlashes baseUrl}{block.downloadPathPrefix}/{relPath}"
    headers := if token = "" then [] else [("Authorization", s!"Bearer {token}")] }

/-- `_sync_ws`; the client is given by its base URL. -/
def syncWs (host : Host σ) (client : Option String) (block : Workspace) (poolEnv : List (String × String))
    (wsDir : Path) (state : σ) : Synced σ :=
  match client with
  | none => ⟨[], state, none⟩
  | some baseUrl => syncFiles host wsDir (fileRequest baseUrl block poolEnv) block.files state

/-- Every directory that is created and every file that is opened lies in `ws_dir`. -/
def StaysInside (wsDir : Path) (touched : List Touch) : Prop := ∀ touch ∈ touched, Inside wsDir touch.path

/-- Following the path of a file, no name is entered outside `ws_dir`. -/
def Confined (wsDir : Path) (relPath : String) : Prop :=
  ∀ part, Named part → Part part (localPath wsDir relPath) → Inside wsDir part

/-- The files up to the first whose directory has a null character in its path. -/
def attempted (wsDir : Path) : List FileInfo → List FileInfo
  | [] => []
  | file :: rest =>
    if file.relativePath = "" then attempted wsDir rest
    else if '\x00' ∈ dirname (localPath wsDir file.relativePath) then [file]
    else file :: attempted wsDir rest

end ComputeCloudNode.NativeWorkbench
