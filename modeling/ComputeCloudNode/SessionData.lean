import ComputeCloudNode.Llm.Uri

/-! The payload of a session as the workbench executors read it. -/
namespace ComputeCloudNode.Workbench

structure FileInfo where
  relativePath : String := ""

/-- The `workspace` block of a session. -/
structure Workspace where
  files : List FileInfo := []
  downloadPathPrefix : String := ""

/-- A payload of `session/pull`. A block that is missing or empty is `none` or `[]`. -/
structure SessionData where
  dockerImage : String
  command : String
  sessionType : String := ""
  workspace : Option Workspace := none
  poolEnv : List (String × String) := []
  sshPublicKeys : List String := []
  httpBaseUrl : String := ""

/-- `base_url.rstrip("/")`. -/
def rstripSlashes (url : String) : String := String.ofList (url.toList.rdropWhile (· == '/'))

def poolToken (poolEnv : List (String × String)) : String := (poolEnv.lookup "POOL_TOKEN").getD ""

/-- `s.strip()`. -/
def strip (s : String) : String := String.ofList (Uri.strip s.toList)

end ComputeCloudNode.Workbench
