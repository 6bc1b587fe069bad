import ComputeCloudNode.DockerExecutor
import ComputeCloudNode.Lib.ShellQuotes

/-! How the public keys reach `printf`. Each key is put between single quotes as it is, so
what the shell hands to `printf` are the keys only if none of them has a single quote. -/
namespace ComputeCloudNode.DockerWorkbench
open Workbench ShellWords

/-- The stripped keys that are not blank. -/
def strippedKeys (sshKeys : List String) : List Word :=
  (sshKeys.filter fun k => strip k ≠ "").map fun k => (strip k).toList

theorem keysBlob_toList (sshKeys : List String) : (keysBlob sshKeys).toList = wrapAll (strippedKeys sshKeys) := by
  unfold keysBlob wrapAll strippedKeys
  rw [String.toList_intercalate, List.map_map, List.map_map]
  apply congrArg (List.intercalate [' '])
  apply List.map_congr_left
  intro key _
  simp only [Function.comp_apply, wrap, String.toList_append]
  rfl

theorem strippedKeys_plain_iff (sshKeys : List String) :
    (∀ word ∈ strippedKeys sshKeys, '\'' ∉ word) ↔ ∀ key ∈ sshKeys, '\'' ∉ (strip key).toList := by
  constructor
  · intro plain key member quoted
    have some_ : strip key ≠ "" := by
      intro blank
      rw [blank] at quoted
      cases quoted
    exact plain _ (List.mem_map.mpr ⟨key, List.mem_filter.mpr ⟨member, decide_eq_true some_⟩, rfl⟩) quoted
  · intro plain word member
    obtain ⟨key, kept, rfl⟩ := List.mem_map.mp member
    exact plain key (List.mem_of_mem_filter kept)

/-- The part that injects the keys is the last one. -/
theorem sshKeysPart_last (notebook : String) {payload : SessionData} (ssh : payload.sessionType = "ssh")
    (keys : payload.sshPublicKeys ≠ []) :
    (buildStartupParts notebook payload).getLast? = some (sshKeysPart payload.sshPublicKeys) := by
  unfold buildStartupParts
  simp only [if_pos (And.intro ssh keys)]
  cases payload.workspace with
  | none =>
    by_cases alone : payload.poolEnv = []
    · simp only [if_pos alone, List.getLast?_singleton]
    · simp only [if_neg alone]
      rfl
  | some block => exact List.getLast?_concat

/-- The arguments of `printf` after its format are the stripped keys that are not blank, each
as one word and in order, exactly when no key has a single quote. -/
theorem keys_quoted_iff (notebook : String) {payload : SessionData} (ssh : payload.sessionType = "ssh")
    (keys : payload.sshPublicKeys ≠ []) :
    (buildStartupParts notebook payload).getLast? =
        some (s!"mkdir -p /config/.ssh && printf '%s\\n' {keysBlob payload.sshPublicKeys} >> /config/.ssh/authorized_keys" ++
          " && chmod 700 /config/.ssh && chmod 600 /config/.ssh/authorized_keys 2>/dev/null || true") ∧
      (words (keysBlob payload.sshPublicKeys).toList = some (strippedKeys payload.sshPublicKeys) ↔
        ∀ key ∈ payload.sshPublicKeys, '\'' ∉ (strip key).toList) := by
  refine ⟨sshKeysPart_last notebook ssh keys, ?_⟩
  rw [keysBlob_toList, words_wrapAll_iff, strippedKeys_plain_iff]

def twoKeys : SessionData where
  dockerImage := "linuxserver/openssh-server:latest"
  command := ""
  sessionType := "ssh"
  sshPublicKeys := [" ssh-ed25519 AAAA laptop; $HOME ", "", "ssh-rsa BBBB \"work\""]

theorem keys_quoted_two :
    words (keysBlob twoKeys.sshPublicKeys).toList = some (strippedKeys twoKeys.sshPublicKeys) ∧
      strippedKeys twoKeys.sshPublicKeys =
        ["ssh-ed25519 AAAA laptop; $HOME".toList, "ssh-rsa BBBB \"work\"".toList] := by
  refine ⟨(@keys_quoted_iff "" twoKeys rfl (List.cons_ne_nil _ _)).2.mpr ?_, ?_⟩
  · decide +kernel
  · decide +kernel

/-- A key with two apostrophes in its comment, between which stands a command. -/
def apostrophes : List String := ["ssh-ed25519 AAAA x' ; touch /tmp/owned ; echo 'y"]

theorem apostrophes_not_quoted :
    keysBlob apostrophes = "'ssh-ed25519 AAAA x' ; touch /tmp/owned ; echo 'y'" ∧
      words (keysBlob apostrophes).toList ≠ some (strippedKeys apostrophes) := by
  decide +kernel

end ComputeCloudNode.DockerWorkbench
