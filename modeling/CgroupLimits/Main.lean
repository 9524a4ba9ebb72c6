import CgroupLimits.Snapshot

/-! The command line: prints the report on the process's own cgroups, or `null` where it has none.

    The files are fetched first and the report is made of what was fetched. -/

namespace CgroupLimits.Main

/-- The code that the system gives for reading a directory. -/
def directoryCode : UInt32 := 21

/-- Opens a path. -/
def fetch (path : String) : IO Opened := do
  try
    return .file (← IO.FS.readBinFile path).data.toList
  catch error =>
    match error with
    | .inappropriateType _ code _ =>
      return if code = directoryCode then .directory else .failed .notDirectory
    | _ => return .failed .missing

/-- Opens paths. -/
def fetchAll (paths : List String) : IO Snapshot := do
  return ⟨← paths.mapM fun path => return (path, ← fetch path)⟩

/-- The variables that the settings come from. -/
def environment : IO (List (String × String)) := do
  let keys := [Settings.procRootKey, Settings.cacheTimeoutKey, Settings.maxLineLengthKey]
  keys.filterMapM fun key => return (← IO.getEnv key).map fun value => (key, value)

/-- The processors that are online, where the process's status does not tell. -/
def onlineProcessors : IO Nat := do
  match ← fetch "/sys/devices/system/cpu/online" with
  | .file bytes => return ((Text.ofBytes? bytes).bind CpuList.count?).getD 1
  | _ => return 1

/-- The text to print. -/
def text : IO String := do
  let given ← environment
  let settings := (Settings.ofEnvironment fun key => given.lookup key).value
  let fallback ← onlineProcessors
  let tables ← fetchAll settings.paths
  let controls ← fetchAll (Subsystem.pathsFrom tables.view settings fallback)
  let all : Snapshot := ⟨tables.entries ++ controls.entries⟩
  let now ← IO.monoNanosNow
  return (Subsystem.summary all.view settings fallback (now : Int)).value

end CgroupLimits.Main

def main : IO Unit := do
  IO.println (← CgroupLimits.Main.text)
