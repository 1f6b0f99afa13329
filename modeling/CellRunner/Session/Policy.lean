import CellRunner.Host.Basic
import CellRunner.Text.Fields

/-!
How sessions are named and launched. A session is recognized by its name alone, so the name
begins with the policy's mark and then gives the command.
-/

namespace CellRunner

structure SessionPolicy where
  /-- What the name of every session begins with. -/
  mark : String := "Đ Session - "
  launcher : String := "/usr/bin/env"
  launcherArgs : List String := ["epm", "x"]
  defaultCommand : String := "hski"
deriving DecidableEq, Repr

namespace SessionPolicy

def recognizes (policy : SessionPolicy) (terminal : Terminal) : Bool :=
  terminal.isAlive && policy.mark.toList.isPrefixOf terminal.name.toList

def launchSpec (policy : SessionPolicy) (command : List String) : LaunchSpec where
  name := policy.mark ++ " ".intercalate command
  program := policy.launcher
  args := policy.launcherArgs ++ command

end SessionPolicy

end CellRunner
