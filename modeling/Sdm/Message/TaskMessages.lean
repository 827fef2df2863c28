import Sdm.Common.TaskResources
import Sdm.Lib.CString
import Sdm.Message.ComponentID

/-!
The messages between the Task Manager and the process managers, as they are after
`Unmarshal`. A `long` has 32 bits on the target.
-/

namespace Sdm

open Sdm.Lib

/-- `MAX_FILENAME_SIZE`: the array of a file name, its terminator included. -/
def MAX_FILENAME_SIZE : Nat := 128

/-- `SDMRegPM`. -/
structure SDMRegPM where
  source : SDMComponentID
  resources : UInt16
  deriving DecidableEq

/-- `SDMPostTask`. -/
structure SDMPostTask where
  resources : UInt16
  priority : Int8
  sched_interval : Int32
  mode : Int32
  version : Int32
  filename : CString
  deriving DecidableEq

/-- `SDMTask`. -/
structure SDMTask where
  source : SDMComponentID
  priority : Int8
  filename : CString
  pid : Int32
  version : Int32
  deriving DecidableEq

/-- `SDMTaskFinished`. -/
structure SDMTaskFinished where
  source : SDMComponentID
  result : Int32
  filename : CString
  pid : Int32
  deriving DecidableEq

/-- `SDMTaskError`, with the fields that its senders set. -/
structure SDMTaskError where
  source : SDMComponentID
  pid : UInt32
  deriving DecidableEq, Repr

/-- `SDMKill`. -/
structure SDMKill where
  PID : UInt32
  killLevel : UInt8
  deriving DecidableEq

/-- `SDMCode`; `code` has the `code_length` bytes of the segment. -/
structure SDMCode where
  filename : CString
  seq_num : UInt16
  num_segments : UInt16
  code : List UInt8
  deriving DecidableEq

end Sdm
