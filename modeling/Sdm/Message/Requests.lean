import Sdm.Lib.CString
import Sdm.Message.ComponentID

/-!
Messages of the SDM: the requests that search registered xTEDS (`SDMReqReg`,
`SDMSearch` and `SDMVarReq`) with the `SDMRegInfo` that answers the first, those that
subscribe to data and ask for services, and the data itself. Text fields are the
strings they hold; an optional text that was left out is the empty string.
-/

namespace Sdm

open Lib

/-! ### Reply styles (`SDM_REQREG_*`, `SDM_SEARCH_*`, `SDM_VARREQ_*`, `SUB_*`) -/

def SDM_REQREG_CURRENT : UInt8 := 0
def SUB_CURRENT_AND_FUTURE : UInt8 := 5
def SUB_CURRENT_FUTURE_AND_CANCELLATIONS : UInt8 := 7
def SUB_CANCEL : UInt8 := 11

/-- `SDMReqReg`. -/
structure SDMReqReg where
  source : SDMComponentID
  destination : SDMComponentID
  reply : UInt8
  id : UInt16
  device : CString
  interface : CString
  item_name : CString
  quallist : CString
  deriving DecidableEq, Repr

/-- `SDMSearch`. -/
structure SDMSearch where
  source : SDMComponentID
  destination : SDMComponentID
  reply : UInt8
  id : UInt16
  reg_expr : CString
  deriving DecidableEq, Repr

/-- `SDMVarReq`. -/
structure SDMVarReq where
  source : SDMComponentID
  destination : SDMComponentID
  reply : UInt8
  msg_id : SDMMessageID
  id : UInt16
  «variable» : CString
  deriving DecidableEq, Repr

/-- The type of an `SDMRegInfo`. -/
inductive RegInfoType where
  | SDM_REGINFO_REGISTRATION
  | SDM_REGINFO_CANCELLATION
  deriving DecidableEq, Repr

/-- `SDMRegInfo`, without its empty form. -/
structure SDMRegInfo where
  id : UInt16
  type : RegInfoType
  source : SDMComponentID
  msg_id : SDMMessageID
  msg_def : CString
  xTEDS_section : CString
  deriving DecidableEq, Repr

/-! ### Subscriptions, services and data -/

/-- `SDMDeletesub`. -/
structure SDMDeletesub where
  source : SDMComponentID
  destination : SDMComponentID
  msg_id : SDMMessageID
  deriving DecidableEq, Repr

/-- `SDMSubreqst`. -/
structure SDMSubreqst where
  source : SDMComponentID
  destination : SDMComponentID
  msg_id : SDMMessageID
  fault_id : SDMMessageID
  deriving DecidableEq, Repr

/-- `SDMService`. -/
structure SDMService where
  source : SDMComponentID
  destination : SDMComponentID
  command_id : SDMMessageID
  seq_num : Int16
  /-- The data portion. -/
  data : List UInt8
  deriving DecidableEq

/-- `SDMCommand`. -/
structure SDMCommand where
  source : SDMComponentID
  destination : SDMComponentID
  command_id : SDMMessageID
  fault_id : SDMMessageID
  /-- The data portion. -/
  data : List UInt8
  deriving DecidableEq

/-- `SDMSerreqst`. -/
structure SDMSerreqst where
  source : SDMComponentID
  destination : SDMComponentID
  command_id : SDMMessageID
  reply_id : SDMMessageID
  fault_id : SDMMessageID
  seq_num : Int16
  /-- The data portion. -/
  data : List UInt8
  deriving DecidableEq

/-- `SDMData`. -/
structure SDMData where
  source : SDMComponentID
  msg_id : SDMMessageID
  seq_num : Int16
  /-- The `length` bytes of the buffer that are sent. -/
  msg : List UInt8
  deriving DecidableEq

/-- `SDMTat`. -/
structure SDMTat where
  destination : SDMComponentID
  seconds : UInt32
  useconds : UInt32
  deriving DecidableEq

/-! ### Requests for a document -/

/-- `SDMReqxTEDS`: the low bit of `select` asks by name, the next one gives a port. -/
structure SDMReqxTEDS where
  select : UInt8
  destination : SDMComponentID
  source : SDMComponentID
  device_name : CString
  deriving DecidableEq

/-- `SDMxTEDSInfo`, without its empty form. -/
structure SDMxTEDSInfo where
  source : SDMComponentID
  xTEDS : CString
  deriving DecidableEq

end Sdm
