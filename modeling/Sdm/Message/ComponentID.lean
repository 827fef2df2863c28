import Mathlib.Data.List.Basic

/-!
Component and message identifiers, well-known ports and status codes.

A component is named by the pair of its network address and port together with
a sensor id. The sensor id that a component chooses for itself fits the low
bits; the Data Manager puts the position of the component's slot above them.
Equality of identifiers is `SDMComponent_ID::operator==`: all three parts.
-/

namespace Sdm

/-- `SDMComponent_ID`. -/
structure SDMComponentID where
  sensorID : UInt32
  address : UInt32
  port : UInt16
  deriving DecidableEq, Repr

/-- `SDMComponent_ID::isEmpty`. -/
def SDMComponentID.isEmpty (id : SDMComponentID) : Bool :=
  id.sensorID == 0 && id.address == 0 && id.port == 0

/-- The identifier made by the default constructor. -/
def SDMComponentID.zero : SDMComponentID := ⟨0, 0, 0⟩

instance : Inhabited SDMComponentID := ⟨.zero⟩

/-- `SDMMessage_ID`: the interface and message numbers of a message. The `int`
message ids of the Data Manager's tables are `getInterfaceMessagePair` of these. -/
structure SDMMessageID where
  interface : UInt8
  message : UInt8
  deriving DecidableEq, Repr

/-- `SDMMessage_ID::operator=(int)`: the two low bytes of the value. -/
def SDMMessageID.ofInt (value : Int) : SDMMessageID :=
  ⟨UInt8.ofNat (value / 256 % 256).toNat, UInt8.ofNat (value % 256).toNat⟩

/-- `getInterfaceMessagePair`. -/
def SDMMessageID.getInterfaceMessagePair (id : SDMMessageID) : Int16 :=
  Int16.ofNat (id.message.toNat + 256 * id.interface.toNat)

/-- An id comes back from the number of its pair. -/
theorem ofInt_getInterfaceMessagePair (id : SDMMessageID) :
    .ofInt id.getInterfaceMessagePair.toInt = id := by
  obtain ⟨interface, message⟩ := id
  have low := message.toNat_lt
  have high := interface.toNat_lt
  obtain ⟨pair, same⟩ : ∃ pair : Nat, pair = message.toNat + 256 * interface.toNat := ⟨_, rfl⟩
  have value : (SDMMessageID.getInterfaceMessagePair ⟨interface, message⟩).toInt =
      if pair < 32768 then (pair : Int) else pair - 65536 := by
    have size : Int16.size = 65536 := rfl
    rw [SDMMessageID.getInterfaceMessagePair, Int16.toInt_ofNat', ← same, size, Int.bmod_def]
    split <;> split <;> omega
  have first : (SDMMessageID.getInterfaceMessagePair ⟨interface, message⟩).toInt / 256 % 256 =
      interface.toNat := by
    rw [value]
    split <;> omega
  have second : (SDMMessageID.getInterfaceMessagePair ⟨interface, message⟩).toInt % 256 =
      message.toNat := by
    rw [value]
    split <;> omega
  rw [SDMMessageID.ofInt, first, second, Int.toNat_natCast, Int.toNat_natCast, UInt8.ofNat_toNat,
    UInt8.ofNat_toNat]

/-! ### Well-known ports (`SDMmessage.h`) -/

def PORT_SM : UInt16 := 3506
def PORT_DM : UInt16 := 3504
def PORT_PM : UInt16 := 3508
def PORT_TM : UInt16 := 3510
def PORT_SPA1_MANAGER : UInt16 := 3514

/-- The sensor id of the Data Manager's own registration. -/
def DM_SENSOR_ID : UInt32 := 1

/-- `L_LOCAL_HOST`: 127.0.0.1 in network byte order on a little-endian target. -/
def L_LOCAL_HOST : UInt32 := 0x0100007F

/-! ### Message ids used by the Data Manager -/

def REQ_REG_FUTURE : SDMMessageID := ⟨4, 1⟩
def REQ_REG_CANCELLATION : SDMMessageID := ⟨4, 2⟩
def VAR_REQ_REPLY : SDMMessageID := ⟨4, 3⟩
def SEARCH_REPLY : SDMMessageID := ⟨4, 4⟩
def NOTI_REGISTRATION : SDMMessageID := ⟨1, 1⟩
def NOTI_DEREGISTRATION : SDMMessageID := ⟨1, 2⟩
def NOTI_REGISTRATION_CHANGE : SDMMessageID := ⟨1, 4⟩

/-- The `ModificationAction` of a published change. -/
inductive Modification where
  | MOD_NOT_APPLICABLE
  | REGISTRATION_MODIFICATION
  | DEREGISTRATION_MODIFICATION
  deriving DecidableEq, Repr

/-- The message id of a cleared table entry. -/
def SDMMessageID.zero : SDMMessageID := ⟨0, 0⟩

/-- The status of an `SDMAck`. -/
inductive AckStatus where
  | SDM_OK
  | SDM_INVALID_XTEDS
  | SDM_UNKNOWN_XTEDS
  | SDM_INVALID_CANCEL
  deriving DecidableEq, Repr

/-- The value of the status in the `SDMAck`. -/
def AckStatus.code : AckStatus → Int
  | .SDM_OK => 0
  | .SDM_INVALID_XTEDS => -10
  | .SDM_UNKNOWN_XTEDS => -11
  | .SDM_INVALID_CANCEL => -14

end Sdm
