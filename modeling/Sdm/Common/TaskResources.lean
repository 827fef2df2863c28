import Mathlib.Data.Nat.Notation

/-!
`SDMTaskResources`: the resource word of a task or a process manager.

Four nibbles from the low end: architecture, memory, operating system and the id of the
preferred process manager node. Each setter masks its own nibble out and joins the new
value in.
-/

namespace Sdm

/-! ### `taskdefs.h` -/

def SDM_SPAU : UInt16 := 0x0001
def SDM_INTEL : UInt16 := 0x0002
def SDM_PPC_7404 : UInt16 := 0x0004
def SDM_PPC_755 : UInt16 := 0x0005
def SDM_PPC_405 : UInt16 := 0x0006
def SDM_MICROBLAZE : UInt16 := 0x0007
def SDM_SPARC : UInt16 := 0x0008

def SDM_MEM32 : UInt16 := 0x0010
def SDM_MEM64 : UInt16 := 0x0020
def SDM_MEM128 : UInt16 := 0x0030
def SDM_MEM256 : UInt16 := 0x0040
def SDM_MEM512 : UInt16 := 0x0050
def SDM_MEM1024 : UInt16 := 0x0060

def SDM_LINUX24 : UInt16 := 0x0100
def SDM_LINUX26 : UInt16 := 0x0200
def SDM_WIN32 : UInt16 := 0x0300
def SDM_VXWORKS : UInt16 := 0x0400

def ARCHMASK : UInt16 := 0x000F
def MEMMASK : UInt16 := 0x00F0
def OSMASK : UInt16 := 0x0F00
def PMIDMASK : UInt16 := 0xF000

/-- `PM_ID`: a node id in its place in the resource word. -/
def PM_ID (value : UInt16) : UInt16 := value <<< 12

/-- `SDMTaskResources`. -/
structure SDMTaskResources where
  m_usResources : UInt16
  deriving DecidableEq, Repr

namespace SDMTaskResources

/-- The default constructor. -/
def zero : SDMTaskResources := ⟨0⟩

instance : Inhabited SDMTaskResources := ⟨zero⟩

def SetPreferredPmNodeId (r : SDMTaskResources) (newPmId : UInt16) : SDMTaskResources :=
  ⟨(r.m_usResources &&& (ARCHMASK ||| MEMMASK ||| OSMASK)) ||| PM_ID newPmId⟩

def IsPreferredPmIdSet (r : SDMTaskResources) : Bool := (r.m_usResources &&& PMIDMASK) != 0

def GetPreferredPmId (r : SDMTaskResources) : UInt16 := r.m_usResources &&& PMIDMASK

/-- `GetPreferredPmIdNum`. The shift is by 8, so the id comes back in the high nibble. -/
def GetPreferredPmIdNum (r : SDMTaskResources) : UInt8 :=
  ((r.m_usResources &&& PMIDMASK) >>> 8).toUInt8

def GetArch (r : SDMTaskResources) : UInt16 := r.m_usResources &&& ARCHMASK

def GetMem (r : SDMTaskResources) : UInt16 := r.m_usResources &&& MEMMASK

def GetOs (r : SDMTaskResources) : UInt16 := r.m_usResources &&& OSMASK

def GetIgnorePmId (r : SDMTaskResources) : UInt16 :=
  r.m_usResources &&& (ARCHMASK ||| MEMMASK ||| OSMASK)

def GetUShort (r : SDMTaskResources) : UInt16 := r.m_usResources

def SetArch (r : SDMTaskResources) (usArch : UInt16) : SDMTaskResources :=
  ⟨(r.m_usResources &&& (PMIDMASK ||| MEMMASK ||| OSMASK)) ||| (usArch &&& ARCHMASK)⟩

def SetMem (r : SDMTaskResources) (usMem : UInt16) : SDMTaskResources :=
  ⟨(r.m_usResources &&& (PMIDMASK ||| ARCHMASK ||| OSMASK)) ||| (usMem &&& MEMMASK)⟩

def SetOs (r : SDMTaskResources) (usOs : UInt16) : SDMTaskResources :=
  ⟨(r.m_usResources &&& (PMIDMASK ||| ARCHMASK ||| MEMMASK)) ||| (usOs &&& OSMASK)⟩

end SDMTaskResources

end Sdm
