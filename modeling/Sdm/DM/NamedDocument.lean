import Sdm.DM.XTEDSLibrary

/-!
A small parser for documents that are one `Application` element with a `name`
attribute, and no messages. It stands in for the xTEDS parser where a run of the
handlers is followed on fixed documents; on such a document the full parser and
`ParseDeviceName` read the same name.
-/

namespace Sdm

open Lib

/-- The tree of such a document. -/
structure NamedDocument where
  name : CString
  messages : List MessageDef
  deriving DecidableEq, Repr

namespace NamedDocument

/-- The bytes between the quotes of the first `name="…"`. -/
def nameValue : List UInt8 → Option (List UInt8)
  | [] => none
  | b :: rest =>
      if (CString.ofString "name=\"").bytes.isPrefixOf (b :: rest) then
        some (((b :: rest).drop 6).takeWhile fun c => c ≠ 34 ∧ c ≠ 0)
      else nameValue rest

/-- The name of the document. -/
def nameOf (text : CString) : Option CString :=
  (nameValue text.bytes).map CString.ofBytes

instance : XTEDS NamedDocument where
  parseDeviceName text := (nameOf text).map fun name => (.APPLICATION, name)
  parse text := (nameOf text).map fun name => ⟨name, []⟩
  getDeviceName tree := tree.name
  regInfo tree _ _ _ _ := tree.messages
  allRegInfo tree _ _ _ := tree.messages
  regexRegInfo tree _ _ _ _ := some tree.messages
  getNotificationFaultMsgID _ _ := .zero

/-- A document for an application of this name. -/
def document (name : String) : CString :=
  .ofString ("<xTEDS><Application name=\"" ++ name ++ "\"/></xTEDS>")

example : nameOf (document "Camera") = some (.ofString "Camera") := by decide

end NamedDocument

end Sdm
