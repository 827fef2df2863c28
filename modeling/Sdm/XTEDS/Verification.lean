import Sdm.Lib.Verdict
import Sdm.XTEDS.Document

/-!
`xTEDSVerification`: what an element must have.

A check prints a message before it rejects, and a message with a missing text is undefined. The
order of the checks matters: a message may use what an earlier check has found.

* `VerifyVariable_eq_true_iff`, `VerifyDataMsg_eq_true_iff`, `VerifyCommandMsg_eq_true_iff`,
  `VerifyFaultMsg_eq_true_iff`, `VerifyInterface_eq_true_iff`: what each function accepts.
* `isSome_VerifyVariable`, `isSome_VerifyDataMsg`, `isSome_VerifyCommandMsg`,
  `isSome_VerifyFaultMsg`, `isSome_VerifyInterface`: no check uses a missing text.
-/

namespace Sdm.XTEDSVerification

open Lib Verdict Document

/-- `VerifyQualifiers`. -/
def VerifyQualifiers (ItemName Interface : Option CString) (QualifierList : List QualifierType) :
    Verdict :=
  if QualifierList = [] then some false
  else
    each (fun CurQual =>
      both (require CurQual.name [ItemName, Interface])
        (require CurQual.value [CurQual.name, ItemName, Interface])) QualifierList

/-- `VerifyOrientation`, which looks at the first one. -/
def VerifyOrientation (var : Variable) : Verdict :=
  match var.orientation_data with
  | [] => some false
  | orient :: _ =>
      both (require orient.axis_value [var.name])
        (both (require orient.angle_value [var.name]) (require orient.units_value [var.name]))

/-- `VerifyLocation`. -/
def VerifyLocation (var : Variable) : Option Location → Verdict
  | none => some false
  | some loc =>
      both (require loc.x_value [var.name])
        (both (require loc.y_value [var.name])
          (both (require loc.z_value [var.name]) (require loc.units [var.name])))

/-- `VerifyCurve`. -/
def VerifyCurve (var : Variable) : Verdict :=
  match var.curves, var.interface_name, var.name with
  | some curves, some interface_name, some name =>
      both (require curves.name [some name, some interface_name])
        (both
          (if curves.coefs = [] then reject [curves.name, some interface_name] else some true)
          (each (fun CurCoef =>
            both (require CurCoef.exponent [curves.name, some interface_name])
              (require CurCoef.value [CurCoef.exponent, curves.name, some interface_name]))
            curves.coefs))
  | _, _, _ => some false

/-- `VerifyDrange`. -/
def VerifyDrange (var : Variable) : Verdict :=
  match var.dranges, var.interface_name, var.name with
  | some dranges, some interface_name, some name =>
      both (require dranges.name [some name, some interface_name])
        (both
          (if dranges.options = [] then reject [dranges.name, some interface_name] else some true)
          (each (fun CurOption =>
            both (require CurOption.name [dranges.name, some interface_name])
              (require CurOption.value [CurOption.name, dranges.name, some interface_name]))
            dranges.options))
  | _, _, _ => some false

/-- `VerifyVarRefs`. A reference always has a name. -/
def VerifyVarRefs (MsgName : Option CString) (VarRefs : List CString) : Verdict :=
  some (MsgName.isSome ∧ VarRefs ≠ [])

/-- The formats that a variable may have. -/
def formats : List CString :=
  ["INT08", "UINT08", "INT16", "UINT16", "INT32", "UINT32", "FLOAT32", "FLOAT64"].map .ofString

/-- The check of the format in `VerifyVariable`. -/
def VerifyFormat (var : Variable) : Verdict :=
  match var.format with
  | some format =>
      if format ∈ formats then some true else reject [format, var.name, var.interface_name]
  | none => reject [var.name, var.interface_name]

/-- `VerifyVariable`. -/
def VerifyVariable (var : Variable) : Verdict :=
  both (require var.name [])
    (both (require var.kind [var.name])
      (both (require var.interface_name [var.name])
        (both (require var.interface_id [var.name])
          (both (VerifyFormat var)
            (both (whenever (var.qualifiers ≠ [])
                (VerifyQualifiers var.name var.interface_name var.qualifiers))
              (both (whenever (var.dranges ≠ none) (VerifyDrange var))
                (both (whenever (var.curves ≠ none) (VerifyCurve var))
                  (both (whenever (var.location_data ≠ none) (VerifyLocation var var.location_data))
                    (whenever (var.orientation_data ≠ []) (VerifyOrientation var))))))))))

/-- The check of the arrival in `VerifyDataMsg`. -/
def VerifyArrival (dat : DataMsg) : Verdict :=
  match dat.msg_arrival with
  | none => some true
  | some msg_arrival =>
      if msg_arrival = .ofString "EVENT" ∨ msg_arrival = .ofString "PERIODIC" then some true
      else reject [msg_arrival, dat.name, dat.interface_name]

/-- `VerifyDataMsg`. -/
def VerifyDataMsg : Option DataMsg → Verdict
  | none => some false
  | some dat =>
      both (require dat.name [])
        (both (require dat.id [dat.name])
          (both (require dat.interface_name [dat.name])
            (both (require dat.interface_id [dat.name])
              (both (VerifyArrival dat)
                (both (whenever (dat.qualifiers ≠ [])
                    (VerifyQualifiers dat.name dat.interface_name dat.qualifiers))
                  (whenever (dat.var_refs ≠ []) (VerifyVarRefs dat.name dat.var_refs)))))))

/-- `VerifyCommandMsg`. -/
def VerifyCommandMsg : Option PlainMsg → Verdict
  | none => some false
  | some cmd =>
      both (require cmd.name [])
        (both (require cmd.id [cmd.name])
          (both (require cmd.interface_name [cmd.name])
            (both (require cmd.interface_id [cmd.name])
              (both (whenever (cmd.qualifiers ≠ [])
                  (VerifyQualifiers cmd.name cmd.interface_name cmd.qualifiers))
                (whenever (cmd.var_refs ≠ []) (VerifyVarRefs cmd.name cmd.var_refs))))))

/-- `VerifyFaultMsg`, which asks for the id first. -/
def VerifyFaultMsg : Option PlainMsg → Verdict
  | none => some false
  | some fault =>
      both (require fault.id [])
        (both (require fault.name [])
          (both (require fault.interface_name [fault.name])
            (both (require fault.interface_id [fault.name])
              (both (whenever (fault.qualifiers ≠ [])
                  (VerifyQualifiers fault.name fault.interface_name fault.qualifiers))
                (whenever (fault.var_refs ≠ []) (VerifyVarRefs fault.name fault.var_refs))))))

/-- `VerifyInterface`. -/
def VerifyInterface (Interface : Interface) : Verdict :=
  both (require Interface.name [])
    (if Interface.id = none ∨ Interface.id = some (.ofString "0") then reject [Interface.name]
      else some true)

/-! ### What is accepted -/

/-- Every qualifier has a name and a value. -/
def QualifiersVerified (qualifiers : List QualifierType) : Prop :=
  ∀ q ∈ qualifiers, q.name.isSome ∧ q.value.isSome

/-- What an accepted variable has. -/
structure VariableVerified (var : Variable) : Prop where
  name : var.name.isSome
  kind : var.kind.isSome
  interface_name : var.interface_name.isSome
  interface_id : var.interface_id.isSome
  format : ∃ format ∈ formats, var.format = some format
  qualifiers : QualifiersVerified var.qualifiers
  dranges : ∀ dranges, var.dranges = some dranges → dranges.name.isSome ∧ dranges.options ≠ [] ∧
    ∀ o ∈ dranges.options, o.name.isSome ∧ o.value.isSome
  curves : ∀ curves, var.curves = some curves → curves.name.isSome ∧ curves.coefs ≠ [] ∧
    ∀ c ∈ curves.coefs, c.exponent.isSome ∧ c.value.isSome
  location : ∀ loc, var.location_data = some loc →
    loc.x_value.isSome ∧ loc.y_value.isSome ∧ loc.z_value.isSome ∧ loc.units.isSome
  orientation : ∀ orient, var.orientation_data.head? = some orient →
    orient.axis_value.isSome ∧ orient.angle_value.isSome ∧ orient.units_value.isSome

/-- What an accepted data message has. -/
structure DataVerified (dat : DataMsg) : Prop where
  name : dat.name.isSome
  id : dat.id.isSome
  interface_name : dat.interface_name.isSome
  interface_id : dat.interface_id.isSome
  msg_arrival : ∀ s, dat.msg_arrival = some s → s = .ofString "EVENT" ∨ s = .ofString "PERIODIC"
  qualifiers : QualifiersVerified dat.qualifiers

/-- What an accepted command or fault message has. -/
structure PlainVerified (msg : PlainMsg) : Prop where
  name : msg.name.isSome
  id : msg.id.isSome
  interface_name : msg.interface_name.isSome
  interface_id : msg.interface_id.isSome
  qualifiers : QualifiersVerified msg.qualifiers

section Checks

variable {item face : Option CString} {qualifiers : List QualifierType} {var : Variable}

theorem VerifyQualifiers_eq_true_iff :
    whenever (qualifiers ≠ []) (VerifyQualifiers item face qualifiers) = some true ↔
      QualifiersVerified qualifiers := by
  rw [whenever_eq_true_iff]
  by_cases empty : qualifiers = []
  · simp [empty, QualifiersVerified]
  · simp [VerifyQualifiers, empty, each_eq_true_iff, both_eq_true_iff, require_eq_true_iff,
      QualifiersVerified]

theorem isSome_VerifyQualifiers (hitem : item.isSome) (hface : face.isSome) :
    (VerifyQualifiers item face qualifiers).isSome := by
  unfold VerifyQualifiers
  split
  · rfl
  · refine isSome_each fun q _ => isSome_both.mpr ⟨?_, fun named => ?_⟩
    · simp [isSome_require, hitem, hface]
    · simp [isSome_require, require_eq_true_iff.mp named, hitem, hface]

theorem VerifyFormat_eq_true_iff :
    VerifyFormat var = some true ↔ ∃ format ∈ formats, var.format = some format := by
  unfold VerifyFormat
  split
  · rename_i format h
    by_cases known : format ∈ formats <;> simp [known, h, reject_ne_true]
  · rename_i h
    simp [h, reject_ne_true]

theorem isSome_VerifyFormat (name : var.name.isSome) (face : var.interface_name.isSome) :
    (VerifyFormat var).isSome := by
  unfold VerifyFormat
  split
  · split <;> simp [isSome_reject, name, face]
  · simp [isSome_reject, name, face]

theorem VerifyLocation_eq_true_iff :
    whenever (var.location_data ≠ none) (VerifyLocation var var.location_data) = some true ↔
      ∀ loc, var.location_data = some loc →
        loc.x_value.isSome ∧ loc.y_value.isSome ∧ loc.z_value.isSome ∧ loc.units.isSome := by
  rw [whenever_eq_true_iff]
  cases h : var.location_data with
  | none => simp
  | some loc => simp [VerifyLocation, both_eq_true_iff, require_eq_true_iff]

theorem isSome_VerifyLocation (name : var.name.isSome) :
    (VerifyLocation var var.location_data).isSome := by
  cases var.location_data <;> simp [VerifyLocation, isSome_both, isSome_require, name]

theorem VerifyOrientation_eq_true_iff :
    whenever (var.orientation_data ≠ []) (VerifyOrientation var) = some true ↔
      ∀ orient, var.orientation_data.head? = some orient →
        orient.axis_value.isSome ∧ orient.angle_value.isSome ∧ orient.units_value.isSome := by
  rw [whenever_eq_true_iff]
  cases h : var.orientation_data with
  | nil => simp
  | cons orient rest => simp [VerifyOrientation, h, both_eq_true_iff, require_eq_true_iff]

theorem isSome_VerifyOrientation (name : var.name.isSome) : (VerifyOrientation var).isSome := by
  unfold VerifyOrientation
  split <;> simp [isSome_both, isSome_require, name]

theorem VerifyDrange_eq_true_iff (name : var.name.isSome) (face : var.interface_name.isSome) :
    whenever (var.dranges ≠ none) (VerifyDrange var) = some true ↔
      ∀ dranges, var.dranges = some dranges → dranges.name.isSome ∧ dranges.options ≠ [] ∧
        ∀ o ∈ dranges.options, o.name.isSome ∧ o.value.isSome := by
  obtain ⟨n, hn⟩ := Option.isSome_iff_exists.mp name
  obtain ⟨f, hf⟩ := Option.isSome_iff_exists.mp face
  rw [whenever_eq_true_iff]
  cases h : var.dranges with
  | none => simp
  | some dranges =>
      by_cases empty : dranges.options = [] <;>
        simp [VerifyDrange, h, hn, hf, empty, both_eq_true_iff, require_eq_true_iff,
          each_eq_true_iff, reject_ne_true]

theorem isSome_VerifyDrange : (VerifyDrange var).isSome := by
  unfold VerifyDrange
  split
  · rename_i dranges _ _ _ _ _
    refine isSome_both.mpr ⟨by simp [isSome_require], fun named => ?_⟩
    have named := require_eq_true_iff.mp named
    refine isSome_both.mpr ⟨by split <;> simp [isSome_reject, named], fun _ => ?_⟩
    refine isSome_each fun o _ => isSome_both.mpr ⟨by simp [isSome_require, named], fun given => ?_⟩
    simp [isSome_require, require_eq_true_iff.mp given, named]
  · rfl

theorem VerifyCurve_eq_true_iff (name : var.name.isSome) (face : var.interface_name.isSome) :
    whenever (var.curves ≠ none) (VerifyCurve var) = some true ↔
      ∀ curves, var.curves = some curves → curves.name.isSome ∧ curves.coefs ≠ [] ∧
        ∀ c ∈ curves.coefs, c.exponent.isSome ∧ c.value.isSome := by
  obtain ⟨n, hn⟩ := Option.isSome_iff_exists.mp name
  obtain ⟨f, hf⟩ := Option.isSome_iff_exists.mp face
  rw [whenever_eq_true_iff]
  cases h : var.curves with
  | none => simp
  | some curves =>
      by_cases empty : curves.coefs = [] <;>
        simp [VerifyCurve, h, hn, hf, empty, both_eq_true_iff, require_eq_true_iff,
          each_eq_true_iff, reject_ne_true]

theorem isSome_VerifyCurve : (VerifyCurve var).isSome := by
  unfold VerifyCurve
  split
  · refine isSome_both.mpr ⟨by simp [isSome_require], fun named => ?_⟩
    have named := require_eq_true_iff.mp named
    refine isSome_both.mpr ⟨by split <;> simp [isSome_reject, named], fun _ => ?_⟩
    refine isSome_each fun c _ => isSome_both.mpr ⟨by simp [isSome_require, named], fun given => ?_⟩
    simp [isSome_require, require_eq_true_iff.mp given, named]
  · rfl

end Checks

/-- `VerifyVariable` accepts what has all it must have. -/
theorem VerifyVariable_eq_true_iff {var : Variable} :
    VerifyVariable var = some true ↔ VariableVerified var := by
  unfold VerifyVariable
  simp only [both_eq_true_iff, require_eq_true_iff, VerifyFormat_eq_true_iff,
    VerifyQualifiers_eq_true_iff, VerifyLocation_eq_true_iff, VerifyOrientation_eq_true_iff]
  constructor
  · rintro ⟨name, kind, face, faceID, format, quals, drange, curve, loc, orient⟩
    exact ⟨name, kind, face, faceID, format, quals, (VerifyDrange_eq_true_iff name face).mp drange,
      (VerifyCurve_eq_true_iff name face).mp curve, loc, orient⟩
  · intro h
    exact ⟨h.name, h.kind, h.interface_name, h.interface_id, h.format, h.qualifiers,
      (VerifyDrange_eq_true_iff h.name h.interface_name).mpr h.dranges,
      (VerifyCurve_eq_true_iff h.name h.interface_name).mpr h.curves, h.location, h.orientation⟩

theorem isSome_VerifyVariable (var : Variable) : (VerifyVariable var).isSome := by
  unfold VerifyVariable
  refine isSome_both.mpr ⟨by simp [isSome_require], fun name => ?_⟩
  have name := require_eq_true_iff.mp name
  refine isSome_both.mpr ⟨by simp [isSome_require, name], fun _ => ?_⟩
  refine isSome_both.mpr ⟨by simp [isSome_require, name], fun face => ?_⟩
  have face := require_eq_true_iff.mp face
  refine isSome_both.mpr ⟨by simp [isSome_require, name], fun _ => ?_⟩
  refine isSome_both.mpr ⟨isSome_VerifyFormat name face, fun _ => ?_⟩
  simp only [isSome_both, isSome_whenever]
  exact ⟨fun _ => isSome_VerifyQualifiers name face, fun _ => ⟨fun _ => isSome_VerifyDrange,
    fun _ => ⟨fun _ => isSome_VerifyCurve, fun _ => ⟨fun _ => isSome_VerifyLocation name,
      fun _ _ => isSome_VerifyOrientation name⟩⟩⟩⟩

theorem VerifyArrival_eq_true_iff {dat : DataMsg} :
    VerifyArrival dat = some true ↔
      ∀ s, dat.msg_arrival = some s → s = .ofString "EVENT" ∨ s = .ofString "PERIODIC" := by
  unfold VerifyArrival
  split
  · rename_i h
    simp [h]
  · rename_i s h
    by_cases known : s = .ofString "EVENT" ∨ s = .ofString "PERIODIC"
    · simp [h, known]
    · simp [h, known, reject_ne_true]

theorem VerifyVarRefs_eq_true_iff {name : Option CString} {refs : List CString}
    (hname : name.isSome) : whenever (refs ≠ []) (VerifyVarRefs name refs) = some true ↔ True := by
  simp +contextual [whenever_eq_true_iff, VerifyVarRefs, hname]

/-- `VerifyDataMsg` accepts what has all it must have. -/
theorem VerifyDataMsg_eq_true_iff {dat : Option DataMsg} :
    VerifyDataMsg dat = some true ↔ ∃ d, dat = some d ∧ DataVerified d := by
  cases dat with
  | none => simp [VerifyDataMsg]
  | some d =>
      simp only [VerifyDataMsg, both_eq_true_iff, require_eq_true_iff, VerifyArrival_eq_true_iff,
        VerifyQualifiers_eq_true_iff, Option.some.injEq, exists_eq_left']
      constructor
      · rintro ⟨name, id, face, faceID, arrival, quals, -⟩
        exact ⟨name, id, face, faceID, arrival, quals⟩
      · intro h
        exact ⟨h.name, h.id, h.interface_name, h.interface_id, h.msg_arrival, h.qualifiers,
          (VerifyVarRefs_eq_true_iff h.name).mpr trivial⟩

theorem isSome_VerifyDataMsg (dat : Option DataMsg) : (VerifyDataMsg dat).isSome := by
  cases dat with
  | none => rfl
  | some d =>
      unfold VerifyDataMsg
      refine isSome_both.mpr ⟨by simp [isSome_require], fun name => ?_⟩
      have name := require_eq_true_iff.mp name
      refine isSome_both.mpr ⟨by simp [isSome_require, name], fun _ => ?_⟩
      refine isSome_both.mpr ⟨by simp [isSome_require, name], fun face => ?_⟩
      have face := require_eq_true_iff.mp face
      refine isSome_both.mpr ⟨by simp [isSome_require, name], fun _ => ?_⟩
      refine isSome_both.mpr ⟨?_, fun _ => ?_⟩
      · unfold VerifyArrival
        split
        · rfl
        · split <;> simp [isSome_reject, name, face]
      · simp only [isSome_both, isSome_whenever]
        exact ⟨fun _ => isSome_VerifyQualifiers name face, fun _ _ => rfl⟩

/-- `VerifyCommandMsg` accepts what has all it must have. -/
theorem VerifyCommandMsg_eq_true_iff {cmd : Option PlainMsg} :
    VerifyCommandMsg cmd = some true ↔ ∃ c, cmd = some c ∧ PlainVerified c := by
  cases cmd with
  | none => simp [VerifyCommandMsg]
  | some c =>
      simp only [VerifyCommandMsg, both_eq_true_iff, require_eq_true_iff,
        VerifyQualifiers_eq_true_iff, Option.some.injEq, exists_eq_left']
      constructor
      · rintro ⟨name, id, face, faceID, quals, -⟩
        exact ⟨name, id, face, faceID, quals⟩
      · intro h
        exact ⟨h.name, h.id, h.interface_name, h.interface_id, h.qualifiers,
          (VerifyVarRefs_eq_true_iff h.name).mpr trivial⟩

theorem isSome_VerifyCommandMsg (cmd : Option PlainMsg) : (VerifyCommandMsg cmd).isSome := by
  cases cmd with
  | none => rfl
  | some c =>
      unfold VerifyCommandMsg
      refine isSome_both.mpr ⟨by simp [isSome_require], fun name => ?_⟩
      have name := require_eq_true_iff.mp name
      refine isSome_both.mpr ⟨by simp [isSome_require, name], fun _ => ?_⟩
      refine isSome_both.mpr ⟨by simp [isSome_require, name], fun face => ?_⟩
      have face := require_eq_true_iff.mp face
      refine isSome_both.mpr ⟨by simp [isSome_require, name], fun _ => ?_⟩
      simp only [isSome_both, isSome_whenever]
      exact ⟨fun _ => isSome_VerifyQualifiers name face, fun _ _ => rfl⟩

/-- `VerifyFaultMsg` accepts what has all it must have. -/
theorem VerifyFaultMsg_eq_true_iff {fault : Option PlainMsg} :
    VerifyFaultMsg fault = some true ↔ ∃ f, fault = some f ∧ PlainVerified f := by
  cases fault with
  | none => simp [VerifyFaultMsg]
  | some f =>
      simp only [VerifyFaultMsg, both_eq_true_iff, require_eq_true_iff,
        VerifyQualifiers_eq_true_iff, Option.some.injEq, exists_eq_left']
      constructor
      · rintro ⟨id, name, face, faceID, quals, -⟩
        exact ⟨name, id, face, faceID, quals⟩
      · intro h
        exact ⟨h.id, h.name, h.interface_name, h.interface_id, h.qualifiers,
          (VerifyVarRefs_eq_true_iff h.name).mpr trivial⟩

theorem isSome_VerifyFaultMsg (fault : Option PlainMsg) : (VerifyFaultMsg fault).isSome := by
  cases fault with
  | none => rfl
  | some f =>
      unfold VerifyFaultMsg
      refine isSome_both.mpr ⟨by simp [isSome_require], fun _ => ?_⟩
      refine isSome_both.mpr ⟨by simp [isSome_require], fun name => ?_⟩
      have name := require_eq_true_iff.mp name
      refine isSome_both.mpr ⟨by simp [isSome_require, name], fun face => ?_⟩
      have face := require_eq_true_iff.mp face
      refine isSome_both.mpr ⟨by simp [isSome_require, name], fun _ => ?_⟩
      simp only [isSome_both, isSome_whenever]
      exact ⟨fun _ => isSome_VerifyQualifiers name face, fun _ _ => rfl⟩

/-- `VerifyInterface` accepts what has a name and an id other than `0`. -/
theorem VerifyInterface_eq_true_iff {face : Interface} :
    VerifyInterface face = some true ↔
      face.name.isSome ∧ face.id ≠ none ∧ face.id ≠ some (.ofString "0") := by
  unfold VerifyInterface
  rw [both_eq_true_iff, require_eq_true_iff, and_congr_right_iff]
  intro _
  by_cases bad : face.id = none ∨ face.id = some (.ofString "0")
  · simp only [bad, if_true, reject_ne_true, false_iff, ne_eq]
    tauto
  · simpa [bad] using not_or.mp bad

theorem isSome_VerifyInterface (face : Interface) : (VerifyInterface face).isSome := by
  refine isSome_both.mpr ⟨by simp [isSome_require], fun name => ?_⟩
  have name := require_eq_true_iff.mp name
  split <;> simp [isSome_reject, name]

end Sdm.XTEDSVerification
