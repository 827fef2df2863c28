import Sdm.Lib.Ownership
import Sdm.XTEDS.PatternSearch
import Sdm.XTEDS.ServiceIds

/-!
Who deletes the definitions that `RegInfo`, `AllRegInfo` and `RegexRegInfo` make.

A wrapper makes definitions of its messages and of their variables, reads them for the texts of the
one that it returns, and deletes them. Those that the wrappers return are joined, and the caller
deletes them all at once. A request joins the definition of its fault message to that of its
command, and then deletes both.

* `plainRegInfo_does`, `requestRegInfo_does`: what a wrapper returns is all that is left of what it
  made.
* `requestRegInfo_fails`: but for a request with a fault message.
* `harmless_iff_collect`: where no such request is found, the model of the texts has one.
* `answer_exact`: a whole call.
* `ownership_iff`: exactly which calls destroy each definition once.
-/

namespace Sdm.XTEDSItem.DefinitionOwnership

open Lib Owning Document Verdict

/-- The classes of the definitions. -/
inductive Definition where
  | MessageDef
  | VariableDef
  deriving DecidableEq

abbrev Defs := Owning Definition

/-! ### The definitions of one wrapper -/

/-- `RegInfo` of `xTEDSCommandMsg`, `xTEDSDataMsg` and `xTEDSFaultMsg`. It is never NULL. -/
def messageRegInfo : Defs (Option Nat) := do
  return some (← new .MessageDef)

/-- `xTEDSMessage::GetVariableXtedsDefinitions`. `VarInfo` makes one definition of a variable. -/
def GetVariableXtedsDefinitions (m : MessageItem) : Defs (Option Nat) :=
  m.vars.foldlM (fun VarDef _ => joinOnto VarDef (do return some (← new .VariableDef))) none

/-- `VariableDef::ToStringConcatVariableDefs`. It stops earlier where the buffer is full, and looks
into the first list again for the names of the second one. -/
def ToStringConcatVariableDefs (pDefs1 pDefs2 : Option Nat) : Defs Unit := do
  walk pDefs1
  walk pDefs2

/-- `NameEquals`, which is asked where there is a name. -/
def NameEquals (ItemName : Option CString) (m : MessageItem) : Defs Bool :=
  match ItemName with
  | none => return false
  | some name =>
      match equals? m.name name with
      | some same => return same
      | none => throw .undefined

/-- `NameEquals` of the reply, whose definition is read where its id is taken. -/
def replyNameEquals (ItemName : Option CString) (reply : MessageItem) (pReplyMsgDef : Nat) :
    Defs Unit := do
  if ← NameEquals ItemName reply then use pReplyMsgDef

/-- `NameEquals` of the fault message, if there is one. -/
def faultNameEquals (ItemName : Option CString) (fault : Option MessageItem) : Defs Unit :=
  match fault with
  | none => pure ()
  | some f => do
      let _ ← NameEquals ItemName f

/-- The end of `RegInfo` of a command or a notification, from `new` on. -/
def plainReturn (ItemName : Option CString) (fault : Option MessageItem) (pMsgDef : Nat)
    (pVarDef : Option Nat) : Defs (Option Nat) := do
  let ReturnDef ← new .MessageDef
  use pMsgDef
  faultNameEquals ItemName fault
  delete (some pMsgDef)
  delete pVarDef
  use ReturnDef
  return some ReturnDef

/-- `RegInfo` of `xTEDSCommand` and of `xTEDSNotification`, with the first message of each. -/
def plainRegInfo (ItemName : Option CString) (first : MessageItem) (fault : Option MessageItem) :
    Defs (Option Nat) := do
  match ← messageRegInfo with
  | none => return none
  | some pMsgDef =>
      let pVarDef ← GetVariableXtedsDefinitions first
      match fault with
      | none =>
          use pMsgDef
          ToStringConcatVariableDefs pVarDef none
          use pMsgDef
          plainReturn ItemName none pMsgDef pVarDef
      | some f =>
          match ← messageRegInfo with
          | none =>
              free (some pMsgDef)
              free pVarDef
              return none
          | some pFaultMsgDef =>
              let pFaultVarDef ← GetVariableXtedsDefinitions f
              use pMsgDef
              use pFaultMsgDef
              ToStringConcatVariableDefs pVarDef pFaultVarDef
              use pMsgDef
              use pFaultMsgDef
              delete (some pFaultMsgDef)
              delete pFaultVarDef
              plainReturn ItemName (some f) pMsgDef pVarDef

/-- The end of `xTEDSRequest::RegInfo`, from `new` on. -/
def requestReturn (ItemName : Option CString) (reply : MessageItem) (fault : Option MessageItem)
    (pReplyMsgDef pCmdMsgDef : Nat) (pReplyVarDef pCmdVarDef : Option Nat) :
    Defs (Option Nat) := do
  let ReturnMsgDef ← new .MessageDef
  use pCmdMsgDef
  replyNameEquals ItemName reply pReplyMsgDef
  faultNameEquals ItemName fault
  delete (some pCmdMsgDef)
  delete (some pReplyMsgDef)
  delete pReplyVarDef
  delete pCmdVarDef
  use ReturnMsgDef
  return some ReturnMsgDef

/-- `xTEDSRequest::RegInfo`. The definition of the fault message is joined to that of the command
and deleted, and the pointer to it stays in the definition of the command. -/
def requestRegInfo (ItemName : Option CString) (command reply : MessageItem)
    (fault : Option MessageItem) : Defs (Option Nat) := do
  match ← messageRegInfo with
  | none => return none
  | some pReplyMsgDef =>
      let pReplyVarDef ← GetVariableXtedsDefinitions reply
      match ← messageRegInfo with
      | none =>
          free (some pReplyMsgDef)
          free pReplyVarDef
          return none
      | some pCmdMsgDef =>
          let pCmdVarDef ← GetVariableXtedsDefinitions command
          match fault with
          | none =>
              use pCmdMsgDef
              use pReplyMsgDef
              ToStringConcatVariableDefs pCmdVarDef pReplyVarDef
              use pCmdMsgDef
              use pReplyMsgDef
              requestReturn ItemName reply none pReplyMsgDef pCmdMsgDef pReplyVarDef pCmdVarDef
          | some f =>
              match ← messageRegInfo with
              | none =>
                  free (some pReplyMsgDef)
                  free pReplyVarDef
                  free (some pCmdMsgDef)
                  free pCmdVarDef
                  return none
              | some pFaultMsgDef =>
                  let pFaultVarDef ← GetVariableXtedsDefinitions f
                  use pCmdMsgDef
                  use pReplyMsgDef
                  use pFaultMsgDef
                  join pCmdMsgDef (some pFaultMsgDef)
                  ToStringConcatVariableDefs pCmdVarDef pReplyVarDef
                  use pCmdMsgDef
                  use pReplyMsgDef
                  use pFaultMsgDef
                  delete (some pFaultMsgDef)
                  delete pFaultVarDef
                  requestReturn ItemName reply (some f) pReplyMsgDef pCmdMsgDef pReplyVarDef
                    pCmdVarDef

/-- `RegInfo` of a wrapper. -/
def RegInfo (ItemName : Option CString) : WrapperItem → Defs (Option Nat)
  | .command c f => plainRegInfo ItemName c f
  | .notification d f => plainRegInfo ItemName d.toMessageItem f
  | .request c d f => requestRegInfo ItemName c d.toMessageItem f

/-! ### The calls -/

/-- A call, with what the search asks for. A pattern that `regcomp` refuses is none. -/
inductive Search where
  | RegInfo (ItemName : CString)
  | AllRegInfo
  | RegexRegInfo (Pattern : Option RegularExpression)

structure Call where
  search : Search
  Qualifiers : List Pair
  Device : Option CString
  Interface : Option CString

section Calls

variable (printed : CString → CString)

/-- What the call asks of a wrapper. -/
def Call.matches (call : Call) (w : WrapperItem) : Verdict :=
  match call.search with
  | .RegInfo ItemName => w.RegInfoMatch printed (some ItemName) call.Qualifiers call.Interface
  | .AllRegInfo => w.RegInfoMatch printed none call.Qualifiers call.Interface
  | .RegexRegInfo Pattern => w.RegexMatch Pattern call.Qualifiers call.Interface

/-- The name that `RegInfo` of the wrappers is given. -/
def Search.ItemName : Search → Option CString
  | .RegInfo ItemName => some ItemName
  | .AllRegInfo => none
  | .RegexRegInfo _ => none

/-- `RegInfo` and `RegexRegInfo` of `xTEDSWrapperList`. -/
def wrapperListRegInfo (call : Call) (list : List WrapperItem) : Defs (Option Nat) :=
  list.foldlM (fun Def w =>
    match call.matches printed w with
    | none => throw .undefined
    | some false => return Def
    | some true => joinOnto Def (RegInfo call.search.ItemName w)) none

/-- `ExactRegInfo` and `RegexRegInfo` of `xTEDSItemTree`. -/
def treeRegInfo (call : Call) (root : ItemTree) : Defs (Option Nat) := do
  let Result ← wrapperListRegInfo printed call root.commands
  let Result ← joinOnto Result (wrapperListRegInfo printed call root.notifications)
  joinOnto Result (wrapperListRegInfo printed call root.requests)

/-- A pattern that `regcomp` refuses throws at the first wrapper, before a definition is made, and
the caller goes on with NULL. -/
def searchRegInfo (call : Call) (root : ItemTree) : Defs (Option Nat) :=
  match call.search with
  | .RegexRegInfo none => return none
  | .RegexRegInfo (some _) | .RegInfo _ | .AllRegInfo => treeRegInfo printed call root

/-- `RegInfo`, `AllRegInfo` and `RegexRegInfo` of `xTEDS`. -/
def answer (x : XTEDS) (call : Call) : Defs (Option Nat) :=
  match call.Device with
  | none => searchRegInfo printed call x.treeRoot
  | some device =>
      match equals? x.deviceName device with
      | none => throw .undefined
      | some true => searchRegInfo printed call x.treeRoot
      | some false => return none

/-- The caller reads the definitions one after another and deletes them. -/
def perform (x : XTEDS) (call : Call) : Defs Unit := do
  let msgdefs ← answer printed x call
  walk msgdefs
  delete msgdefs

/-- A call after another. -/
def performAll (x : XTEDS) (calls : List Call) : Defs Unit :=
  calls.foldlM (fun _ call => perform printed x call) ()

/-- The calls come to their end, so that no definition is used after it was destroyed or destroyed
again, and each was destroyed. -/
def DestroyedOnce (x : XTEDS) (calls : List Call) : Prop :=
  ∃ s, performAll printed x calls Store.empty = .ok ((), s) ∧ ∀ a, s.heap a = none

end Calls

/-! ### What a wrapper leaves -/

section Wrappers

variable {aside : Cells Definition} {roots : List (Option Nat)} {ItemName : Option CString}
  {m : MessageItem} {fault : Option MessageItem}

theorem messageRegInfo_does (aside : Cells Definition) (roots : List (Option Nat)) :
    Does (Owns aside roots) messageRegInfo fun p s => ∃ a, p = some a ∧
      Owns aside (some a :: roots) s := by
  apply (new_does aside roots .MessageDef).bind
  intro a s owns
  exact ⟨some a, s, rfl, a, rfl, owns⟩

/-- The variables of a message leave one list. -/
theorem GetVariableXtedsDefinitions_does (aside : Cells Definition) (roots : List (Option Nat))
    (m : MessageItem) : Does (Owns aside roots) (GetVariableXtedsDefinitions m)
      fun p => Owns aside (p :: roots) := by
  have one (roots : List (Option Nat)) : Exact True (Owns aside roots)
      (do return some (← new .VariableDef) : Defs (Option Nat)) fun p => Owns aside (p :: roots) :=
    ((new_does aside roots .VariableDef).bind fun a => does_pure
      (Q := fun p => Owns aside (p :: roots)) (b := some a)).exact
  have all := foldlM_exact (Q := fun p => Owns aside (p :: roots)) (l := m.vars)
    (fun _ _ VarDef => joinOnto_exact one VarDef) none
  exact (all.does fun _ _ => trivial).weaken (fun s owns => owns_null.mpr owns) fun _ _ owns => owns

theorem NameEquals_does {P : Store Definition → Prop} (named : m.name.isSome) :
    Does P (NameEquals ItemName m) fun _ => P := by
  intro s holds
  cases ItemName with
  | none => exact ⟨false, s, rfl, holds⟩
  | some name =>
      refine ⟨decide (m.name = some name), s, ?_, holds⟩
      rw [NameEquals, equals?_of_isSome named]
      rfl

theorem faultNameEquals_does {P : Store Definition → Prop}
    (named : ∀ f ∈ fault.toList, f.name.isSome) :
    Does P (faultNameEquals ItemName fault) fun _ => P := by
  cases fault with
  | none => exact does_pure (Q := fun _ => P)
  | some f =>
      apply (NameEquals_does (named f List.mem_cons_self)).bind
      exact fun _ => does_pure (Q := fun _ => P)

theorem replyNameEquals_does {P : Store Definition → Prop} {Reply : Nat} (named : m.name.isSome)
    (read : Does P (use Reply) fun _ => P) :
    Does P (replyNameEquals ItemName m Reply) fun _ => P := by
  apply (NameEquals_does named).bind
  intro same
  cases same with
  | false => exact does_pure (Q := fun _ => P)
  | true => exact read

theorem ToStringConcatVariableDefs_does {P : Store Definition → Prop} {p q : Option Nat}
    (first : Does P (walk p) fun _ => P) (second : Does P (walk q) fun _ => P) :
    Does P (ToStringConcatVariableDefs p q) fun _ => P :=
  first.bind fun _ => second

/-- The definition that is returned is the only one that is left. -/
theorem plainReturn_does (named : ∀ f ∈ fault.toList, f.name.isSome) (Def : Nat)
    (VarDef : Option Nat) :
    Does (Owns aside (VarDef :: some Def :: roots)) (plainReturn ItemName fault Def VarDef)
      fun p => Owns aside (p :: roots) := by
  apply (new_does aside _ .MessageDef).bind
  intro ReturnDef
  apply (use_does aside [some ReturnDef, VarDef] roots Def).bind
  intro _
  apply (faultNameEquals_does named).bind
  intro _
  apply (delete_does aside [some ReturnDef, VarDef] roots (some Def)).bind
  intro _
  apply (delete_does aside [some ReturnDef] roots VarDef).bind
  intro _
  apply (use_does aside [] roots ReturnDef).bind
  intro _
  exact does_pure (Q := fun p => Owns aside (p :: roots))

/-- **A command or a notification** leaves the definition that it returns. -/
theorem plainRegInfo_does (first : MessageItem) (named : ∀ f ∈ fault.toList, f.name.isSome) :
    Does (Owns aside roots) (plainRegInfo ItemName first fault)
      fun p => Owns aside (p :: roots) := by
  apply (messageRegInfo_does aside roots).bind
  intro p
  apply does_of_some
  intro Def
  apply (GetVariableXtedsDefinitions_does aside _ first).bind
  intro VarDef
  cases fault with
  | none =>
      apply (use_does aside [VarDef] roots Def).bind
      intro _
      apply (ToStringConcatVariableDefs_does (walk_does aside [] _ VarDef) walk_null).bind
      intro _
      apply (use_does aside [VarDef] roots Def).bind
      intro _
      exact plainReturn_does named Def VarDef
  | some f =>
      apply (messageRegInfo_does aside _).bind
      intro q
      apply does_of_some
      intro FaultDef
      apply (GetVariableXtedsDefinitions_does aside _ f).bind
      intro FaultVarDef
      apply (use_does aside [FaultVarDef, some FaultDef, VarDef] roots Def).bind
      intro _
      apply (use_does aside [FaultVarDef] (VarDef :: some Def :: roots) FaultDef).bind
      intro _
      apply (ToStringConcatVariableDefs_does
        (walk_does aside [FaultVarDef, some FaultDef] (some Def :: roots) VarDef)
        (walk_does aside [] _ FaultVarDef)).bind
      intro _
      apply (use_does aside [FaultVarDef, some FaultDef, VarDef] roots Def).bind
      intro _
      apply (use_does aside [FaultVarDef] (VarDef :: some Def :: roots) FaultDef).bind
      intro _
      apply (delete_does aside [FaultVarDef] (VarDef :: some Def :: roots) (some FaultDef)).bind
      intro _
      apply (delete_does aside [] (VarDef :: some Def :: roots) FaultVarDef).bind
      intro _
      exact plainReturn_does named Def VarDef

theorem requestReturn_does {reply : MessageItem} (named : reply.name.isSome) (Reply Cmd : Nat)
    (ReplyVar CmdVar : Option Nat) :
    Does (Owns aside (CmdVar :: some Cmd :: ReplyVar :: some Reply :: roots))
      (requestReturn ItemName reply none Reply Cmd ReplyVar CmdVar)
      fun p => Owns aside (p :: roots) := by
  apply (new_does aside _ .MessageDef).bind
  intro Return
  apply (use_does aside [some Return, CmdVar] (ReplyVar :: some Reply :: roots) Cmd).bind
  intro _
  apply (replyNameEquals_does named
    (use_does aside [some Return, CmdVar, some Cmd, ReplyVar] roots Reply)).bind
  intro _
  apply (faultNameEquals_does fun f mem => absurd mem List.not_mem_nil).bind
  intro _
  apply (delete_does aside [some Return, CmdVar] (ReplyVar :: some Reply :: roots) (some Cmd)).bind
  intro _
  apply (delete_does aside [some Return, CmdVar, ReplyVar] roots (some Reply)).bind
  intro _
  apply (delete_does aside [some Return, CmdVar] roots ReplyVar).bind
  intro _
  apply (delete_does aside [some Return] roots CmdVar).bind
  intro _
  apply (use_does aside [] roots Return).bind
  intro _
  exact does_pure (Q := fun p => Owns aside (p :: roots))

/-- **A request without a fault message** leaves the definition that it returns. -/
theorem requestRegInfo_does (command : MessageItem) {reply : MessageItem}
    (named : reply.name.isSome) :
    Does (Owns aside roots) (requestRegInfo ItemName command reply none)
      fun p => Owns aside (p :: roots) := by
  apply (messageRegInfo_does aside roots).bind
  intro p
  apply does_of_some
  intro Reply
  apply (GetVariableXtedsDefinitions_does aside _ reply).bind
  intro ReplyVar
  apply (messageRegInfo_does aside _).bind
  intro q
  apply does_of_some
  intro Cmd
  apply (GetVariableXtedsDefinitions_does aside _ command).bind
  intro CmdVar
  apply (use_does aside [CmdVar] (ReplyVar :: some Reply :: roots) Cmd).bind
  intro _
  apply (use_does aside [CmdVar, some Cmd, ReplyVar] roots Reply).bind
  intro _
  apply (ToStringConcatVariableDefs_does (walk_does aside [] _ CmdVar)
    (walk_does aside [CmdVar, some Cmd] (some Reply :: roots) ReplyVar)).bind
  intro _
  apply (use_does aside [CmdVar] (ReplyVar :: some Reply :: roots) Cmd).bind
  intro _
  apply (use_does aside [CmdVar, some Cmd, ReplyVar] roots Reply).bind
  intro _
  exact requestReturn_does named Reply Cmd ReplyVar CmdVar

/-! A request with a fault message: the two definitions that it joins are followed one by one. -/

theorem messageRegInfo_aside (aside : Cells Definition) (roots : List (Option Nat)) :
    Does (Owns aside roots) messageRegInfo fun p s => ∃ a, p = some a ∧
      Owns ((a, some ⟨.MessageDef, none⟩) :: aside) roots s := by
  apply (new_aside aside roots .MessageDef).bind
  intro a s owns
  exact ⟨some a, s, rfl, a, rfl, owns⟩

/-- The definition of the command points to one that was destroyed. -/
theorem requestReturn_fails {reply f : MessageItem} (named : reply.name.isSome)
    (namedF : f.name.isSome) {Reply Cmd Fault : Nat} {ReplyVar CmdVar : Option Nat}
    (joined : (Cmd, some ⟨.MessageDef, some Fault⟩) ∈ aside) (destroyed : (Fault, none) ∈ aside) :
    Fails (Owns aside (CmdVar :: ReplyVar :: some Reply :: roots))
      (requestReturn ItemName reply (some f) Reply Cmd ReplyVar CmdVar) := by
  apply (new_does aside _ .MessageDef).bind_fails
  intro Return
  apply (use_aside _ joined).bind_fails
  intro _
  apply (replyNameEquals_does named
    (use_does aside [some Return, CmdVar, ReplyVar] roots Reply)).bind_fails
  intro _
  have named : ∀ g ∈ (some f).toList, g.name.isSome := by
    intro g mem
    rw [List.mem_singleton.mp mem]
    exact namedF
  apply (faultNameEquals_does named).bind_fails
  intro _
  exact (delete_fails _ joined destroyed).bind

/-- **A request with a fault message** destroys the definition of that message twice. -/
theorem requestRegInfo_fails (command : MessageItem) {reply f : MessageItem}
    (named : reply.name.isSome) (namedF : f.name.isSome) :
    Fails (Owns aside roots) (requestRegInfo ItemName command reply (some f)) := by
  apply (messageRegInfo_does aside roots).bind_fails
  intro p
  apply fails_of_some
  intro Reply
  apply (GetVariableXtedsDefinitions_does aside _ reply).bind_fails
  intro ReplyVar
  apply (messageRegInfo_aside aside _).bind_fails
  intro q
  apply fails_of_some
  intro Cmd
  apply (GetVariableXtedsDefinitions_does _ _ command).bind_fails
  intro CmdVar
  apply (messageRegInfo_aside _ _).bind_fails
  intro r
  apply fails_of_some
  intro Fault
  apply (GetVariableXtedsDefinitions_does _ _ f).bind_fails
  intro FaultVar
  refine (use_aside _ (List.mem_cons_of_mem _ List.mem_cons_self)).bind_fails fun _ => ?_
  apply (use_does _ [FaultVar, CmdVar, ReplyVar] roots Reply).bind_fails
  intro _
  refine (use_aside _ List.mem_cons_self).bind_fails fun _ => ?_
  -- the definition of the command points to that of the fault message from here on
  refine Fails.weaken ?_ fun s => owns_aside_swap
  apply (join_aside _ _ Cmd Fault _).bind_fails
  intro _
  apply (ToStringConcatVariableDefs_does (walk_does _ [FaultVar] (ReplyVar :: some Reply :: roots)
    CmdVar) (walk_does _ [FaultVar, CmdVar] (some Reply :: roots) ReplyVar)).bind_fails
  intro _
  refine (use_aside _ List.mem_cons_self).bind_fails fun _ => ?_
  apply (use_does _ [FaultVar, CmdVar, ReplyVar] roots Reply).bind_fails
  intro _
  refine (use_aside _ (List.mem_cons_of_mem _ List.mem_cons_self)).bind_fails fun _ => ?_
  refine Fails.weaken ?_ fun s => owns_aside_swap
  apply (delete_aside _ _ Fault _).bind_fails
  intro _
  apply (delete_does _ [] (CmdVar :: ReplyVar :: some Reply :: roots) FaultVar).bind_fails
  intro _
  exact requestReturn_fails named namedF (List.mem_cons_of_mem _ List.mem_cons_self)
    List.mem_cons_self

/-- **A wrapper** leaves the definition that it returns exactly where it is not a request with a
fault message. -/
theorem RegInfo_exact {w : WrapperItem} (settled : w.Settled) (ItemName : Option CString)
    (aside : Cells Definition) (roots : List (Option Nat)) :
    Exact (¬ w.FaultyRequest) (Owns aside roots) (RegInfo ItemName w)
      fun p => Owns aside (p :: roots) := by
  cases w with
  | command c f =>
      have named := fun g mem => (settled g (List.mem_cons_of_mem c mem)).name
      have fine : ¬ (WrapperItem.command c f).FaultyRequest := fun ⟨_, _, _, same⟩ => nomatch same
      exact (plainRegInfo_does c named).exact.congr (iff_true_intro fine)
  | notification d f =>
      have named := fun g mem => (settled g (List.mem_cons_of_mem d.toMessageItem mem)).name
      have fine : ¬ (WrapperItem.notification d f).FaultyRequest :=
        fun ⟨_, _, _, same⟩ => nomatch same
      exact (plainRegInfo_does d.toMessageItem named).exact.congr (iff_true_intro fine)
  | request c d f =>
      obtain ⟨-, later⟩ := List.forall_mem_cons.mp settled
      obtain ⟨second, later⟩ := List.forall_mem_cons.mp later
      cases f with
      | none =>
          have fine : ¬ (WrapperItem.request c d none).FaultyRequest := fun ⟨_, _, _, same⟩ =>
            nomatch (WrapperItem.request.inj same).2.2
          exact (requestRegInfo_does c second.name).exact.congr (iff_true_intro fine)
      | some f =>
          have named := (later f List.mem_cons_self).name
          exact ⟨fun fine => absurd ⟨c, d, f, rfl⟩ fine,
            fun _ => requestRegInfo_fails c second.name named⟩

end Wrappers

/-! ### What a call leaves -/

section Calling

variable {printed : CString → CString} {x : XTEDS} {d : DocumentSyntax} {call : Call}
  {list : List WrapperItem} {root : ItemTree}

/-- The wrapper answers, and it is no request with a fault message where it is found. -/
def Call.Harmless (printed : CString → CString) (call : Call) (w : WrapperItem) : Prop :=
  ∃ found, call.matches printed w = some found ∧ (found → ¬ w.FaultyRequest)

/-- All wrappers of the document that the call asks are harmless. -/
def Call.Answered (printed : CString → CString) (x : XTEDS) (call : Call) : Prop :=
  call.search ≠ .RegexRegInfo none → (∀ device ∈ call.Device, x.deviceName = some device) →
    ∀ w ∈ x.treeRoot.allWrappers, call.Harmless printed w

theorem wrapperListRegInfo_exact (settled : ∀ w ∈ list, w.Settled) (roots : List (Option Nat)) :
    Exact (∀ w ∈ list, call.Harmless printed w) (Owns [] roots)
      (wrapperListRegInfo printed call list) fun p => Owns [] (p :: roots) := by
  apply (foldlM_exact (Q := fun p => Owns [] (p :: roots)) _ none).weaken
    (fun s owns => owns_null.mpr owns) fun _ _ owns => owns
  intro w mem Def
  cases asked : call.matches printed w with
  | none =>
      refine ⟨fun ⟨found, answered, _⟩ => ?_, fun _ => fails_throw _⟩
      exact absurd (asked.symm.trans answered) nofun
  | some found =>
      have harmless : call.Harmless printed w ↔ (found → ¬ w.FaultyRequest) := by
        rw [Call.Harmless, asked]
        exact ⟨fun ⟨_, same, fine⟩ => Option.some.inj same ▸ fine, fun fine => ⟨found, rfl, fine⟩⟩
      cases found with
      | false =>
          apply Exact.congr _ harmless
          exact (does_pure (Q := fun p => Owns [] (p :: roots))).exact.congr
            (iff_true_intro nofun)
      | true =>
          apply Exact.congr _ (harmless.trans (forall_prop_of_true rfl))
          exact joinOnto_exact (RegInfo_exact (settled w mem) _ []) Def

theorem treeRegInfo_exact (printed : CString → CString) (call : Call) (settled : root.Settled) :
    Exact (∀ w ∈ root.allWrappers, call.Harmless printed w) (Owns [] [])
      (treeRegInfo printed call root) fun p => Owns [] [p] := by
  obtain ⟨commands, notifications, requests⟩ := ItemTree.settled_iff.mp settled
  apply Exact.congr _ (by rw [ItemTree.allWrappers, List.forall_mem_append, List.forall_mem_append,
    and_assoc])
  apply (wrapperListRegInfo_exact commands []).bind
  intro Result
  apply (joinOnto_exact (wrapperListRegInfo_exact notifications) Result).bind
  intro Result
  exact joinOnto_exact (wrapperListRegInfo_exact requests) Result

/-- Nothing is returned where nothing was made. -/
theorem null_does : Does (Owns [] []) (return none : Defs (Option Nat)) fun p => Owns [] [p] :=
  (does_pure (Q := fun p => Owns [] [p]) (b := none)).weaken (fun _ owns => owns_null.mpr owns)
    fun _ _ owns => owns

theorem searchRegInfo_exact (printed : CString → CString) (settled : root.Settled) (call : Call) :
    Exact (call.search ≠ .RegexRegInfo none → ∀ w ∈ root.allWrappers, call.Harmless printed w)
      (Owns [] []) (searchRegInfo printed call root) fun p => Owns [] [p] := by
  have tree := treeRegInfo_exact printed call settled
  cases isSearch : call.search with
  | RegInfo ItemName =>
      rw [searchRegInfo, isSearch]
      exact tree.congr (forall_prop_of_true nofun)
  | AllRegInfo =>
      rw [searchRegInfo, isSearch]
      exact tree.congr (forall_prop_of_true nofun)
  | RegexRegInfo Pattern =>
      rw [searchRegInfo, isSearch]
      cases Pattern with
      | none => exact null_does.exact.congr (iff_true_intro fun refused => absurd rfl refused)
      | some Pattern => exact tree.congr (forall_prop_of_true nofun)

/-- **A call** leaves the definitions that it returns, exactly where all wrappers that it asks are
harmless. -/
theorem answer_exact (printed : CString → CString) (settled : x.treeRoot.Settled)
    (device : x.deviceName.isSome) (call : Call) :
    Exact (call.Answered printed x) (Owns [] []) (answer printed x call) fun p => Owns [] [p] := by
  have search := searchRegInfo_exact printed settled call
  obtain ⟨name, isName⟩ := Option.isSome_iff_exists.mp device
  cases given : call.Device with
  | none =>
      rw [answer, given]
      apply search.congr
      rw [Call.Answered, given]
      exact ⟨fun all named => all named nofun, fun all named _ => all named⟩
  | some device =>
      rw [answer, given, isName]
      have asked : call.Answered printed x ↔ (call.search ≠ .RegexRegInfo none → name = device →
          ∀ w ∈ x.treeRoot.allWrappers, call.Harmless printed w) := by
        rw [Call.Answered, given, isName]
        simp only [Option.mem_some_iff, forall_eq', Option.some.injEq]
      by_cases same : name = device
      · have isSame : equals? (some name) device = some true := congrArg some (decide_eq_true same)
        simp only [isSame]
        exact search.congr (asked.trans ⟨fun all named => all named same,
          fun all named _ => all named⟩)
      · have isOther : equals? (some name) device = some false :=
          congrArg some (decide_eq_false same)
        simp only [isOther]
        exact null_does.exact.congr (asked.trans (iff_true_intro fun _ isSame =>
          absurd isSame same))

theorem deviceName_of_Parse (accepted : Parse d = .ok x) : x.deviceName.isSome := by
  obtain ⟨parsed, -, -, built⟩ := Parse_eq_ok_iff.mp accepted
  obtain ⟨header, -, name, -, -, root, -, rfl⟩ := build_eq_ok_iff.mp built
  exact name

theorem perform_exact (printed : CString → CString) (settled : x.treeRoot.Settled)
    (device : x.deviceName.isSome) (call : Call) :
    Exact (call.Answered printed x) (Owns [] []) (perform printed x call)
      fun _ => Owns [] [] := by
  apply (answer_exact printed settled device call).bind_does
  intro p
  apply (walk_does [] [] [] p).bind
  intro _
  exact delete_does [] [] [] p

/-- The model of the texts and the ids has a definition of the same wrappers. -/
theorem isSome_RegInfo_iff {w : WrapperItem} (settled : w.Settled) (ItemName : Option CString) :
    (w.RegInfo ItemName).isSome ↔ ¬ w.FaultyRequest := by
  cases ItemName with
  | none => exact WrapperItem.isSome_RegInfo_none
  | some name =>
      apply WrapperItem.isSome_RegInfo
      exact fun m mem => ⟨(settled m mem).name, fun v inside => ((settled m mem).vars v inside).1⟩

/-- The searches of that model come to a result exactly where all wrappers are harmless. -/
theorem harmless_iff_collect (settled : ∀ w ∈ list, w.Settled) :
    (∀ w ∈ list, call.Harmless printed w) ↔
      (collect (call.matches printed) (·.RegInfo call.search.ItemName) list).isSome := by
  induction list with
  | nil => exact iff_of_true (fun w mem => absurd mem List.not_mem_nil) rfl
  | cons w rest ih =>
      obtain ⟨first, later⟩ := List.forall_mem_cons.mp settled
      rw [List.forall_mem_cons, ih later, collect, Call.Harmless]
      cases asked : call.matches printed w with
      | none => simp
      | some found =>
          cases found with
          | false => simp
          | true =>
              have made := isSome_RegInfo_iff first call.search.ItemName
              cases isMade : w.RegInfo call.search.ItemName <;> simp_all

/-- **Definition ownership.** The definitions of a run of calls are all destroyed once, and not used
after that, exactly where no call finds a request with a fault message. -/
theorem ownership_iff (accepted : Parse d = .ok x) (printed : CString → CString)
    (calls : List Call) :
    DestroyedOnce printed x calls ↔ ∀ call ∈ calls, call.Answered printed x := by
  have exact := foldlM_exact (Q := fun _ : Unit => Owns [] []) (l := calls)
    (fun call _ _ => perform_exact printed (settled_of_Parse accepted)
      (deviceName_of_Parse accepted) call) ()
  constructor
  · rintro ⟨s, run, -⟩
    by_contra absurd
    obtain ⟨e, stopped⟩ := exact.fails absurd Store.empty owns_empty
    cases stopped.symm.trans run
  · intro answered
    obtain ⟨_, s, run, owns⟩ := exact.does answered Store.empty owns_empty
    exact ⟨s, run, owns.destroyed⟩

end Calling

/-! ### Two requests -/

/-- The calls of a search for the name of the command. -/
def demoCall : Call where
  search := .RegInfo (.ofString "c")
  Qualifiers := []
  Device := none
  Interface := none

/-- The definition that each of two calls makes is destroyed once. -/
theorem ownership_demoRequest : DestroyedOnce id demoRequestTree [demoCall, demoCall] := by
  have accepted : Parse demoRequest = .ok demoRequestTree := rfl
  refine (ownership_iff accepted id [demoCall, demoCall]).mpr fun call mem _ _ w here => ?_
  obtain rfl : call = demoCall := by simpa using mem
  obtain rfl : w = .request demoCommand demoMessage none := List.mem_singleton.mp here
  refine ⟨true, rfl, fun _ => ?_⟩
  rintro ⟨c, d, f, same⟩
  cases same

/-- A document like `demoRequest`, where the request has a fault message too. -/
def demoFaultyRequest : DocumentSyntax where
  encoding := none
  attributes := [(.name, .ofString "demo")]
  appDevice := .closed [(.name, .ofString "demo"), (.kind, .ofString "software")]
  interfaces :=
    [{ attributes := [(.name, .ofString "Demo"), (.id, .ofString "1")]
       elements := some
        { «variables» := []
          messages := [.request
            [{ attributes := [(.name, .ofString "c"), (.id, .ofString "1")]
               elements := none }]
            [{ attributes := [(.name, .ofString "m"), (.id, .ofString "2")]
               elements := ⟨[], []⟩ }]
            (some { attributes := [(.name, .ofString "f"), (.id, .ofString "3")]
                    elements := none })] } }]

/-- What `Parse` makes of it. -/
def demoFaultyTree : XTEDS where
  treeRoot :=
    { requests := [.request demoCommand demoMessage (some { demoCommand with
        name := some (.ofString "f")
        interfaceMessageID := ⟨1, 3⟩ })] }
  deviceName := some (.ofString "demo")
  componentKey := none
  spaUHub := none
  spaUPort := none

/-- The definition of the fault message is destroyed twice. -/
theorem not_destroyedOnce : ¬ ∀ (d : DocumentSyntax) (x : XTEDS), Parse d = .ok x →
    ∀ (printed : CString → CString) (calls : List Call), DestroyedOnce printed x calls := by
  intro all
  obtain ⟨s, run, -⟩ := all demoFaultyRequest demoFaultyTree rfl id [demoCall]
  have stopped : performAll id demoFaultyTree [demoCall] Store.empty = .error .undefined := rfl
  cases stopped.symm.trans run

end Sdm.XTEDSItem.DefinitionOwnership
