import Gdbserver.Rsp.Packet

/-!
# The action list of a `vCont` packet

`bin/debugserver/thread-action-list.cc`: parsing, and the lookup of the action
for one thread.
-/

set_option autoImplicit false

namespace Gdbserver

inductive Action where
  | none
  | continue
  | step
  deriving DecidableEq

/-- `ThreadActionList::Entry`; `pid` and `tid` may be `kAll`, `tid` may be 0. -/
structure Entry where
  action : Action
  pid : UInt64
  tid : UInt64
  deriving DecidableEq

structure ThreadActionList where
  valid : Bool
  defaultAction : Action
  actions : List Entry

namespace ThreadActionList

def kAll : UInt64 := 0xffffffffffffffff

def Entry.contains (entry : Entry) (pid tid : UInt64) : Bool :=
  (pid = entry.pid ∨ entry.pid = kAll) ∧ (tid = entry.tid ∨ entry.tid = kAll)

def decodeAction (char : UInt8) : Option Action :=
  if char = chr 'c' then some .continue
  else if char = chr 's' then some .step
  else none

/-- An item that is not a default action: `<action>:<thread-id>`. A missing or
zero pid stands for the current process. -/
def parseEntry (ftl : Ftl) (garbage : UInt64) (action : Action) (curProc : UInt64)
    (threadId : Bytes) : Option Entry :=
  match Util.parseThreadId ftl garbage threadId with
  | none => none
  | some id =>
      if (id.hasPid ∧ id.pid ≤ -2) ∨ id.tid ≤ -2 then none
      else
        let pid := if ¬ id.hasPid ∨ id.pid = 0 then curProc.toInt64 else id.pid
        if pid = -1 ∧ id.tid ≠ -1 then none
        else some ⟨action, if pid = -1 then kAll else pid.toUInt64,
          if id.tid = -1 then kAll else id.tid.toUInt64⟩

/-- The constructor's loop over the items. A rejected item ends the loop with
`valid_` unset; the entries pushed before it stay, the default does not. -/
def parseItems (ftl : Ftl) (garbage : Nat → UInt64) (curProc : UInt64) :
    Action → List Entry → List Bytes → ThreadActionList
  | defaultAction, actions, [] => ⟨true, defaultAction, actions⟩
  | defaultAction, actions, item :: rest =>
      match item with
      | [] => ⟨false, .none, actions⟩
      | letter :: arguments =>
          match decodeAction letter with
          | none => ⟨false, .none, actions⟩
          | some action =>
              match arguments with
              | [] =>
                  if defaultAction ≠ .none then ⟨false, .none, actions⟩
                  else parseItems ftl garbage curProc action actions rest
              | colon :: threadId =>
                  if colon ≠ chr ':' then ⟨false, .none, actions⟩
                  else match parseEntry ftl (garbage rest.length) action curProc threadId with
                    | none => ⟨false, .none, actions⟩
                    | some entry =>
                        parseItems ftl garbage curProc defaultAction (actions ++ [entry]) rest

/-- `garbage` is the uninitialised memory each call of `ParseThreadId` sees. -/
def ofString (ftl : Ftl) (garbage : Nat → UInt64) (string : Bytes) (curProc : UInt64) :
    ThreadActionList :=
  if string = [] then ⟨false, .none, []⟩
  else parseItems ftl garbage curProc .none [] (Util.semicolonItems string)

def getAction (list : ThreadActionList) (pid tid : UInt64) : Action :=
  match list.actions.find? fun entry => Entry.contains entry pid tid with
  | some entry => entry.action
  | none => list.defaultAction

end ThreadActionList

end Gdbserver
