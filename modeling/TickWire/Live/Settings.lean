import TickWire.Live.Channel
import TickWire.Live.Handshake
import TickWire.Live.Subscription
import TickWire.Record.Diagnostic

/-!
# Settings of a session

What a session needs to know before it connects.  A draft holds what was set;
`SettingsDraft.finish` refuses settings that cannot work and fills in the others.
-/

namespace TickWire

/-- The settings of a session. -/
structure Settings where
  key : String
  dataset : String
  host : String
  port : UInt16
  /-- Whether the gateway is asked for the time of sending after each record. -/
  stamped : Bool
  policy : UpgradePolicy
  bufferSize : Nat
  subscriptionLimit : Nat
  /-- The buffer has room for every record. -/
  frame_le_bufferSize : frameMaximumSize ≤ bufferSize
  subscriptionLimit_pos : 0 < subscriptionLimit

/-- Settings in the making. -/
structure SettingsDraft where
  key? : Option String := none
  dataset? : Option String := none
  gateway? : Option (String × UInt16) := none
  stamped : Bool := false
  policy : UpgradePolicy := .asIs
  bufferSize? : Option Nat := none
  subscriptionLimit? : Option Nat := none

namespace SettingsDraft

/-- Takes the key from the environment. -/
def withKeyFrom (found? : Option String) (draft : SettingsDraft) :
    Except LiveError SettingsDraft :=
  match found? with
  | some key => .ok { draft with key? := some key }
  | none => .error (.configuration .keyNotFound)

/-- The key, if it can be one. -/
def checkedKey (draft : SettingsDraft) : Except LiveError String := do
  match draft.key? with
  | none => throw (.configuration .keyMissing)
  | some key =>
    checkKey key
    return key

/-- The dataset, which must not be empty. -/
def checkedDataset (draft : SettingsDraft) : Except LiveError String :=
  match draft.dataset? with
  | none => .error (.configuration .datasetMissing)
  | some dataset =>
    if dataset.toList.isEmpty then .error (.configuration .datasetMissing) else .ok dataset

/-- The settings that a draft describes. -/
def finish (draft : SettingsDraft) : Except LiveError Settings := do
  let key ← draft.checkedKey
  let dataset ← draft.checkedDataset
  let gateway := draft.gateway?.getD (gatewayOf dataset, gatewayPort)
  let bufferSize := draft.bufferSize?.getD defaultBufferSize
  let subscriptionLimit := draft.subscriptionLimit?.getD defaultSubscriptionLimit
  if small : bufferSize < frameMaximumSize then throw (.configuration .bufferBelowFrame)
  else if zero : subscriptionLimit = 0 then
    throw (.configuration .subscriptionLimitZero)
  else
    return {
      key, dataset, bufferSize, subscriptionLimit
      host := gateway.1
      port := gateway.2
      stamped := draft.stamped
      policy := draft.policy
      frame_le_bufferSize := Nat.le_of_not_lt small
      subscriptionLimit_pos := Nat.pos_of_ne_zero zero }

end SettingsDraft

namespace Diagnostic

/-- A draft with every setting by name; the key is not shown. -/
def settingsDraft (draft : SettingsDraft) : String :=
  braced "LiveBuilder"
    [("key", optional (draft.key?.map fun _ => Quoted.quote "<redacted>")),
      ("dataset", optional (draft.dataset?.map Quoted.quote)),
      ("gateway", optional (draft.gateway?.map fun gateway =>
        "(" ++ Quoted.quote gateway.1 ++ ", " ++ toString gateway.2.toNat ++ ")")),
      ("send_ts_out", flag draft.stamped),
      ("upgrade_policy", Coded.name draft.policy),
      ("buffer_size", optional (draft.bufferSize?.map toString)),
      ("max_subscription_len", optional (draft.subscriptionLimit?.map toString))]

end Diagnostic

end TickWire
