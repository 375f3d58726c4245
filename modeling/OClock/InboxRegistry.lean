import Mathlib.Data.List.Perm.Basic
import Mathlib.Data.List.Nodup
import OClock.Text

/-!
The inboxes of inbox.cpp and their registry. Every thread has one inbox; a consumer that
finds it empty sleeps in `waitForMessage` and is told so by `getMessage`. The counters are
of the type `Int32U`.
-/

namespace OClock.InboxRegistry

/-- `threadIdIgnore` is the count of the threads, and names none of them. -/
inductive ThreadId where
  | display | ledStrip | lightSensor | motionSensor | mqttClient | dictionary | timerTick | ignore
  deriving DecidableEq, Repr

/-- The threads in the order of the enumeration. -/
def threadIds : List ThreadId :=
  [.display, .ledStrip, .lightSensor, .motionSensor, .mqttClient, .dictionary, .timerTick]

inductive InboxMsgType where
  | noop | terminate | motionOn | motionOff | timerTickMessage
  | displayBrightHigh | displayBrightLow
  | displayModeNothing | displayModeBasicClock | displayModeMessage
  deriving DecidableEq, Repr

def maxPayloadSize : Nat := 64

structure InboxMsg where
  inboxMsgType : InboxMsgType
  payload : Vector UInt8 maxPayloadSize
  deriving DecidableEq

/-- A message of a type, its payload cleared. -/
def InboxMsg.ofType (inboxMsgType : InboxMsgType) : InboxMsg :=
  ⟨inboxMsgType, Vector.replicate maxPayloadSize 0⟩

structure Inbox where
  msgs : List InboxMsg
  msgCount : UInt32
  deriving DecidableEq

def Inbox.new : Inbox := ⟨[], 0⟩

def Inbox.timerTickMessage : InboxMsg := .ofType .timerTickMessage

def Inbox.addMessage (inbox : Inbox) (msg : InboxMsg) : Inbox :=
  ⟨inbox.msgs ++ [msg], inbox.msgCount + 1⟩

/-- Nothing while the predicate of the condition variable is false. -/
def Inbox.waitForMessage (inbox : Inbox) : Option (InboxMsg × Inbox) :=
  match inbox.msgs with
  | [] => none
  | msg :: rest => some (msg, ⟨rest, inbox.msgCount - 1⟩)

/-- The message taken, if the inbox had one. -/
def Inbox.getMessage (inbox : Inbox) : Option InboxMsg × Inbox :=
  match inbox.msgs with
  | [] => (none, inbox)
  | msg :: rest => (some msg, ⟨rest, inbox.msgCount - 1⟩)

def Inbox.getMsgCount (inbox : Inbox) : UInt32 := inbox.msgCount

def Inbox.clear (_ : Inbox) : Inbox := ⟨[], 0⟩

/-- The table of the inboxes. -/
abbrev Inboxes := ThreadId → Option Inbox

/-- Replaces the inbox of one thread. -/
def Inboxes.write (inboxes : Inboxes) (threadId : ThreadId) (inbox : Inbox) : Inboxes :=
  Function.update inboxes threadId (some inbox)

/-- The registry after `getInbox`; the reference returned is the thread's name. -/
def getInbox (inboxes : Inboxes) (threadId : ThreadId) : Inboxes :=
  match inboxes threadId with
  | none => inboxes.write threadId .new
  | some _ => inboxes

/-- `inbox->addMessage(msg)` through the pointer of the table. -/
def addMessageTo (inboxes : Inboxes) (threadId : ThreadId) (msg : InboxMsg) : Inboxes :=
  match inboxes threadId with
  | none => inboxes
  | some inbox => inboxes.write threadId (inbox.addMessage msg)

/-- One turn of the loop of `broadcast`. -/
def broadcastEntry (msg : InboxMsg) (threadIdFrom : ThreadId) (inboxes : Inboxes)
    (threadId : ThreadId) : Inboxes :=
  if threadId ≠ threadIdFrom then addMessageTo inboxes threadId msg else inboxes

/-- The whole loop, over the entries in the order of the table. -/
def broadcastOver (order : List ThreadId) (inboxes : Inboxes) (msg : InboxMsg)
    (threadIdFrom : ThreadId) : Inboxes :=
  order.foldl (broadcastEntry msg threadIdFrom) inboxes

/-- The entries of the table in the order of the enumeration. -/
def Inboxes.entries (inboxes : Inboxes) : List ThreadId :=
  (threadIds ++ [ThreadId.ignore]).filter fun threadId => (inboxes threadId).isSome

def broadcast (inboxes : Inboxes) (msg : InboxMsg) (threadIdFrom : ThreadId) : Inboxes :=
  broadcastOver inboxes.entries inboxes msg threadIdFrom

/-- Every inbox, as `main` creates them before it starts the threads. -/
def createInboxes : Inboxes := threadIds.foldl getInbox fun _ => none

/-- An iteration order of the table: every entry, once. -/
structure Iterates (inboxes : Inboxes) (order : List ThreadId) : Prop where
  once : order.Nodup
  every : ∀ threadId, threadId ∈ order ↔ (inboxes threadId).isSome = true

section Write
variable (inboxes : Inboxes) (threadId : ThreadId) (inbox : Inbox)

@[simp] theorem write_same : inboxes.write threadId inbox threadId = some inbox :=
  Function.update_self ..

theorem write_other {other : ThreadId} (different : other ≠ threadId) :
    inboxes.write threadId inbox other = inboxes other := Function.update_of_ne different ..

end Write

theorem getInbox_of_some {inboxes : Inboxes} {threadId : ThreadId} {inbox : Inbox}
    (present : inboxes threadId = some inbox) : getInbox inboxes threadId = inboxes := by
  simp only [getInbox, present]

theorem getInbox_of_none {inboxes : Inboxes} {threadId : ThreadId}
    (absent : inboxes threadId = none) :
    getInbox inboxes threadId = inboxes.write threadId .new := by
  simp only [getInbox, absent]

theorem addMessageTo_of_some {inboxes : Inboxes} {threadId : ThreadId} {inbox : Inbox}
    (present : inboxes threadId = some inbox) (msg : InboxMsg) :
    addMessageTo inboxes threadId msg = inboxes.write threadId (inbox.addMessage msg) := by
  simp only [addMessageTo, present]

/-- A message reaches the inbox it is put into and no other. -/
theorem addMessageTo_inbox (inboxes : Inboxes) (threadId : ThreadId) (msg : InboxMsg)
    (other : ThreadId) :
    addMessageTo inboxes threadId msg other =
      (inboxes other).map fun inbox => if other = threadId then inbox.addMessage msg else inbox := by
  cases present : inboxes threadId with
  | none =>
      simp only [addMessageTo, present]
      by_cases hit : other = threadId
      · rw [hit, present]
        rfl
      · simp [hit]
  | some inbox =>
      rw [addMessageTo_of_some present]
      by_cases hit : other = threadId
      · subst hit
        simp [present]
      · rw [write_other _ _ _ hit]
        simp [hit]

theorem broadcastOver_inbox (msg : InboxMsg) (threadIdFrom : ThreadId) (order : List ThreadId)
    (once : order.Nodup) (inboxes : Inboxes) (threadId : ThreadId) :
    broadcastOver order inboxes msg threadIdFrom threadId =
      (inboxes threadId).map fun inbox =>
        if threadId ∈ order ∧ threadId ≠ threadIdFrom then inbox.addMessage msg else inbox := by
  induction order generalizing inboxes with
  | nil => simp [broadcastOver]
  | cons head rest ih =>
      obtain ⟨fresh, later⟩ := List.nodup_cons.mp once
      unfold broadcastOver at ih ⊢
      rw [List.foldl_cons, ih later]
      have turn : (broadcastEntry msg threadIdFrom inboxes head) threadId =
          (inboxes threadId).map fun inbox =>
            if threadId = head ∧ threadId ≠ threadIdFrom then inbox.addMessage msg else inbox := by
        by_cases own : head = threadIdFrom
        · subst own
          simp [broadcastEntry]
        · rw [broadcastEntry, if_pos own, addMessageTo_inbox]
          congr 1
          funext inbox
          by_cases hit : threadId = head
          · simp [hit, own]
          · simp [hit]
      rw [turn, Option.map_map]
      congr 1
      funext inbox
      by_cases hit : threadId = head
      · subst hit
        simp [fresh]
      · simp [hit]

theorem entries_iterates (inboxes : Inboxes) : Iterates inboxes inboxes.entries where
  once := List.Nodup.filter _ (by decide)
  every threadId := by
    have all : threadId ∈ threadIds ++ [ThreadId.ignore] := by cases threadId <;> decide
    rw [Inboxes.entries, List.mem_filter]
    exact and_iff_right all

/-- A broadcast that nothing interrupts: each inbox but the sender's gets the message,
whatever the order of the table. -/
theorem broadcastOver_eq {inboxes : Inboxes} {order : List ThreadId}
    (iterates : Iterates inboxes order) (msg : InboxMsg) (threadIdFrom threadId : ThreadId) :
    broadcastOver order inboxes msg threadIdFrom threadId =
      (inboxes threadId).map fun inbox =>
        if threadId = threadIdFrom then inbox else inbox.addMessage msg := by
  rw [broadcastOver_inbox msg threadIdFrom order iterates.once]
  cases present : inboxes threadId with
  | none => rfl
  | some inbox =>
      have listed : threadId ∈ order := (iterates.every threadId).mpr (present ▸ rfl)
      by_cases own : threadId = threadIdFrom <;> simp [listed, own]

theorem broadcast_inbox (inboxes : Inboxes) (msg : InboxMsg)
    (threadIdFrom threadId : ThreadId) :
    broadcast inboxes msg threadIdFrom threadId =
      (inboxes threadId).map fun inbox =>
        if threadId = threadIdFrom then inbox else inbox.addMessage msg :=
  broadcastOver_eq (entries_iterates inboxes) msg threadIdFrom threadId

theorem created_inboxes {threadId : ThreadId} (thread : threadId ≠ .ignore) :
    createInboxes threadId = some .new := by
  cases threadId <;> first | rfl | exact absurd rfl thread

theorem write_isSome {inboxes : Inboxes} {target : ThreadId} {inbox : Inbox}
    (present : inboxes target = some inbox) (after : Inbox) (threadId : ThreadId) :
    (inboxes.write target after threadId).isSome = (inboxes threadId).isSome := by
  by_cases hit : threadId = target
  · subst hit
    simp [present]
  · rw [write_other _ _ _ hit]

theorem addMessageTo_isSome (inboxes : Inboxes) (target : ThreadId) (msg : InboxMsg)
    (threadId : ThreadId) :
    (addMessageTo inboxes target msg threadId).isSome = (inboxes threadId).isSome := by
  rw [addMessageTo_inbox, Option.isSome_map]

/-! What waits in an inbox. -/

def queue (inboxes : Inboxes) (threadId : ThreadId) : List InboxMsg :=
  ((inboxes threadId).map Inbox.msgs).getD []

theorem queue_of_some {inboxes : Inboxes} {threadId : ThreadId} {inbox : Inbox}
    (present : inboxes threadId = some inbox) : queue inboxes threadId = inbox.msgs := by
  simp [queue, present]

theorem queue_addMessageTo {inboxes : Inboxes} {target : ThreadId}
    (present : (inboxes target).isSome = true) (msg : InboxMsg) (threadId : ThreadId) :
    queue (addMessageTo inboxes target msg) threadId =
      queue inboxes threadId ++ if target = threadId then [msg] else [] := by
  obtain ⟨inbox, found⟩ := Option.isSome_iff_exists.mp present
  rw [queue, addMessageTo_inbox]
  by_cases hit : target = threadId
  · subst hit
    simp [queue, found, Inbox.addMessage]
  · cases held : inboxes threadId <;> simp [queue, held, hit, Ne.symm hit]

theorem queue_taken {inboxes : Inboxes} {target : ThreadId} {inbox after : Inbox}
    {msg : InboxMsg} (present : inboxes target = some inbox)
    (taken : inbox.msgs = msg :: after.msgs) (threadId : ThreadId) :
    queue inboxes threadId =
      (if target = threadId then [msg] else []) ++ queue (inboxes.write target after) threadId := by
  by_cases hit : target = threadId
  · subst hit
    simp [queue, present, taken]
  · simp [queue, write_other _ _ _ (Ne.symm hit), hit]

theorem waitForMessage_takes {inbox after : Inbox} {msg : InboxMsg}
    (ready : inbox.waitForMessage = some (msg, after)) :
    inbox.msgs = msg :: after.msgs ∧ after.msgCount = inbox.msgCount - 1 := by
  unfold Inbox.waitForMessage at ready
  split at ready
  · cases ready
  · next queued =>
      cases ready
      exact ⟨queued, rfl⟩

/-- A broadcast is queued in every inbox that there is, but the sender's. -/
theorem queue_broadcast {inboxes : Inboxes} {threadId : ThreadId}
    (present : (inboxes threadId).isSome = true) (msg : InboxMsg) (threadIdFrom : ThreadId) :
    queue (broadcast inboxes msg threadIdFrom) threadId =
      queue inboxes threadId ++ if threadId = threadIdFrom then [] else [msg] := by
  obtain ⟨inbox, found⟩ := Option.isSome_iff_exists.mp present
  rw [queue, broadcast_inbox, queue_of_some found, found]
  by_cases own : threadId = threadIdFrom <;> simp [own, Inbox.addMessage]

theorem broadcast_isSome (inboxes : Inboxes) (msg : InboxMsg) (threadIdFrom threadId : ThreadId) :
    (broadcast inboxes msg threadIdFrom threadId).isSome = (inboxes threadId).isSome := by
  rw [broadcast_inbox, Option.isSome_map]

/-- The counter and the queue agree up to the width of the counter. -/
def Counted (inbox : Inbox) : Prop := inbox.msgCount = UInt32.ofNat inbox.msgs.length

theorem new_counted : Counted .new := rfl

theorem addMessage_counted {inbox : Inbox} (counted : Counted inbox) (msg : InboxMsg) :
    Counted (inbox.addMessage msg) := by
  unfold Counted at counted ⊢
  simp [Inbox.addMessage, counted, UInt32.ofNat_add]

theorem taken_counted {inbox : Inbox} {msg : InboxMsg} {rest : List InboxMsg}
    (counted : Counted inbox) (queue : inbox.msgs = msg :: rest) :
    Counted ⟨rest, inbox.msgCount - 1⟩ := by
  unfold Counted at counted ⊢
  rw [counted, queue, List.length_cons, UInt32.ofNat_add]
  exact UInt32.add_sub_cancel ..

end OClock.InboxRegistry
