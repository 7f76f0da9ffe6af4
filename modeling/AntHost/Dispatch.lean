import AntHost.KeyedList
import AntHost.Message.Basic
/-!
# Dispatch

The handlers a session calls: one slot per channel and one for responses and notifications. A slot
names the buffer its handler reads; a delivery fills that buffer before the handler is called.
Handlers and buffers are left abstract.
-/

namespace AntHost

variable {H β : Type}

/-- A handler and the buffer it finds its data in. -/
structure Slot (H β : Type) where
  handler : H
  buffer : β
deriving DecidableEq, Repr

/-- Channel slots and the response slot. -/
structure DispatchTable (H β : Type) where
  channels : Vector (Option (Slot H β)) maxChannels := Vector.replicate maxChannels none
  response : Option (Slot H β) := none

namespace DispatchTable

/-- Gives a channel its slot; channels past the last one are ignored. -/
def assign (table : DispatchTable H β) (channel : UInt8) (slot : Slot H β) : DispatchTable H β :=
  { table with channels := table.channels.setIfInBounds channel.toNat (some slot) }

def unassign (table : DispatchTable H β) (channel : UInt8) : DispatchTable H β :=
  { table with channels := table.channels.setIfInBounds channel.toNat none }

def setResponse (table : DispatchTable H β) (slot : Slot H β) : DispatchTable H β :=
  { table with response := some slot }

def unassignAll (_ : DispatchTable H β) : DispatchTable H β := {}

def slot? (table : DispatchTable H β) (channel : UInt8) : Option (Slot H β) :=
  table.channels[channel.toNat]?.join

def slots (table : DispatchTable H β) : List (Slot H β) :=
  table.channels.toList.filterMap id ++ table.response.toList

theorem slot?_assign (table : DispatchTable H β) (slot : Slot H β) {channel : UInt8}
    (hchannel : channel.toNat < maxChannels) (other : UInt8) :
    (table.assign channel slot).slot? other =
      if other = channel then some slot else table.slot? other := by
  unfold slot? assign
  rw [Vector.getElem?_setIfInBounds]
  by_cases hother : other = channel
  · subst hother
    simp [hchannel]
  · have hindex : channel.toNat ≠ other.toNat := fun heq => hother (UInt8.toNat_inj.mp heq).symm
    rw [if_neg hindex, if_neg hother]

theorem slot?_unassign (table : DispatchTable H β) (channel other : UInt8) :
    (table.unassign channel).slot? other =
      if other = channel then none else table.slot? other := by
  unfold slot? unassign
  rw [Vector.getElem?_setIfInBounds]
  by_cases hother : other = channel
  · subst hother
    by_cases hchannel : other.toNat < maxChannels <;> simp [hchannel]
  · have hindex : channel.toNat ≠ other.toNat := fun heq => hother (UInt8.toNat_inj.mp heq).symm
    rw [if_neg hindex, if_neg hother]

@[simp] theorem slot?_unassignAll (table : DispatchTable H β) (channel : UInt8) :
    table.unassignAll.slot? channel = none := by
  rw [slot?, unassignAll, Vector.getElem?_replicate]
  split <;> rfl

/-! Channels past the last one have no slot and are given none. -/

theorem slot?_of_le (table : DispatchTable H β) {channel : UInt8}
    (hchannel : maxChannels ≤ channel.toNat) : table.slot? channel = none := by
  rw [slot?, Vector.getElem?_eq_none hchannel]
  rfl

theorem assign_of_le (table : DispatchTable H β) {channel : UInt8}
    (hchannel : maxChannels ≤ channel.toNat) (slot : Slot H β) :
    table.assign channel slot = table := by
  rw [assign, Vector.setIfInBounds_eq_of_size_le hchannel]

theorem unassign_of_le (table : DispatchTable H β) {channel : UInt8}
    (hchannel : maxChannels ≤ channel.toNat) : table.unassign channel = table := by
  rw [unassign, Vector.setIfInBounds_eq_of_size_le hchannel]

end DispatchTable

/-- The contents of the buffers in use. -/
structure Buffers (β : Type) where
  store : KeyedList β (List UInt8) := {}
deriving Repr

namespace Buffers

variable [DecidableEq β]

/-- What a buffer holds; a buffer never filled is empty. -/
def contents (buffers : Buffers β) (buffer : β) : List UInt8 :=
  (buffers.store.get? buffer).getD []

/-- Replaces what a buffer holds by as much of the data as fits. -/
def fill (buffers : Buffers β) (buffer : β) (data : List UInt8) : Buffers β :=
  ⟨buffers.store.set buffer (data.take bufferSize)⟩

theorem contents_fill (buffers : Buffers β) (buffer other : β) (data : List UInt8) :
    (buffers.fill buffer data).contents other =
      if other = buffer then data.take bufferSize else buffers.contents other := by
  unfold contents fill
  rw [KeyedList.get?_set]
  split <;> rfl

end Buffers

/-- One call of a handler: its slot, the channel and the event code or message identifier. -/
structure Invocation (H β : Type) where
  slot : Slot H β
  channel : UInt8
  code : UInt8
deriving DecidableEq, Repr

/-- Delivers data to a slot: its buffer is filled, then its handler is due. -/
def Slot.deliver [DecidableEq β] (slot : Slot H β) (channel code : UInt8) (data : List UInt8)
    (buffers : Buffers β) : Invocation H β × Buffers β :=
  (⟨slot, channel, code⟩, buffers.fill slot.buffer data)

end AntHost
