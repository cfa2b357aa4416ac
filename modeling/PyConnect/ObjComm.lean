import PyConnect.Common

namespace PyConnect.ObjComm

open Common

/-- Which of the two programs is built: the Python server, or a module's
wrapper. -/
inductive Side
  | server
  | wrapper
  deriving DecidableEq, Repr

def Side.other : Side → Side
  | .server => .wrapper
  | .wrapper => .server

def invalidSocket : Int := -1

/-- The channel of each remote module or server, and the channel that was used
last. -/
structure ObjectComm where
  objCommMap : Std.ExtTreeMap Int Int
  activeCommChannel : Int

def init : ObjectComm := ⟨∅, invalidSocket⟩

def setLastUsedCommChannel (c : ObjectComm) (index : Int) : ObjectComm :=
  { c with activeCommChannel := index }

/-- The last used channel can be taken once. -/
def getLastUsedCommChannel (c : ObjectComm) : ObjectComm × Int :=
  ({ c with activeCommChannel := invalidSocket }, c.activeCommChannel)

/-- The number by which a message names the other end: the module id on the
server, the server's low nibble on the wrapper. -/
def objID (side : Side) (data : List UInt8) : Int :=
  match side with
  | .server => (data.getD 1 0).toNat
  | .wrapper => lowNibble (data.getD 0 0)

/-- The messages that claim the last used channel for their receiver. -/
def mapsChannel (side : Side) (msgType : Option PyConnectMsg) : Bool :=
  match side with
  | .server => msgType = some .moduleAssignId
  | .wrapper => msgType = some .attrMetdExpose || msgType = some .moduleDeclare

def findOrAddCommChanByMsgID (side : Side) (c : ObjectComm) (data : List UInt8) :
    ObjectComm × Int :=
  let msgType := PyConnectMsg.ofCode (msgTypeOf (data.getD 0 0))
  if mapsChannel side msgType then
    let (c, index) := getLastUsedCommChannel c
    if index ≠ invalidSocket then
      ({ c with objCommMap := c.objCommMap.insert (objID side data) index }, index)
    else (c, index)
  else if side = .server ∧ msgType = some .moduleDiscovery then getLastUsedCommChannel c
  else (c, c.objCommMap[objID side data]?.getD invalidSocket)

/-- The first mapping to a channel, in the order of the ids. -/
def findMapping (c : ObjectComm) (chanID : Int) : Option Int :=
  (c.objCommMap.toList.find? (·.2 = chanID)).map (·.1)

theorem findMapping_some {c : ObjectComm} {chanID id : Int} (h : findMapping c chanID = some id) :
    c.objCommMap[id]? = some chanID := by
  obtain ⟨x, hx, rfl⟩ := Option.map_eq_some_iff.mp h
  have hmem := List.mem_of_find?_eq_some hx
  have hval : x.2 = chanID := by simpa using List.find?_some hx
  rw [← hval]
  exact Std.ExtTreeMap.mem_toList_iff_getElem?_eq_some.mp hmem

theorem findMapping_none {c : ObjectComm} {chanID : Int} (h : findMapping c chanID = none) (i : Int) :
    c.objCommMap[i]? ≠ some chanID := by
  intro hi
  have hmem := Std.ExtTreeMap.mem_toList_iff_getElem?_eq_some.mpr hi
  have hn := List.find?_eq_none.mp (Option.map_eq_none_iff.mp h) _ hmem
  simp at hn

/-- The message that stands in for the one a lost peer did not send. -/
def shutdownMessage (side : Side) (id : Int) : List UInt8 :=
  match side with
  | .server => [header .moduleShutdown 0, toByte id, msgEnd]
  | .wrapper => [header .serverShutdown id, 0, msgEnd]

/-- ObjectComm::objCommChannelShutdown, with the message processor's state and
its processInput. -/
def objCommChannelShutdown {σ : Type} (side : Side) (processInput : σ → List UInt8 → σ)
    (c : ObjectComm) (st : σ) (chanID : Int) (notifyMesgProc : Bool) : ObjectComm × σ :=
  match findMapping c chanID with
  | none => (c, st)
  | some id =>
      ({ c with objCommMap := c.objCommMap.erase id },
        if notifyMesgProc then processInput st (shutdownMessage side id) else st)

end PyConnect.ObjComm
