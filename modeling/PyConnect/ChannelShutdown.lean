import PyConnect.ObjComm
import PyConnect.Maps
import PyConnect.ModuleRouting

namespace PyConnect.ChannelShutdown

open Common Values Maps ObjComm Stub StubMessage

variable {α σ : Type} {c c' : ObjectComm} {chanID : Int} {found found' : Int → Option α}

theorem wrapper_shutdown (b : Wrapper.Build) (decrypt : List UInt8 → Option (List UInt8))
    (w : Wrapper.PyConnectWrapper) (id i : Int) :
    (WrapperInput.processInput b decrypt w (shutdownMessage .wrapper id) true).wrapper.serverMap[i]? =
      if i = id % 16 then none else w.serverMap[i]? := by
  obtain ⟨h0, ht⟩ := msgType_header .serverShutdown id
  have h : (WrapperInput.processInput b decrypt w (shutdownMessage .wrapper id) true).wrapper =
      (WrapperInput.serverShutdown w (id % 16)).1 := by
    simp [WrapperInput.processInput, shutdownMessage, WrapperInput.processMessage, Decoding.byte,
      Decoding.startAt, h0, ht, lowNibble_header]
  rw [h, WrapperInput.serverShutdown]
  split
  next hm => exact get_erase w.serverMap (id % 16) i
  next hm =>
    split
    next hi => rw [hi, Std.ExtTreeMap.getElem?_eq_none hm]
    next => rfl

end PyConnect.ChannelShutdown
