import ConsoleBus.Command
import ConsoleBus.Proofs.GameIds

/-!
# An instant bus

On a bus without clock, registers and wire every packet happens at once: the device that is plugged
into the selected port and listens for the address hears the whole packet and answers it, and
otherwise nobody does. `Instant` is such a bus, and `Instant.told` says outright what every command
tells, by what is plugged in at that moment, and `Instant.left` what is plugged in afterwards.
-/

namespace ConsoleBus

/-- The values that a function has for each port. -/
def PerPort.tabulate {α : Type} (f : Port → α) : PerPort α := ⟨f .one, f .two⟩

theorem PerPort.tabulate_get {α : Type} (values : PerPort α) : tabulate values.get = values := rfl

theorem PerPort.get_tabulate {α : Type} (f : Port → α) (port : Port) :
    (tabulate f).get port = f port := by
  cases port <;> rfl

namespace Device

/-- The reply of a device to the bytes of an exchange from `index` on, and the device after them.
The exchange goes on until a byte is not acknowledged or the buffer is full. -/
def converse (device : Device) (index : Nat) (request : List UInt8) : List UInt8 → Reply × Device
  | [] => (⟨0, []⟩, device)
  | _ :: rest =>
    let (answer, device) := device.exchange index (request.headD 0)
    if answer.acknowledged then
      let (reply, device) := device.converse (index + 1) request.tail rest
      (⟨reply.count + 1, answer.byte :: reply.buffer⟩, device)
    else
      (⟨1, answer.byte :: rest⟩, device)

variable {device : Device} {index : Nat} {request : List UInt8}

theorem converse_more (h : (device.exchange index (request.headD 0)).1.acknowledged = true)
    (old : UInt8) (rest : List UInt8) :
    device.converse index request (old :: rest) =
      let (answer, device) := device.exchange index (request.headD 0)
      let (reply, device) := device.converse (index + 1) request.tail rest
      (⟨reply.count + 1, answer.byte :: reply.buffer⟩, device) := by
  rw [converse]
  exact if_pos h

theorem converse_last (h : ¬ (device.exchange index (request.headD 0)).1.acknowledged = true)
    (old : UInt8) (rest : List UInt8) :
    device.converse index request (old :: rest) =
      let (answer, device) := device.exchange index (request.headD 0)
      (⟨1, answer.byte :: rest⟩, device) := by
  rw [converse]
  exact if_neg h

end Device

/-- The state of an instant bus. -/
structure Instant where
  /-- The port that attention is routed to. -/
  selected : Port
  /-- What is plugged in. -/
  devices : PerPort (Option Device)

namespace Instant

/-- The device on the selected port, if it listens for the address. -/
def listener (instant : Instant) (address : Address) : Option Device :=
  (instant.devices.get instant.selected).filter fun device => device.address = address

/-- The bus with another device on the selected port. -/
def replace (instant : Instant) (device : Device) : Instant :=
  { instant with devices := instant.devices.set instant.selected (some device) }

/-- A whole exchange. -/
def exchange (instant : Instant) (address : Address) (request buffer : List UInt8) :
    Reply × Instant :=
  match instant.listener address with
  | none => (⟨0, buffer⟩, instant)
  | some device =>
    let (reply, device) := device.start.converse 0 request buffer
    (reply, instant.replace device.finish)

/-- A whole packet that is sent blindly. -/
def send (instant : Instant) (address : Address) (request : List UInt8) : Instant :=
  match instant.listener address with
  | none => instant
  | some device => instant.replace (device.packet request).2

instance : Transport (StateM Instant) where
  selectPort port := modify fun instant => { instant with selected := port }
  exchange address request buffer := fun instant => instant.exchange address request buffer
  send address request := modify fun instant => instant.send address request

end Instant

/-! ## What is told about each kind of device -/

/-- The reply of a script, whatever it is asked: its bytes from `index` on, one more than it
acknowledges, as far as there is room for them. -/
def Device.Script.reply (script : Device.Script) (index : Nat) (buffer : List UInt8) : Reply :=
  let count := min buffer.length (script.acknowledgements - index + 1)
  ⟨count, (List.range' index count).map (fun i => script.replies.getD i 0) ++ buffer.drop count⟩

namespace Instant

/-- What a poll tells about what is plugged in. -/
def polled : Option Device → Except CommandError PadState
  | some (.gamepad pad) => .ok ⟨pad.kind, pad.buttons, pad.axes⟩
  | some (.script script) =>
    if script.address = .controller then
      Pad.stateOfReply (script.reply 0 (List.replicate Pad.replyCapacity 0))
    else
      .error .noDevice
  | some (.storageCard _) | none => .error .noDevice

/-- What a ping tells about what is plugged in. -/
def pinged : Option Device → Except CommandError Unit
  | some (.storageCard card) => if card.takesGameIds then .ok () else .error .malformedReply
  | some (.script script) =>
    if script.address = .memoryCard then
      Card.checkPing (script.reply 0 (List.replicate Card.ping.length 0))
    else
      .error .noDevice
  | some (.gamepad _) | none => .error .noDevice

/-- The ports where a ping is answered well. -/
def present (devices : PerPort (Option Device)) : PortMask :=
  (Port.all.filter fun port => (pinged (devices.get port)).isOk).foldl
    (fun found port => found.union port.mask) Flags.empty

/-- What a command tells. -/
def told (instant : Instant) : Command → Outcome
  | .selectPort _ | .send .. => .done
  | .exchange address request buffer =>
    .reply (match instant.listener address with
      | none => ⟨0, buffer⟩
      | some device => (device.start.converse 0 request buffer).1)
  | .readButtons port =>
    .buttons (match polled (instant.devices.get port) with
      | .ok state => state.buttons
      | .error _ => Flags.empty)
  | .readPad port => Outcome.ofExcept .pad (polled (instant.devices.get port))
  | .probe port => Outcome.ofExcept (fun _ => .done) (pinged (instant.devices.get port))
  | .presence => .ports (present instant.devices)
  | .broadcast gameId _ | .announce gameId =>
    if Card.GameId.Fits gameId then .done else .failed .requestTooLarge

/-! ## What is left of each packet -/

/-- The bus after a poll. -/
def afterPoll (instant : Instant) (port : Port) : Instant :=
  ({ instant with selected := port }.exchange .controller Pad.pollRequest
    (List.replicate Pad.replyCapacity 0)).2

/-- The bus after a ping. -/
def afterPing (instant : Instant) (port : Port) : Instant :=
  ({ instant with selected := port }.exchange .memoryCard Card.ping
    (List.replicate Card.ping.length 0)).2

/-- The bus after everybody on the given ports who listens for cards was told an identifier. -/
def notified (instant : Instant) (id : String) (ports : List Port) : Instant where
  selected := ports.getLast?.getD instant.selected
  devices := .tabulate fun port =>
    if port ∈ ports then (instant.devices.get port).map (Device.notified id)
    else instant.devices.get port

/-- The bus after a broadcast. -/
def afterBroadcast (instant : Instant) (gameId : String) (ports : PortMask) : Instant :=
  if Card.GameId.Fits gameId then instant.notified (Card.GameId.beforeNul gameId) ports.ports
  else instant

/-- What a command leaves. -/
def left (instant : Instant) : Command → Instant
  | .selectPort port => { instant with selected := port }
  | .exchange address request buffer => (instant.exchange address request buffer).2
  | .send address request => instant.send address request
  | .readButtons port | .readPad port => instant.afterPoll port
  | .probe port => instant.afterPing port
  | .presence => (instant.afterPing .one).afterPing .two
  | .broadcast gameId ports => instant.afterBroadcast gameId ports
  | .announce gameId =>
    ((instant.afterPing .one).afterPing .two).afterBroadcast gameId (present instant.devices)

/-! ## The commands tell just that -/

theorem converse_script (buffer : List UInt8) : ∀ (script : Device.Script) (index : Nat)
    (request : List UInt8),
      ((Device.script script).converse index request buffer).1 = script.reply index buffer := by
  induction buffer with
  | nil => exact fun script index request => rfl
  | cons old rest ih =>
    intro script index request
    by_cases hmore : index < script.acknowledgements
    · have hack : ((Device.script script).exchange index (request.headD 0)).1.acknowledged = true :=
        decide_eq_true hmore
      have hlater := ih (script.receive (request.headD 0)) (index + 1) request.tail
      have hone : script.acknowledgements - index + 1 =
          script.acknowledgements - (index + 1) + 1 + 1 := by omega
      rw [Device.converse_more hack]
      show Reply.mk (((Device.script _).converse (index + 1) request.tail rest).1.count + 1)
        (_ :: ((Device.script _).converse (index + 1) request.tail rest).1.buffer) = _
      rw [hlater]
      unfold Device.Script.reply
      rw [List.length_cons, hone, Nat.succ_min_succ]
      rfl
    · have hack : ¬ ((Device.script script).exchange index (request.headD 0)).1.acknowledged =
          true := by
        intro h
        exact hmore (of_decide_eq_true h)
      have hone : script.acknowledgements - index + 1 = 0 + 1 := by omega
      rw [Device.converse_last hack]
      unfold Device.Script.reply
      rw [List.length_cons, hone, Nat.succ_min_succ, Nat.min_zero]
      rfl

theorem listener_of_ne {instant : Instant} {address : Address}
    (h : ∀ device ∈ instant.devices.get instant.selected, device.address ≠ address) :
    instant.listener address = none := by
  unfold listener
  cases hdevice : instant.devices.get instant.selected with
  | none => rfl
  | some device =>
    rw [Option.filter_some, if_neg]
    rw [decide_eq_true_iff]
    exact h device hdevice

theorem listener_of_eq {instant : Instant} {address : Address} {device : Device}
    (hdevice : instant.devices.get instant.selected = some device)
    (h : device.address = address) : instant.listener address = some device := by
  unfold listener
  rw [hdevice, Option.filter_some, if_pos (decide_eq_true h)]

/-- A pad answers a poll with its kind, its marker, its buttons and its axes, if it has any. -/
theorem stateOfReply_gamepad (pad : Device.Gamepad) :
    Pad.stateOfReply ((Device.gamepad pad).converse 0 Pad.pollRequest
      (List.replicate Pad.replyCapacity 0)).1 = .ok ⟨pad.kind, pad.buttons, pad.axes⟩ := by
  obtain ⟨buttons, axes⟩ := pad
  cases axes with
  | none =>
    have hreply : ((Device.gamepad ⟨buttons, none⟩).converse 0 Pad.pollRequest
        (List.replicate Pad.replyCapacity 0)).1 =
          ⟨4, [0x41, Pad.marker, buttons.lowByte, buttons.highByte] ++ List.replicate 28 0⟩ := rfl
    rw [hreply]
    show Except.ok (PadState.mk 0x41 (Buttons.ofWire buttons.lowByte buttons.highByte) none) = _
    rw [Buttons.ofWire_bytes]
    rfl
  | some axes =>
    have hreply : ((Device.gamepad ⟨buttons, some axes⟩).converse 0 Pad.pollRequest
        (List.replicate Pad.replyCapacity 0)).1 =
          ⟨8, [0x73, Pad.marker, buttons.lowByte, buttons.highByte, axes.rightX, axes.rightY,
            axes.leftX, axes.leftY] ++ List.replicate 24 0⟩ := rfl
    rw [hreply]
    show Except.ok (PadState.mk 0x73 (Buttons.ofWire buttons.lowByte buttons.highByte)
      (some axes)) = _
    rw [Buttons.ofWire_bytes]
    rfl

/-- A card answers a ping in full or gives up after its first byte. -/
theorem checkPing_storageCard (card : Device.StorageCard) :
    Card.checkPing ((Device.storageCard card).start.converse 0 Card.ping
      (List.replicate Card.ping.length 0)).1 =
        if card.takesGameIds then .ok () else .error .malformedReply := by
  obtain ⟨takesGameIds, request, gameId⟩ := card
  cases takesGameIds <;> rfl

theorem exchange_of_listener {instant : Instant} {address : Address} {device : Device}
    (h : instant.listener address = some device) (request buffer : List UInt8) :
    instant.exchange address request buffer =
      ((device.start.converse 0 request buffer).1,
        instant.replace (device.start.converse 0 request buffer).2.finish) := by
  unfold exchange
  rw [h]

theorem exchange_of_none {instant : Instant} {address : Address}
    (h : instant.listener address = none) (request buffer : List UInt8) :
    instant.exchange address request buffer = (⟨0, buffer⟩, instant) := by
  unfold exchange
  rw [h]

/-- The reply of an exchange, by what is plugged in. -/
theorem exchange_fst (instant : Instant) (address : Address) (request buffer : List UInt8) :
    (instant.exchange address request buffer).1 =
      match instant.devices.get instant.selected with
      | some device =>
        if device.address = address then (device.start.converse 0 request buffer).1
        else ⟨0, buffer⟩
      | none => ⟨0, buffer⟩ := by
  cases hdevice : instant.devices.get instant.selected with
  | none =>
    rw [exchange_of_none (listener_of_ne fun device h => nomatch hdevice ▸ h)]
  | some device =>
    dsimp only
    split
    case isTrue haddress =>
      rw [exchange_of_listener (listener_of_eq hdevice haddress)]
    case isFalse haddress =>
      rw [exchange_of_none (listener_of_ne fun other h => ?_)]
      rw [hdevice] at h
      rw [← Option.some.inj h]
      exact haddress

theorem exchange_poll (instant : Instant) :
    Pad.stateOfReply (instant.exchange .controller Pad.pollRequest
      (List.replicate Pad.replyCapacity 0)).1 =
        polled (instant.devices.get instant.selected) := by
  rw [exchange_fst]
  match instant.devices.get instant.selected with
  | none => rfl
  | some (.gamepad pad) => exact stateOfReply_gamepad pad
  | some (.storageCard card) => rfl
  | some (.script script) =>
    show Pad.stateOfReply (if script.address = .controller then
      ((Device.script script.start).converse _ _ _).1 else _) = _
    rw [converse_script, apply_ite Pad.stateOfReply]
    rfl

theorem exchange_ping (instant : Instant) :
    Card.checkPing (instant.exchange .memoryCard Card.ping
      (List.replicate Card.ping.length 0)).1 =
        pinged (instant.devices.get instant.selected) := by
  rw [exchange_fst]
  match instant.devices.get instant.selected with
  | none => rfl
  | some (.gamepad pad) => rfl
  | some (.storageCard card) => exact checkPing_storageCard card
  | some (.script script) =>
    show Card.checkPing (if script.address = .memoryCard then
      ((Device.script script.start).converse _ _ _).1 else _) = _
    rw [converse_script, apply_ite Card.checkPing]
    rfl

theorem read_told (instant : Instant) (port : Port) :
    ((Pad.read port : StateM Instant _) instant).1 = polled (instant.devices.get port) :=
  exchange_poll { instant with selected := port }

theorem probe_told (instant : Instant) (port : Port) :
    ((Card.probe port : StateM Instant _) instant).1 = pinged (instant.devices.get port) :=
  exchange_ping { instant with selected := port }

/-- A device that is asked something is the only one that changes. -/
theorem exchange_get_of_ne (instant : Instant) (address : Address) (request buffer : List UInt8)
    {port : Port} (h : port ≠ instant.selected) :
    (instant.exchange address request buffer).2.devices.get port = instant.devices.get port := by
  cases hlistener : instant.listener address with
  | none => rw [exchange_of_none hlistener]
  | some device =>
    rw [exchange_of_listener hlistener]
    exact PerPort.get_set_of_ne _ _ h

theorem bind_apply {α β : Type} (first : StateM Instant α) (next : α → StateM Instant β)
    (instant : Instant) :
    (first >>= next) instant = next (first instant).1 (first instant).2 := rfl

theorem probeAll_cons (instant : Instant) (port : Port) (ports : List Port) (found : PortMask) :
    (Card.probeAll (port :: ports) found : StateM Instant PortMask) instant =
      (Card.probeAll ports (if (pinged (instant.devices.get port)).isOk then
          found.union port.mask
        else
          found) : StateM Instant PortMask)
        ((Card.probe port : StateM Instant _) instant).2 := by
  rw [← probe_told, Card.probeAll, bind_apply]
  cases ((Card.probe port : StateM Instant _) instant).1 <;> rfl

theorem presence_told (instant : Instant) :
    ((Card.presence : StateM Instant _) instant).1 = present instant.devices := by
  have hne : Port.two ≠ Port.one := by decide
  have hother : ((Card.probe .one : StateM Instant _) instant).2.devices.get .two =
      instant.devices.get .two :=
    exchange_get_of_ne { instant with selected := .one } .memoryCard Card.ping
      (List.replicate Card.ping.length 0) hne
  unfold Card.presence Port.all
  rw [probeAll_cons, probeAll_cons, hother]
  unfold present Port.all
  rw [List.filter_cons, List.filter_cons]
  cases pinged (instant.devices.get .one) <;> cases pinged (instant.devices.get .two) <;> rfl

theorem readButtons_told (instant : Instant) (port : Port) :
    ((Pad.readButtons port : StateM Instant Buttons) instant).1 =
      match polled (instant.devices.get port) with
      | .ok state => state.buttons
      | .error _ => Flags.empty := by
  rw [← read_told, Pad.readButtons, bind_apply]
  cases ((Pad.read port : StateM Instant _) instant).1 <;> rfl

/-- Whether an identifier is sent depends on its length alone. -/
theorem broadcast_told (instant : Instant) (gameId : String) (ports : PortMask) :
    Outcome.ofExcept (fun _ => .done)
      ((Card.GameId.broadcast gameId ports : StateM Instant _) instant).1 =
        if Card.GameId.Fits gameId then .done else .failed .requestTooLarge := by
  unfold Card.GameId.broadcast
  rw [Card.GameId.request_eq]
  by_cases h : Card.GameId.Fits gameId
  · rw [if_pos h, if_pos h]
    rfl
  · rw [if_neg h, if_neg h]
    rfl

/-- On an instant bus every command tells what it should. -/
theorem run_told (instant : Instant) (command : Command) :
    ((command.run : StateM Instant Outcome) instant).1 = instant.told command := by
  cases command with
  | selectPort port => rfl
  | exchange address request buffer =>
    show Outcome.reply (instant.exchange address request buffer).1 = Outcome.reply _
    cases hlistener : instant.listener address with
    | none => rw [exchange_of_none hlistener]
    | some device => rw [exchange_of_listener hlistener]
  | send address request => rfl
  | readButtons port =>
    show Outcome.buttons ((Pad.readButtons port : StateM Instant _) instant).1 = _
    rw [readButtons_told]
    rfl
  | readPad port =>
    show Outcome.ofExcept .pad ((Pad.read port : StateM Instant _) instant).1 = _
    rw [read_told]
    rfl
  | probe port =>
    show Outcome.ofExcept (fun _ => .done) ((Card.probe port : StateM Instant _) instant).1 = _
    rw [probe_told]
    rfl
  | presence =>
    show Outcome.ports ((Card.presence : StateM Instant _) instant).1 = _
    rw [presence_told]
    rfl
  | broadcast gameId ports => exact broadcast_told instant gameId ports
  | announce gameId =>
    exact broadcast_told ((Card.presence : StateM Instant _) instant).2 gameId
      ((Card.presence : StateM Instant _) instant).1

/-! ## The commands leave just that -/

theorem eq_notified {instant after : Instant} {id : String} {ports : List Port}
    (hselected : after.selected = ports.getLast?.getD instant.selected)
    (hdevices : ∀ port, after.devices.get port =
      if port ∈ ports then (instant.devices.get port).map (Device.notified id)
      else instant.devices.get port) : after = instant.notified id ports := by
  obtain ⟨selected, devices⟩ := after
  unfold notified
  rw [← funext hdevices, PerPort.tabulate_get, ← hselected]

theorem send_of_listener {instant : Instant} {address : Address} {device : Device}
    (h : instant.listener address = some device) (request : List UInt8) :
    instant.send address request = instant.replace (device.packet request).2 := by
  unfold send
  rw [h]

theorem send_of_none {instant : Instant} {address : Address}
    (h : instant.listener address = none) (request : List UInt8) :
    instant.send address request = instant := by
  unfold send
  rw [h]

/-- Whoever does not listen for cards would not be changed by the packet either. -/
theorem send_requestFor {id : String} (h : (Text.bytes id).length ≤ Card.GameId.maxLength)
    (instant : Instant) :
    instant.send .memoryCard (Card.GameId.requestFor id) =
      instant.notified id [instant.selected] := by
  cases hlistener : instant.listener .memoryCard with
  | none =>
    rw [send_of_none hlistener]
    refine eq_notified rfl fun port => ?_
    split
    case isTrue hport =>
      rw [List.mem_singleton.mp hport]
      cases hdevice : instant.devices.get instant.selected with
      | none => rfl
      | some device =>
        refine congrArg some (Device.notified_of_ne fun haddress => ?_).symm
        rw [listener_of_eq hdevice haddress] at hlistener
        cases hlistener
    case isFalse => rfl
  | some device =>
    obtain ⟨hdevice, haddress⟩ := Option.filter_eq_some_iff.mp hlistener
    have hnotified := Device.packet_requestFor h (of_decide_eq_true haddress)
    rw [send_of_listener hlistener]
    refine eq_notified rfl fun port => ?_
    split
    case isTrue hport =>
      rw [List.mem_singleton.mp hport, hdevice]
      exact (PerPort.get_set _ _ _).trans (congrArg some hnotified)
    case isFalse hport =>
      exact PerPort.get_set_of_ne _ _ fun heq => hport (List.mem_singleton.mpr heq)

theorem sendTo_left {id : String} (h : (Text.bytes id).length ≤ Card.GameId.maxLength)
    (ports : List Port) : ∀ instant : Instant, ports.Nodup →
      ((Card.GameId.sendTo (Card.GameId.requestFor id) ports : StateM Instant Unit) instant).2 =
        instant.notified id ports := by
  induction ports with
  | nil => exact fun instant _ => rfl
  | cons port ports ih =>
    intro instant hnodup
    obtain ⟨hport, hrest⟩ := List.nodup_cons.mp hnodup
    have hfirst := send_requestFor h { instant with selected := port }
    show ((Card.GameId.sendTo (Card.GameId.requestFor id) ports : StateM Instant Unit)
      ({ instant with selected := port }.send .memoryCard (Card.GameId.requestFor id))).2 = _
    rw [hfirst, ih _ hrest]
    refine eq_notified ?_ fun other => ?_
    · rw [List.getLast?_cons]
      rfl
    · unfold notified
      rw [PerPort.get_tabulate, PerPort.get_tabulate]
      by_cases hother : other ∈ ports
      · have hne : other ∉ [port] := by
          rintro hmem
          exact hport (List.mem_singleton.mp hmem ▸ hother)
        rw [if_pos hother, if_neg hne, if_pos (List.mem_cons_of_mem port hother)]
      · rw [if_neg hother]
        simp only [List.mem_cons, List.not_mem_nil, or_false, hother]

theorem broadcast_left (instant : Instant) (gameId : String) (ports : PortMask) :
    ((Card.GameId.broadcast gameId ports : StateM Instant _) instant).2 =
      instant.afterBroadcast gameId ports := by
  have hnodup : ports.ports.Nodup := List.filter_sublist.nodup (by decide)
  unfold Card.GameId.broadcast afterBroadcast
  rw [Card.GameId.request_eq]
  by_cases h : Card.GameId.Fits gameId
  · rw [if_pos h, if_pos h]
    exact sendTo_left (Card.GameId.fits_iff.mp h) ports.ports instant hnodup
  · rw [if_neg h, if_neg h]
    rfl

theorem read_left (instant : Instant) (port : Port) :
    ((Pad.read port : StateM Instant _) instant).2 = instant.afterPoll port := rfl

theorem probe_left (instant : Instant) (port : Port) :
    ((Card.probe port : StateM Instant _) instant).2 = instant.afterPing port := rfl

theorem presence_left (instant : Instant) :
    ((Card.presence : StateM Instant _) instant).2 =
      (instant.afterPing .one).afterPing .two := by
  unfold Card.presence Port.all
  rw [probeAll_cons, probeAll_cons, probe_left, probe_left]
  rfl

/-- On an instant bus every command leaves what it should. -/
theorem run_left (instant : Instant) (command : Command) :
    ((command.run : StateM Instant Outcome) instant).2 = instant.left command := by
  cases command with
  | selectPort port => rfl
  | exchange address request buffer => rfl
  | send address request => rfl
  | readButtons port =>
    show ((Pad.readButtons port : StateM Instant _) instant).2 = _
    rw [Pad.readButtons, bind_apply]
    cases ((Pad.read port : StateM Instant _) instant).1 <;> exact read_left instant port
  | readPad port => exact read_left instant port
  | probe port => exact probe_left instant port
  | presence => exact presence_left instant
  | broadcast gameId ports => exact broadcast_left instant gameId ports
  | announce gameId =>
    show ((Card.GameId.broadcast gameId ((Card.presence : StateM Instant _) instant).1 :
      StateM Instant _) ((Card.presence : StateM Instant _) instant).2).2 = _
    rw [presence_told, presence_left, broadcast_left]
    rfl

end Instant

end ConsoleBus
