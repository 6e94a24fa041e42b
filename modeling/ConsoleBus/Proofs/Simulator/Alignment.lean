import ConsoleBus.Proofs.Simulator.Listening

/-!
# Replies are never out of place

An acknowledge may be missed, and an old pulse may be taken for one, so a reply can be cut short or
go on for longer than the device meant it to. What is in the reply is nevertheless what the device
gave at that place, for unread bytes are dropped once the address is acknowledged, and each byte of
the reply is read before the next one goes out.
-/

namespace ConsoleBus

/-! ## What can be read out of a reply -/

/-- The buttons that a poll of the device can tell. -/
def Device.buttons? : Device → Option Buttons
  | .gamepad pad => some pad.buttons
  | .storageCard _ => none
  | .script s =>
    if s.address = .controller then
      some (Buttons.ofWire (s.replies.getD 2 0) (s.replies.getD 3 0))
    else
      none

/-- The device can pass for a memory card that understands game identifiers. -/
def Device.AnswersPing : Device → Prop
  | .gamepad _ => False
  | .storageCard card => card.takesGameIds = true
  | .script s =>
    s.address = .memoryCard ∧ [s.replies.getD 2 0, s.replies.getD 3 0] = Card.pingMarkers

theorem Device.StorageCard.answer_stock {card : Device.StorageCard}
    (h : card.takesGameIds = false) (index : Nat) (first : UInt8) :
    card.answer index first = .last refusal := by
  unfold answer
  rw [h]
  rfl

theorem Pad.stateOfReply_eq_ok {reply : Reply} {state : PadState}
    (h : Pad.stateOfReply reply = .ok state) :
    ∃ kind low high rest, reply.received = kind :: Pad.marker :: low :: high :: rest ∧
      state.buttons = Buttons.ofWire low high := by
  unfold Pad.stateOfReply at h
  split at h
  · cases h
  · rename_i kind mark low high rest hreceived
    split at h
    · rename_i hmark
      cases h
      rw [hmark] at hreceived
      exact ⟨kind, low, high, rest, hreceived, rfl⟩
    · cases h
  · cases h

theorem Card.checkPing_eq_ok {reply : Reply} (h : Card.checkPing reply = .ok ()) :
    ∃ head next first second rest, reply.received = head :: next :: first :: second :: rest ∧
      [first, second] = Card.pingMarkers := by
  unfold Card.checkPing at h
  split at h
  · cases h
  · rename_i head next first second last hreceived
    split at h
    · rename_i hmarkers
      exact ⟨head, next, first, second, [last], hreceived, hmarkers⟩
    · cases h
  · cases h

theorem PortMask.has_union_mask {mask : PortMask} {port other : Port}
    (h : PortMask.has (mask.union port.mask) other = true) :
    mask.has other = true ∨ other = port := by
  by_cases hport : other = port
  · exact .inr hport
  · have hdisjoint : other.mask.inter port.mask = Flags.empty := by
      cases other <;> cases port
      · exact absurd rfl hport
      · decide
      · decide
      · exact absurd rfl hport
    have hkept : PortMask.has (mask.union port.mask) other = mask.has other :=
      Flags.contains_union_of_inter hdisjoint
    exact .inl (hkept ▸ h)

namespace Simulator

variable {s : Simulator} {port : Port} {index count : Nat} {listener : Option Device}
  {devices : PerPort (Option Device)} {config : Config} {address : Address}
  {request buffer : List UInt8} {reply : Reply} {a b c d : UInt8} {rest : List UInt8}

/-- The third and the fourth byte of the answer to a poll tell the buttons. -/
theorem buttons_of_poll {device : Device} (haddress : device.address = .controller)
    (h : incomingPacket (some device) (Pad.pollRequest.takeD (count + 4) 0) =
      a :: b :: c :: d :: rest) : device.buttons? = some (Buttons.ofWire c d) := by
  have hthird := congrArg (fun bytes => bytes[2]?) h
  have hfourth := congrArg (fun bytes => bytes[3]?) h
  cases device with
  | storageCard card => cases haddress
  | gamepad pad =>
    have hlow : pad.buttons.lowByte = c := Option.some.inj hthird
    have hhigh : pad.buttons.highByte = d := Option.some.inj hfourth
    rw [← hlow, ← hhigh, Buttons.ofWire_bytes]
    rfl
  | script script =>
    have hlow : script.replies.getD 2 0 = c := Option.some.inj hthird
    have hhigh : script.replies.getD 3 0 = d := Option.some.inj hfourth
    rw [← hlow, ← hhigh]
    exact if_pos haddress

theorem answersPing_of_ping {device : Device} (haddress : device.address = .memoryCard)
    (h : incomingPacket (some device) (Card.ping.takeD (count + 4) 0) = a :: b :: c :: d :: rest)
    (hmarkers : [c, d] = Card.pingMarkers) : device.AnswersPing := by
  have hthird := congrArg (fun bytes => bytes[2]?) h
  have hfourth := congrArg (fun bytes => bytes[3]?) h
  cases device with
  | gamepad pad => cases haddress
  | script script =>
    have hfirst : script.replies.getD 2 0 = c := Option.some.inj hthird
    have hsecond : script.replies.getD 3 0 = d := Option.some.inj hfourth
    refine ⟨haddress, ?_⟩
    rw [hfirst, hsecond]
    exact hmarkers
  | storageCard card =>
    cases hstock : card.takesGameIds with
    | true => exact hstock
    | false =>
      -- A stock card that is made to go on refuses every byte alike.
      have hrefused : Device.StorageCard.refusal = c := by
        rw [← Option.some.inj hthird]
        exact congrArg Device.Answer.byte (Device.StorageCard.answer_stock hstock _ _).symm
      rw [← hrefused] at hmarkers
      injection hmarkers with hfirst _
      exact absurd hfirst (by decide)

theorem not_incomingPacket_none {bytes : List UInt8}
    (h : incomingPacket none bytes = a :: b :: c :: d :: rest) : b = 0xFF ∧ c = 0xFF := by
  have hall : ∀ byte ∈ a :: b :: c :: d :: rest, byte = 0xFF := by
    intro byte hbyte
    rw [← h] at hbyte
    exact List.eq_of_mem_replicate hbyte
  exact ⟨hall b (by simp), hall c (by simp)⟩

/-- As many bytes of a request went out as came in. -/
theorem Faithful.received_eq (h : Faithful (listener.map Device.start) 0 request buffer reply)
    (hreceived : reply.received = a :: b :: c :: d :: rest) :
    ∃ count, incomingPacket listener (request.takeD (count + 4) 0) = a :: b :: c :: d :: rest := by
  have hbytes := h.received
  rw [incomingFrom_start, hreceived] at hbytes
  have hlength : reply.count = rest.length + 4 := by
    have hcount := congrArg List.length hbytes
    rw [length_incomingPacket, List.takeD_length] at hcount
    exact hcount.symm
  rw [hlength] at hbytes
  exact ⟨rest.length, hbytes.symm⟩

/-- A poll shows the buttons of the pad on the port, or nothing. -/
theorem readButtons_aligned (config : Config) (h : s.Steady false) (port : Port) :
    ∃ buttons t, (Pad.readButtons port : Bus Simulator Buttons) config s = some (buttons, t) ∧
      (buttons = Flags.empty ∨ ∃ device ∈ s.devices.get port, device.address = .controller ∧
        device.buttons? = some buttons) := by
  obtain ⟨reply, t, hexchange, hreply, -⟩ := exchange_follows config (steady_selected port h)
    .controller Pad.pollRequest (List.replicate Pad.replyCapacity 0)
  have hread : (Pad.read port : Bus Simulator _) config s =
      some (Pad.stateOfReply reply, t) :=
    (Bus.bind_of_eq_some (selectPort_steady h port) _).trans (Bus.bind_of_eq_some hexchange _)
  unfold Pad.readButtons
  rw [Bus.bind_of_eq_some hread]
  cases hstate : Pad.stateOfReply reply with
  | error => exact ⟨_, t, rfl, .inl rfl⟩
  | ok state =>
    obtain ⟨kind, low, high, rest, hreceived, hbuttons⟩ := Pad.stateOfReply_eq_ok hstate
    obtain ⟨count, hbytes⟩ := hreply.received_eq hreceived
    refine ⟨state.buttons, t, rfl, .inr ?_⟩
    cases hlistener : (s.selected port).listener .controller with
    | none =>
      rw [hlistener] at hbytes
      exact absurd (not_incomingPacket_none hbytes).1 (by decide)
    | some device =>
      rw [hlistener] at hbytes
      obtain ⟨hdevice, haddress⟩ := listener_selected_eq_some_iff.mp hlistener
      exact ⟨device, hdevice, haddress, hbuttons ▸ buttons_of_poll haddress hbytes⟩

theorem probe_aligned (config : Config) (h : s.Steady false) (port : Port) :
    ∃ result t, (Card.probe port : Bus Simulator _) config s = some (result, t) ∧
      (result = .ok () → ∃ device ∈ s.devices.get port, device.AnswersPing) ∧
      t.Steady false ∧ ∀ other ≠ port, t.devices.get other = s.devices.get other := by
  obtain ⟨reply, t, hexchange, hreply, ht, -, hdevices⟩ := exchange_follows config
    (steady_selected port h) .memoryCard Card.ping (List.replicate Card.ping.length 0)
  refine ⟨Card.checkPing reply, t, (Bus.bind_of_eq_some (selectPort_steady h port) _).trans
    (Bus.bind_of_eq_some hexchange _), ?_, ht, ?_⟩
  · intro hgood
    obtain ⟨head, next, first, second, rest, hreceived, hmarkers⟩ := Card.checkPing_eq_ok hgood
    obtain ⟨count, hbytes⟩ := hreply.received_eq hreceived
    cases hlistener : (s.selected port).listener .memoryCard with
    | none =>
      rw [hlistener] at hbytes
      rw [(not_incomingPacket_none hbytes).2] at hmarkers
      injection hmarkers with hfirst _
      exact absurd hfirst (by decide)
    | some device =>
      rw [hlistener] at hbytes
      obtain ⟨hdevice, haddress⟩ := listener_selected_eq_some_iff.mp hlistener
      exact ⟨device, hdevice, answersPing_of_ping haddress hbytes hmarkers⟩
  · intro other hother
    rw [hdevices, port_selected, get_devicesWith_of_ne hother, devices_selected]

theorem probeAll_aligned (config : Config) (ports : List Port) :
    ∀ (found : PortMask) (s : Simulator), ports.Nodup → s.Steady false →
      ∃ mask t, (Card.probeAll ports found : Bus Simulator PortMask) config s = some (mask, t) ∧
        ∀ port, mask.has port = true → found.has port = true ∨
          port ∈ ports ∧ ∃ device ∈ s.devices.get port, device.AnswersPing := by
  -- A probe leaves the ports that are yet to be probed as they were.
  induction ports with
  | nil => exact fun found s _ _ => ⟨found, s, rfl, fun port hport => .inl hport⟩
  | cons port ports ih =>
    intro found s hnodup h
    obtain ⟨hport, hrest⟩ := List.nodup_cons.mp hnodup
    obtain ⟨result, t, hprobe, hgood, ht, hothers⟩ := probe_aligned config h port
    have hlater : ∀ other, (other ∈ ports ∧ ∃ device ∈ t.devices.get other, device.AnswersPing) →
        other ∈ port :: ports ∧ ∃ device ∈ s.devices.get other, device.AnswersPing := by
      rintro other ⟨hlisted, hanswers⟩
      rw [hothers other (fun heq => hport (heq ▸ hlisted))] at hanswers
      exact ⟨List.mem_cons_of_mem _ hlisted, hanswers⟩
    unfold Card.probeAll
    rw [Bus.bind_of_eq_some hprobe]
    cases result with
    | error =>
      obtain ⟨mask, u, hrun, hmask⟩ := ih found t hrest ht
      exact ⟨mask, u, hrun, fun other hother => (hmask other hother).imp_right (hlater other)⟩
    | ok =>
      obtain ⟨mask, u, hrun, hmask⟩ := ih (found.union port.mask) t hrest ht
      refine ⟨mask, u, hrun, fun other hother => ?_⟩
      rcases hmask other hother with hfound | hanswers
      · rcases PortMask.has_union_mask hfound with hfound | rfl
        · exact .inl hfound
        · exact .inr ⟨List.mem_cons_self, hgood rfl⟩
      · exact .inr (hlater other hanswers)

/-- Timing can shorten a reply, but never put a byte in it that is not the one of that place. So a
poll tells the buttons of what is plugged in or none at all, and only what answers the ping like a
card with game identifiers is taken for one. Nothing is asked of the state but that attention is
released and the control register holds no strobe, which it never does. -/
theorem replies_in_place (config : Config) (h : s.Steady false) :
    (∀ address request buffer, ∃ reply t,
      (Bus.exchange address request buffer : Bus Simulator Reply) config s = some (reply, t) ∧
      reply.count ≤ buffer.length ∧
      reply.received = incomingPacket (s.listener address) (request.takeD reply.count 0)) ∧
    (∀ port, ∃ buttons t,
      (Pad.readButtons port : Bus Simulator Buttons) config s = some (buttons, t) ∧
      (buttons = Flags.empty ∨ ∃ device ∈ s.devices.get port, device.buttons? = some buttons) ∧
      ((∀ device ∈ s.devices.get port, device.address ≠ .controller) → buttons = Flags.empty)) ∧
    (∃ mask t, (Card.presence : Bus Simulator PortMask) config s = some (mask, t) ∧
      ∀ port, mask.has port = true → ∃ device ∈ s.devices.get port, device.AnswersPing) := by
  refine ⟨fun address request buffer => ?_, fun port => ?_, ?_⟩
  · obtain ⟨reply, t, hrun, hreply, -⟩ := exchange_follows config h address request buffer
    have hreceived := hreply.received
    rw [incomingFrom_start] at hreceived
    exact ⟨reply, t, hrun, hreply.count_le, hreceived⟩
  · obtain ⟨buttons, t, hrun, hbuttons⟩ := readButtons_aligned config h port
    refine ⟨buttons, t, hrun, ?_, fun hnobody => ?_⟩
    · rcases hbuttons with hempty | ⟨device, hdevice, -, hshown⟩
      · exact .inl hempty
      · exact .inr ⟨device, hdevice, hshown⟩
    · rcases hbuttons with hempty | ⟨device, hdevice, haddress, -⟩
      · exact hempty
      · exact absurd haddress (hnobody device hdevice)
  · obtain ⟨mask, t, hrun, hmask⟩ := probeAll_aligned config Port.all Flags.empty s (by decide) h
    refine ⟨mask, t, hrun, fun port hport => ?_⟩
    rcases hmask port hport with hempty | ⟨-, hanswers⟩
    · cases port <;> exact absurd hempty (by decide)
    · exact hanswers

/-- A transceiver that was left alone in a hurry: bytes are unread, an old interrupt is raised, and
a late pulse will be taken for an acknowledge of whatever comes next. On the pad one button is
pressed. -/
def leftBehind : Simulator :=
  { switchedOn 0 ⟨some (.gamepad ⟨⟨0x4000⟩, none⟩), none⟩ 1000000 with
    received := [0x41, 0x5A, 0x00]
    interrupt := true
    latched := true
    pulse := some 400000
    control := Control.enabled }

theorem replies_in_place_leftBehind :
    ∃ buttons t, (Pad.readButtons .one : Bus Simulator Buttons) .standard leftBehind =
      some (buttons, t) ∧ (buttons = Flags.empty ∨ buttons = ⟨0x4000⟩) := by
  have hsteady : leftBehind.Steady false := ⟨by decide, ⟨by decide, by decide⟩⟩
  obtain ⟨buttons, t, hrun, hbuttons, -⟩ := (replies_in_place .standard hsteady).2.1 .one
  refine ⟨buttons, t, hrun, hbuttons.imp_right ?_⟩
  rintro ⟨device, hdevice, hshown⟩
  cases hdevice
  exact (Option.some.inj hshown).symm

end Simulator

end ConsoleBus
