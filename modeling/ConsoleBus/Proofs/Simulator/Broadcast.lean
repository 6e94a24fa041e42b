import ConsoleBus.Proofs.GameIds
import ConsoleBus.Proofs.Simulator.Listening
import Mathlib.Data.List.Basic

/-!
# Telling cards which game is running

A broadcast either refuses an identifier that is too long, before anything is done, or sends one
packet to each port of a set. A card that understands game identifiers reads its own back from the
bytes it was sent, up to the longest that fits.
-/

namespace ConsoleBus

/-! ## What a broadcast does -/

namespace Simulator

open Card.GameId

variable {s : Simulator} {port : Port} {id : String}

/-- What one packet of a broadcast leaves in the history. -/
def announcement (s : Simulator) (id : String) (port : Port) : List Event :=
  frame port (Address.memoryCard.byte :: requestFor id)
    (0xFF :: incomingPacket ((s.selected port).listener .memoryCard) (requestFor id))

/-- Who listens on a port depends on nothing but what is plugged in there. -/
theorem listener_selected {t : Simulator} (hdevice : t.devices.get port = s.devices.get port)
    (address : Address) :
    (t.selected port).listener address = (s.selected port).listener address := by
  unfold Simulator.listener
  rw [port_selected, port_selected, devices_selected, devices_selected, hdevice]

/-- One packet of a broadcast. -/
theorem send_notifies (config : Config) (h : s.Steady false)
    (hfits : (Text.bytes id).length ≤ maxLength) (port : Port) :
    ∃ t, (do Bus.selectPort port; Bus.send .memoryCard (requestFor id) : Bus Simulator Unit)
        config s = some ((), t) ∧
      t.Steady false ∧ t.interruptReads = s.interruptReads ∧
      t.log.history = s.log.history ++ s.announcement id port ∧
      t.devices.get port = (s.devices.get port).map (Device.notified id) ∧
      ∀ other ≠ port, t.devices.get other = s.devices.get other := by
  have hselected := steady_selected port h
  obtain ⟨t, hsend, ht, -, hreads, hhistory, hdevices⟩ :=
    send_follows config hselected .memoryCard (requestFor id)
  rw [port_selected, devices_selected] at hdevices
  refine ⟨t, (Bus.bind_of_eq_some (selectPort_steady h port) _).trans hsend, ht, ?_, ?_, ?_, ?_⟩
  · exact hreads.trans (deliverPulse_interruptReads s)
  · rw [hhistory, log_selected, port_selected]
    rfl
  · rw [hdevices]
    cases hlistener : (s.selected port).listener .memoryCard with
    | none =>
      have hnobody := listener_selected_eq_none_iff.mp hlistener
      show s.devices.get port = _
      cases hplugged : s.devices.get port with
      | none => rfl
      | some device => exact congrArg some (Device.notified_of_ne (hnobody device hplugged)).symm
    | some device =>
      obtain ⟨hdevice, haddress⟩ := listener_selected_eq_some_iff.mp hlistener
      show (s.devices.set port (some (device.packet (requestFor id)).2)).get port = _
      rw [PerPort.get_set, Device.packet_requestFor hfits haddress, Option.mem_def.mp hdevice]
      rfl
  · intro other hother
    rw [hdevices, get_devicesWith_of_ne hother]

theorem sendTo_notifies (config : Config) (hfits : (Text.bytes id).length ≤ maxLength)
    (ports : List Port) : ∀ s : Simulator, ports.Nodup → s.Steady false →
      ∃ t, (sendTo (requestFor id) ports : Bus Simulator Unit) config s = some ((), t) ∧
        t.interruptReads = s.interruptReads ∧
        t.log.history = s.log.history ++ ports.flatMap (s.announcement id) ∧
        (∀ port ∈ ports, t.devices.get port = (s.devices.get port).map (Device.notified id)) ∧
        ∀ port ∉ ports, t.devices.get port = s.devices.get port := by
  -- Ports that come later in the list are not touched by the packets before.
  induction ports with
  | nil =>
    intro s _ _
    exact ⟨s, rfl, rfl, (List.append_nil _).symm, fun port hport => absurd hport (List.not_mem_nil),
      fun port _ => rfl⟩
  | cons port ports ih =>
    intro s hnodup h
    obtain ⟨hport, hrest⟩ := List.nodup_cons.mp hnodup
    obtain ⟨t, hsend, ht, hreads, hhistory, hdevice, hothers⟩ := send_notifies config h hfits port
    obtain ⟨u, hrun, hureads, huhistory, hudevices, huothers⟩ := ih t hrest ht
    have hlater : ∀ other ∈ ports, t.devices.get other = s.devices.get other := by
      intro other hother
      refine hothers other fun heq => hport ?_
      rw [← heq]
      exact hother
    have hannounced : ports.flatMap (t.announcement id) = ports.flatMap (s.announcement id) := by
      refine List.flatMap_congr fun other hother => ?_
      unfold announcement
      rw [listener_selected (hlater other hother)]
    refine ⟨u, (Bus.bind_of_eq_some hsend _).trans hrun, hureads.trans hreads, ?_, ?_, ?_⟩
    · rw [huhistory, hhistory, hannounced, List.flatMap_cons, List.append_assoc]
    · intro other hother
      rcases List.mem_cons.mp hother with rfl | hother
      · rw [huothers _ hport, hdevice]
      · rw [hudevices other hother, hlater other hother]
    · intro other hother
      obtain ⟨hne, hnot⟩ := not_or.mp (fun h => hother (List.mem_cons.mpr h))
      rw [huothers other hnot, hothers other hne]

/-- A broadcast of an identifier that is too long changes nothing at all. Any other is heard by
every card on the given ports: one packet goes to each of them in bus order, nobody waits for an
answer, and a card that understands the packet reads back the identifier up to its first NUL, where
`beforeNul_eq_iff` tells where that is. -/
theorem broadcast_round_trip (config : Config) (h : s.Steady false) (gameId : String)
    (ports : PortMask) :
    (maxLength < (Text.bytes (beforeNul gameId)).length →
      (broadcast gameId ports : Bus Simulator _) config s =
        some (.error .requestTooLarge, s)) ∧
    ((Text.bytes (beforeNul gameId)).length ≤ maxLength →
      ∃ t, (broadcast gameId ports : Bus Simulator _) config s = some (.ok (), t) ∧
        t.interruptReads = s.interruptReads ∧
        t.log.history =
          s.log.history ++ ports.ports.flatMap (s.announcement (beforeNul gameId)) ∧
        ∀ port, t.devices.get port =
          if ports.has port then (s.devices.get port).map (Device.notified (beforeNul gameId))
          else s.devices.get port) := by
  constructor
  · intro hlong
    unfold broadcast
    rw [request_eq, if_neg (mt fits_iff.mp (Nat.not_le.mpr hlong))]
    rfl
  · intro hfits
    have hnodup : ports.ports.Nodup := List.filter_sublist.nodup (by decide)
    obtain ⟨t, hrun, hreads, hhistory, hdevices, hothers⟩ :=
      sendTo_notifies config hfits ports.ports s hnodup h
    have hmem : ∀ port, port ∈ ports.ports ↔ ports.has port = true := by
      intro port
      unfold PortMask.ports
      rw [List.mem_filter]
      exact and_iff_right (by cases port <;> decide)
    refine ⟨t, ?_, hreads, hhistory, fun port => ?_⟩
    · unfold broadcast
      rw [request_eq, if_pos (fits_iff.mpr hfits)]
      exact Bus.bind_of_eq_some hrun _
    · by_cases hport : ports.has port = true
      · rw [if_pos hport, hdevices port ((hmem port).mpr hport)]
      · rw [if_neg hport, hothers port (fun hlisted => hport ((hmem port).mp hlisted))]

/-- Two cards, of which the second does not understand game identifiers, behind a transceiver with
an unread byte and with a pulse on its way. -/
def twoCards : Simulator :=
  { switchedOn 0 ⟨some (.storageCard (.blank true)), some (.storageCard (.blank false))⟩ 500000 with
    received := [0x5A]
    interrupt := true
    pulse := some 400000
    control := Control.enabled }

/-- The set may hold ports that are not there, and the identifier ends at its first NUL. -/
theorem broadcast_round_trip_twoCards :
    ∃ t, (broadcast "SLUS\x00-00594" ⟨0xFF⟩ : Bus Simulator _) .standard twoCards =
        some (.ok (), t) ∧
      t.devices.get .one = some (.storageCard ⟨true, requestFor "SLUS", some "SLUS"⟩) ∧
      t.devices.get .two = some (.storageCard ⟨false, requestFor "SLUS", none⟩) := by
  have hsteady : twoCards.Steady false := ⟨by decide, ⟨by decide, by decide⟩⟩
  have hid : beforeNul "SLUS\x00-00594" = "SLUS" := by decide
  obtain ⟨-, hsent⟩ := broadcast_round_trip .standard hsteady "SLUS\x00-00594" ⟨0xFF⟩
  rw [hid] at hsent
  obtain ⟨t, hrun, -, -, hdevices⟩ := hsent (by decide)
  exact ⟨t, hrun, hdevices .one, hdevices .two⟩

end Simulator

end ConsoleBus
