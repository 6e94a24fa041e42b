import ConsoleBus.Proofs.Replies
import ConsoleBus.Stub

/-!
# Commands over any transport

A transport may have any state and may answer with whatever it likes, as long as it counts no more
bytes than its buffer holds. Over each such transport the commands for pads and memory cards make
the same calls, and their answers are what the replies say. Two transports that receive the same
get the same answers, since no command looks at what is left in the rest of the buffer.
-/

namespace ConsoleBus

/-! ## Transports with a state -/

namespace Transport

variable {σ τ : Type}

/-- The transport counts no more bytes than its buffer holds, and the buffer keeps its length. -/
structure Fits (σ : Type) [Transport (StateM σ)] : Prop where
  count : ∀ (address : Address) (request buffer : List UInt8) (s : σ),
    ((Transport.exchange address request buffer : StateM σ Reply) s).1.count ≤ buffer.length
  buffer : ∀ (address : Address) (request buffer : List UInt8) (s : σ),
    ((Transport.exchange address request buffer : StateM σ Reply) s).1.buffer.length =
      buffer.length

/-- What comes of a request on a port: the reply, and the state it leaves. -/
def ask [Transport (StateM σ)] (port : Port) (address : Address) (request : List UInt8)
    (capacity : Nat) (s : σ) : Reply × σ :=
  (Transport.exchange address request (List.replicate capacity 0) : StateM σ Reply)
    ((Transport.selectPort port : StateM σ Unit) s).2

/-- From two states that are related, both transports receive the same, whatever they leave in the
rest of the buffer, and go on from states that are related. -/
structure Agree [Transport (StateM σ)] [Transport (StateM τ)] (R : σ → τ → Prop) : Prop where
  selectPort : ∀ (port : Port) (s : σ) (t : τ), R s t →
    R ((Transport.selectPort port : StateM σ Unit) s).2
      ((Transport.selectPort port : StateM τ Unit) t).2
  exchange : ∀ (address : Address) (request buffer : List UInt8) (s : σ) (t : τ), R s t →
    ∃ first second s' t',
      (Transport.exchange address request buffer : StateM σ Reply) s = (first, s') ∧
      (Transport.exchange address request buffer : StateM τ Reply) t = (second, t') ∧
      first.count = second.count ∧ first.received = second.received ∧ R s' t'

end Transport

namespace Recorded

/-- From related states two actions give the same result by the same calls, and leave related
states. -/
def Alike {σ τ α : Type} (R : σ → τ → Prop) (first : Recorded (StateM σ) α)
    (second : Recorded (StateM τ) α) : Prop :=
  ∀ calls s t, R s t →
    (first calls s).1 = (second calls t).1 ∧ R (first calls s).2 (second calls t).2

variable {σ τ α β : Type} {R : σ → τ → Prop}

theorem bind_apply (action : Recorded (StateM σ) α) (next : α → Recorded (StateM σ) β)
    (calls : Array Call) (s : σ) :
    (action >>= next) calls s =
      next (action calls s).1.1 (action calls s).1.2 (action calls s).2 := rfl

theorem alike_pure (a : α) : Alike R (pure a) (pure a) := fun _ _ _ h => ⟨rfl, h⟩

theorem Alike.bind {first : Recorded (StateM σ) α} {second : Recorded (StateM τ) α}
    (h : Alike R first second) {f : α → Recorded (StateM σ) β} {g : α → Recorded (StateM τ) β}
    (hnext : ∀ a, Alike R (f a) (g a)) : Alike R (first >>= f) (second >>= g) := by
  intro calls s t hrelated
  obtain ⟨hsame, hafter⟩ := h calls s t hrelated
  rw [bind_apply, bind_apply, hsame]
  exact hnext _ _ _ _ hafter

end Recorded

/-! ## Calls -/

/-- The calls of a poll. -/
def Pad.polling (port : Port) : Array Call :=
  #[.selectPort port, .exchange .controller [0x42, 0, 0, 0] 32]

/-- The calls of a ping. -/
def Card.pinging (port : Port) : Array Call :=
  #[.selectPort port, .exchange .memoryCard [0x20, 0, 0, 0, 0] 5]

/-- The set with a port added, if its probe went well. -/
def Card.including (found : PortMask) (port : Port) (result : Except CommandError Unit) :
    PortMask :=
  if result.isOk then found.union port.mask else found

/-! ## Whole commands -/

namespace Transport

variable {σ τ : Type} [Transport (StateM σ)] [Transport (StateM τ)]

theorem Fits.ask (h : Fits σ) (port : Port) (address : Address) (request : List UInt8)
    (capacity : Nat) (s : σ) :
    (Transport.ask port address request capacity s).1.count ≤
        (Transport.ask port address request capacity s).1.buffer.length ∧
      (Transport.ask port address request capacity s).1.buffer.length = capacity := by
  have hcount := h.count address request (List.replicate capacity 0)
    ((Transport.selectPort port : StateM σ Unit) s).2
  have hbuffer := h.buffer address request (List.replicate capacity 0)
    ((Transport.selectPort port : StateM σ Unit) s).2
  rw [← hbuffer] at hcount
  rw [List.length_replicate] at hbuffer
  exact ⟨hcount, hbuffer⟩

theorem read_recorded (port : Port) (calls : Array Call) (s : σ) :
    (Pad.read port : Recorded (StateM σ) _) calls s =
      ((Pad.stateOfReply (ask port .controller Pad.pollRequest Pad.replyCapacity s).1,
        calls ++ Pad.polling port),
        (ask port .controller Pad.pollRequest Pad.replyCapacity s).2) := rfl

theorem readButtons_recorded (port : Port) (calls : Array Call) (s : σ) :
    (Pad.readButtons port : Recorded (StateM σ) _) calls s =
      ((Pad.buttonsOf (Pad.stateOfReply (ask port .controller Pad.pollRequest
          Pad.replyCapacity s).1),
        calls ++ Pad.polling port),
        (ask port .controller Pad.pollRequest Pad.replyCapacity s).2) := by
  unfold Pad.readButtons
  rw [Recorded.bind_apply, read_recorded]
  generalize ask port .controller Pad.pollRequest Pad.replyCapacity s = asked
  cases Pad.stateOfReply asked.1 <;> rfl

theorem probe_recorded (port : Port) (calls : Array Call) (s : σ) :
    (Card.probe port : Recorded (StateM σ) _) calls s =
      ((Card.checkPing (ask port .memoryCard Card.ping Card.ping.length s).1,
        calls ++ Card.pinging port),
        (ask port .memoryCard Card.ping Card.ping.length s).2) := rfl

theorem probeAll_recorded {port : Port} {calls between : Array Call} {s t : σ}
    {result : Except CommandError Unit}
    (h : (Card.probe port : Recorded (StateM σ) _) calls s = ((result, between), t))
    (ports : List Port) (found : PortMask) :
    (Card.probeAll (port :: ports) found : Recorded (StateM σ) _) calls s =
      (Card.probeAll ports (Card.including found port result) : Recorded (StateM σ) _)
        between t := by
  rw [Card.probeAll, Recorded.bind_apply, h]
  cases result <;> rfl

theorem presence_recorded {calls between all : Array Call} {s t u : σ}
    {first second : Except CommandError Unit}
    (hfirst : (Card.probe .one : Recorded (StateM σ) _) calls s = ((first, between), t))
    (hsecond : (Card.probe .two : Recorded (StateM σ) _) between t = ((second, all), u)) :
    (Card.presence : Recorded (StateM σ) _) calls s =
      ((Card.including (Card.including Flags.empty .one first) .two second, all), u) := by
  unfold Card.presence Port.all
  rw [probeAll_recorded hfirst, probeAll_recorded hsecond]
  rfl

/-! ## Two runs -/

section Agree

variable {R : σ → τ → Prop} (h : Agree R)

include h

theorem Agree.ask {s : σ} {t : τ} (hrelated : R s t) (port : Port) (address : Address)
    (request : List UInt8) (capacity : Nat) :
    (Transport.ask port address request capacity s).1.received =
        (Transport.ask port address request capacity t).1.received ∧
      R (Transport.ask port address request capacity s).2
        (Transport.ask port address request capacity t).2 := by
  have hselected := h.selectPort port s t hrelated
  obtain ⟨first, second, s', t', hfirst, hsecond, -, hreceived, hafter⟩ :=
    h.exchange address request (List.replicate capacity 0) _ _ hselected
  unfold Transport.ask
  rw [hfirst, hsecond]
  exact ⟨hreceived, hafter⟩

theorem Agree.read (port : Port) : Recorded.Alike R (Pad.read port) (Pad.read port) := by
  intro calls s t hrelated
  obtain ⟨hreceived, hafter⟩ := h.ask hrelated port .controller Pad.pollRequest Pad.replyCapacity
  rw [read_recorded, read_recorded]
  unfold Pad.stateOfReply
  rw [hreceived]
  exact ⟨rfl, hafter⟩

theorem Agree.readButtons (port : Port) :
    Recorded.Alike R (Pad.readButtons port) (Pad.readButtons port) := by
  refine (h.read port).bind fun result => ?_
  cases result with
  | ok => exact Recorded.alike_pure _
  | error => exact Recorded.alike_pure _

theorem Agree.probe (port : Port) : Recorded.Alike R (Card.probe port) (Card.probe port) := by
  intro calls s t hrelated
  obtain ⟨hreceived, hafter⟩ := h.ask hrelated port .memoryCard Card.ping Card.ping.length
  rw [probe_recorded, probe_recorded]
  unfold Card.checkPing
  rw [hreceived]
  exact ⟨rfl, hafter⟩

theorem Agree.probeAll (ports : List Port) : ∀ found : PortMask,
    Recorded.Alike R (Card.probeAll ports found) (Card.probeAll ports found) := by
  induction ports with
  | nil => exact fun found => Recorded.alike_pure found
  | cons port ports ih =>
    intro found
    refine (h.probe port).bind fun result => ?_
    cases result with
    | ok => exact ih _
    | error => exact ih _

theorem Agree.presence : Recorded.Alike R Card.presence Card.presence := h.probeAll _ _

end Agree

end Transport

/-! ## All answers -/

/-- Over any transport that counts no more bytes than its buffer holds, a poll and a ping select
the port and make one exchange each, and no lookup in the reply fails. The number of bytes received
and a few of them tell what comes of it. Pings go to the first port and then to the second one, and
the ports are found where they went well. Over two transports that receive the same all answers are
the same, whatever else is left in the buffers. -/
theorem answers_from_received {σ : Type} [Transport (StateM σ)] (hfits : Transport.Fits σ) (s : σ) :
    (∀ port : Port, ∃ reply t result,
      Transport.ask port .controller [0x42, 0, 0, 0] 32 s = (reply, t) ∧
      Pad.stateOfReply? reply = some result ∧ Pad.Tells reply result ∧
      (Pad.read port : Recorded (StateM σ) _) #[] s = ((result, Pad.polling port), t) ∧
      (Pad.readButtons port : Recorded (StateM σ) _) #[] s =
        ((Pad.buttonsOf result, Pad.polling port), t)) ∧
    (∀ port : Port, ∃ reply t result,
      Transport.ask port .memoryCard [0x20, 0, 0, 0, 0] 5 s = (reply, t) ∧
      Card.checkPing? reply = some result ∧ Card.Tells reply result ∧
      (Card.probe port : Recorded (StateM σ) _) #[] s = ((result, Card.pinging port), t)) ∧
    (∃ first second t u,
      (Card.probe .one : Recorded (StateM σ) _) #[] s = ((first, Card.pinging .one), t) ∧
      (Card.probe .two : Recorded (StateM σ) _) #[] t = ((second, Card.pinging .two), u) ∧
      (Card.presence : Recorded (StateM σ) _) #[] s =
        ((Card.including (Card.including Flags.empty .one first) .two second,
          Card.pinging .one ++ Card.pinging .two), u)) ∧
    (∀ (τ : Type) [Transport (StateM τ)] (R : σ → τ → Prop), Transport.Agree R →
      (∀ port : Port, Recorded.Alike R (Pad.read port) (Pad.read port) ∧
        Recorded.Alike R (Pad.readButtons port) (Pad.readButtons port) ∧
        Recorded.Alike R (Card.probe port) (Card.probe port)) ∧
      Recorded.Alike R Card.presence Card.presence) := by
  refine ⟨fun port => ?_, fun port => ?_, ?_, fun τ _ R hagree => ?_⟩
  · have hcount := (hfits.ask port .controller [0x42, 0, 0, 0] 32 s).1
    exact ⟨_, _, _, rfl, Pad.stateOfReply?_eq hcount, Pad.tells_stateOfReply hcount, rfl,
      Transport.readButtons_recorded port #[] s⟩
  · obtain ⟨hcount, hlength⟩ := hfits.ask port .memoryCard [0x20, 0, 0, 0, 0] 5 s
    exact ⟨_, _, _, rfl, Card.checkPing?_eq hcount hlength, Card.tells_checkPing hcount, rfl⟩
  · exact ⟨_, _, _, _, rfl, rfl, Transport.presence_recorded rfl rfl⟩
  · exact ⟨fun port => ⟨hagree.read port, hagree.readButtons port, hagree.probe port⟩,
      hagree.presence⟩

/-! ## Prepared replies -/

/-- A prepared reply without the bytes beyond those that it claims to have. -/
def PreparedReply.trimmed (prepared : PreparedReply) : PreparedReply :=
  { prepared with bytes := prepared.bytes.take prepared.claimed }

namespace Stub

/-- A stub with each of its replies trimmed. -/
def trimmed (stub : Stub) : Stub :=
  { stub with replies :=
      ⟨stub.replies.one.map PreparedReply.trimmed, stub.replies.two.map PreparedReply.trimmed⟩ }

theorem length_answer (prepared : PreparedReply) (buffer : List UInt8) :
    (answer prepared buffer).buffer.length = buffer.length := by
  show (prepared.bytes.take buffer.length ++ buffer.drop prepared.bytes.length).length = _
  rw [List.length_append, List.length_take, List.length_drop]
  omega

theorem fits : Transport.Fits Stub where
  count := by
    intro address request buffer stub
    show (stub.exchange buffer).1.count ≤ buffer.length
    unfold exchange
    cases stub.replies.get stub.selected with
    | nil => exact Nat.zero_le _
    | cons prepared rest => exact Nat.min_le_right _ _
  buffer := by
    intro address request buffer stub
    show (stub.exchange buffer).1.buffer.length = buffer.length
    unfold exchange
    cases stub.replies.get stub.selected with
    | nil => rfl
    | cons prepared rest => exact length_answer prepared buffer

theorem received_answer_trimmed (prepared : PreparedReply) (buffer : List UInt8) :
    (answer prepared.trimmed buffer).received = (answer prepared buffer).received := by
  obtain ⟨bytes, claimed⟩ := prepared
  unfold Reply.received answer PreparedReply.trimmed
  dsimp only
  by_cases hall : bytes.length ≤ claimed
  · rw [List.take_of_length_le hall]
  · -- All that is received of either reply comes from the bytes that both have in common.
    have htrimmed : min claimed buffer.length ≤
        ((bytes.take claimed).take buffer.length).length := by
      simp only [List.length_take]
      omega
    have hwhole : min claimed buffer.length ≤ (bytes.take buffer.length).length := by
      simp only [List.length_take]
      omega
    have hsame : min (min (min claimed buffer.length) buffer.length) claimed =
        min (min claimed buffer.length) buffer.length := by omega
    rw [List.take_append_of_le_length htrimmed, List.take_append_of_le_length hwhole,
      List.take_take, List.take_take, List.take_take, hsame]

theorem get_trimmed (stub : Stub) (port : Port) :
    stub.trimmed.replies.get port = (stub.replies.get port).map PreparedReply.trimmed := by
  cases port <;> rfl

theorem exchange_trimmed (buffer : List UInt8) (stub : Stub) :
    (stub.trimmed.exchange buffer).1.count = (stub.exchange buffer).1.count ∧
      (stub.trimmed.exchange buffer).1.received = (stub.exchange buffer).1.received ∧
      (stub.trimmed.exchange buffer).2 = (stub.exchange buffer).2.trimmed := by
  have hselected : stub.trimmed.selected = stub.selected := rfl
  unfold exchange
  rw [get_trimmed, hselected]
  cases hreplies : stub.replies.get stub.selected with
  | nil => exact ⟨rfl, rfl, rfl⟩
  | cons prepared rest =>
    refine ⟨rfl, received_answer_trimmed prepared buffer, ?_⟩
    obtain ⟨selected, replies⟩ := stub
    cases selected <;> rfl

/-- Two stubs agree if their replies differ only beyond the bytes that they claim to have. -/
theorem agree_trimmed :
    Transport.Agree fun first second : Stub => first.trimmed = second.trimmed where
  selectPort port first second h := congrArg (fun stub : Stub => { stub with selected := port }) h
  exchange address request buffer first second h := by
    obtain ⟨hcount, hreceived, hafter⟩ := exchange_trimmed buffer first
    obtain ⟨hcount', hreceived', hafter'⟩ := exchange_trimmed buffer second
    rw [h] at hcount hreceived hafter
    exact ⟨_, _, _, _, rfl, rfl, hcount.symm.trans hcount', hreceived.symm.trans hreceived',
      hafter.symm.trans hafter'⟩

/-- A memory card in the first port and a plain pad in the second one, with more bytes in the
pad's reply than it claims to have. -/
def untidy (more : List UInt8) : Stub :=
  ofReplies ⟨[⟨[0x08, 0x00, 0x27, 0xFF, 0x00], 5⟩], [⟨[0x41, 0x5A, 0xFF, 0xBF] ++ more, 4⟩]⟩

end Stub

theorem answers_from_received_untidy :
    (∃ reply t result,
      Transport.ask .two .controller [0x42, 0, 0, 0] 32 (Stub.untidy [1, 2, 3, 4]) = (reply, t) ∧
      reply.count = 4 ∧ reply.buffer[7]? = some 4 ∧
      Pad.stateOfReply? reply = some result ∧ result ≠ .error .malformedReply) ∧
    ((Pad.read .two : Recorded (StateM Stub) _) #[] (Stub.untidy [1, 2, 3, 4])).1 =
      ((Pad.read .two : Recorded (StateM Stub) _) #[] (Stub.untidy [])).1 := by
  obtain ⟨hpads, -, -, hagree⟩ := answers_from_received Stub.fits (Stub.untidy [1, 2, 3, 4])
  obtain ⟨reply, t, result, hasked, hlookups, htells, -⟩ := hpads .two
  have hreply : reply = (Transport.ask .two .controller [0x42, 0, 0, 0] 32
      (Stub.untidy [1, 2, 3, 4])).1 := by rw [hasked]
  have hcount : reply.count = 4 := by
    rw [hreply]
    decide
  have hmarker : reply.buffer[1]? = some 0x5A := by
    rw [hreply]
    decide
  refine ⟨⟨reply, t, result, hasked, hcount, ?_, hlookups, fun hmalformed => ?_⟩, ?_⟩
  · rw [hreply]
    decide
  · rcases (htells.malformed.mp hmalformed).2 with hshort | hother
    · omega
    · exact hother hmarker
  · exact (((hagree Stub _ Stub.agree_trimmed).1 .two).1 #[] _ _ (by decide)).1

end ConsoleBus
