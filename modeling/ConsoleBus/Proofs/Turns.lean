import ConsoleBus.Proofs.Trace

/-!
# The turns of a trace

Whoever looks at a trace from outside sees bytes go out, and after each of them bytes read and
looks at the interrupt. `turns` cuts a trace at the bytes that were sent; this file says which turns
the bytes of an exchange make.
-/

namespace ConsoleBus

/-- Whether a byte is handed over to be sent. -/
def Occurrence.isSent : Occurrence → Bool
  | .access (.writeData _) _ => true
  | _ => false

namespace Bus

/-! ## Reading a trace from outside -/

/-- The bytes that were read. -/
def bytesRead (t : List Occurrence) : List UInt8 :=
  t.filterMap fun
    | .access .readData byte => some byte
    | _ => none

/-- Whether some look at the interrupt saw it. -/
def acknowledged (t : List Occurrence) : Bool :=
  t.any fun
    | .access .readInterrupt seen => seen
    | _ => false

/-- What happens before the next byte is sent. -/
def untilSent (t : List Occurrence) : List Occurrence := t.takeWhile fun o => !o.isSent

/-- The bytes sent, each with what happens between it and the next one. -/
def turns : List Occurrence → List (UInt8 × List Occurrence)
  | [] => []
  | .access (.writeData byte) _ :: t => (byte, untilSent t) :: turns t
  | _ :: t => turns t

@[simp] theorem bytesRead_append (t u : List Occurrence) :
    bytesRead (t ++ u) = bytesRead t ++ bytesRead u := List.filterMap_append

@[simp] theorem acknowledged_append (t u : List Occurrence) :
    acknowledged (t ++ u) = (acknowledged t || acknowledged u) := List.any_append

/-! ## Parts in which nothing is sent -/

/-- Nothing is sent. -/
def Unsent (t : List Occurrence) : Prop := ∀ o ∈ t, o.isSent = false

theorem Unsent.append {t u : List Occurrence} (ht : Unsent t) (hu : Unsent u) :
    Unsent (t ++ u) := by
  intro o ho
  rcases List.mem_append.mp ho with h | h
  · exact ht o h
  · exact hu o h

theorem untilSent_append {t : List Occurrence} (h : Unsent t) (u : List Occurrence) :
    untilSent (t ++ u) = t ++ untilSent u := by
  refine List.takeWhile_append_of_pos fun o ho => ?_
  rw [h o ho]
  rfl

theorem untilSent_of_unsent {t : List Occurrence} (h : Unsent t) : untilSent t = t := by
  have := untilSent_append h []
  rwa [List.append_nil, show untilSent [] = [] from rfl, List.append_nil] at this

theorem turns_append {t : List Occurrence} (h : Unsent t) (u : List Occurrence) :
    turns (t ++ u) = turns u := by
  induction t with
  | nil => rfl
  | cons o t ih =>
    have ho : o.isSent = false := h o List.mem_cons_self
    have ht : turns (t ++ u) = turns u := ih fun o' ho' => h o' (List.mem_cons_of_mem o ho')
    rw [List.cons_append, ← ht]
    match o, ho with
    | .sleep _, _ => rfl
    | .access .readControl _, _ => rfl
    | .access (.writeControl _) _, _ => rfl
    | .access (.writeMode _) _, _ => rfl
    | .access (.writeBaud _) _, _ => rfl
    | .access .readStatus _, _ => rfl
    | .access .readData _, _ => rfl
    | .access .readInterrupt _, _ => rfl
    | .access .clearInterrupt _, _ => rfl

theorem turns_of_unsent {t : List Occurrence} (h : Unsent t) : turns t = [] := by
  have := turns_append h []
  rwa [List.append_nil] at this

/-! ## The parts of an exchange -/

variable {config : Config}

theorem Waiting.unsent {remaining : Nat} {seen : Bool} {t : List Occurrence}
    (h : Waiting config remaining seen t) : Unsent t := by
  induction h with
  | expired => exact fun o ho => absurd ho List.not_mem_nil
  | unseen pos rest ih =>
    intro o ho
    simp only [List.mem_cons] at ho
    rcases ho with rfl | rfl | ho
    · rfl
    · rfl
    · exact ih o ho
  | seen pos control =>
    intro o ho
    simp only [rewriting, List.mem_cons, List.not_mem_nil, or_false] at ho
    rcases ho with rfl | rfl | rfl | rfl <;> rfl

theorem Waiting.bytesRead {remaining : Nat} {seen : Bool} {t : List Occurrence}
    (h : Waiting config remaining seen t) : bytesRead t = [] := by
  induction h with
  | expired => rfl
  | unseen pos rest ih => exact ih
  | seen pos control => rfl

theorem Waiting.acknowledged {remaining : Nat} {seen : Bool} {t : List Occurrence}
    (h : Waiting config remaining seen t) : acknowledged t = seen := by
  induction h with
  | expired => rfl
  | unseen pos rest ih => exact ih
  | seen pos control => rfl

theorem Looking.bytesRead {t : List Occurrence} (h : Looking t) : bytesRead t = [] := by
  refine List.filterMap_eq_nil_iff.mpr fun o ho => ?_
  obtain ⟨status, rfl⟩ := h o ho
  rfl

theorem Draining.unsent {t : List Occurrence} (h : Draining t) : Unsent t := by
  intro o ho
  obtain ⟨status, rfl⟩ | ⟨byte, rfl⟩ := h o ho
  · rfl
  · rfl

theorem Draining.acknowledged {t : List Occurrence} (h : Draining t) : acknowledged t = false := by
  refine List.any_eq_false.mpr fun o ho => ?_
  obtain ⟨status, rfl⟩ | ⟨byte, rfl⟩ := h o ho
  · exact Bool.false_ne_true
  · exact Bool.false_ne_true

theorem Looking.draining {t : List Occurrence} (h : Looking t) : Draining t :=
  fun o ho => .inl (h o ho)

theorem Looking.unsent {t : List Occurrence} (h : Looking t) : Unsent t := h.draining.unsent

theorem Looking.acknowledged {t : List Occurrence} (h : Looking t) : acknowledged t = false :=
  h.draining.acknowledged

theorem Exchanging.bytesRead_untilSent {sent received : UInt8} {t u : List Occurrence}
    (h : Exchanging sent received t) : bytesRead (untilSent (t ++ u)) = [] := by
  obtain ⟨before, between, hbefore, -, rfl⟩ := h
  rw [List.append_assoc, untilSent_append hbefore.unsent]
  exact (bytesRead_append _ _).trans (by rw [hbefore.bytesRead]; rfl)

theorem Exchanging.acknowledged_untilSent {sent received : UInt8} {t u : List Occurrence}
    (h : Exchanging sent received t) : acknowledged (untilSent (t ++ u)) = false := by
  obtain ⟨before, between, hbefore, -, rfl⟩ := h
  rw [List.append_assoc, untilSent_append hbefore.unsent]
  exact (acknowledged_append _ _).trans (by rw [hbefore.acknowledged]; rfl)

/-- An exchanged byte and the wait after it are one turn, up to the next byte. -/
theorem Exchanging.turns {sent received : UInt8} {seen : Bool} {remaining : Nat}
    {t w u : List Occurrence} (h : Exchanging sent received t)
    (waited : Waiting config remaining seen w) (hread : bytesRead (untilSent u) = [])
    (hack : acknowledged (untilSent u) = false) :
    ∃ after, turns (t ++ (w ++ u)) = (sent, after) :: turns u ∧
      bytesRead after = [received] ∧ acknowledged after = seen := by
  obtain ⟨before, between, hbefore, hbetween, rfl⟩ := h
  have hquiet : Unsent (between ++ [.access .readData received]) := by
    refine hbetween.unsent.append fun o ho => ?_
    rw [List.mem_singleton.mp ho]
    rfl
  have hunsent : Unsent ((between ++ [.access .readData received]) ++ w) :=
    hquiet.append waited.unsent
  refine ⟨((between ++ [.access .readData received]) ++ w) ++ untilSent u, ?_, ?_, ?_⟩
  · rw [List.append_assoc, turns_append hbefore.unsent, List.cons_append, Bus.turns]
    rw [← List.append_assoc _ w u, untilSent_append hunsent, turns_append hunsent]
  · simp only [bytesRead_append, hbetween.bytesRead, waited.bytesRead, hread]
    rfl
  · simp only [acknowledged_append, hbetween.acknowledged, waited.acknowledged, hack]
    simp [Bus.acknowledged]

theorem Unsent.asserting (control : Control) : Unsent (asserting config control) := by
  intro o ho
  simp only [Bus.asserting, rewriting, List.mem_append, List.mem_cons, List.not_mem_nil,
    or_false] at ho
  rcases ho with (rfl | rfl | rfl) | rfl <;> rfl

/-- The first turn of an exchange is that of its address byte. -/
theorem turns_opening {byte : UInt8} (first : Control) (t : List Occurrence) :
    turns (.sleep (clampMicros config.preDelay) :: (asserting config first ++
      .access (.writeData byte) () :: t)) = (byte, untilSent t) :: turns t := by
  show turns (asserting config first ++ _) = _
  rw [turns_append (.asserting first)]
  rfl

/-! ## The turns of the data bytes -/

/-- How the turns of the data bytes belong to a request, to what was in the buffer and to the
reply, once it is known whether the address was acknowledged. -/
structure Turned (heard : Bool) (request buffer : List UInt8) (reply : Reply)
    (data : List (UInt8 × List Occurrence)) : Prop where
  /-- The request is sent, followed by zeroes for as long as it takes. -/
  sent : data.map Prod.fst = (List.range reply.count).map fun i => request.getD i 0
  /-- Each turn has one read, and the bytes read are what the reply begins with. -/
  received : data.map (fun turn => bytesRead turn.2) =
    (reply.buffer.take reply.count).map fun byte => [byte]
  /-- The rest of the buffer is as it was. -/
  kept : reply.buffer.drop reply.count = buffer.drop reply.count
  /-- The buffer is as long as it was. -/
  length : reply.buffer.length = buffer.length
  /-- The first byte that is not acknowledged is the last one, unless the buffer ends before. -/
  count : reply.count = if heard then
    min buffer.length (1 + (data.takeWhile fun turn => acknowledged turn.2).length) else 0

theorem Turned.full (request : List UInt8) : Turned true request [] ⟨0, []⟩ [] := by
  constructor <;> rfl

theorem Turned.unheard (request buffer : List UInt8) : Turned false request buffer ⟨0, buffer⟩ [] := by
  constructor <;> rfl

theorem Turned.last {request rest : List UInt8} {old byte : UInt8} {after : List Occurrence}
    (hread : bytesRead after = [byte]) (hack : acknowledged after = false) :
    Turned true request (old :: rest) ⟨1, byte :: rest⟩ [(request.headD 0, after)] where
  sent := by cases request <;> rfl
  received := by simp [hread]
  kept := rfl
  length := rfl
  count := by simp [hack]

theorem Turned.more {request rest : List UInt8} {old byte : UInt8} {reply : Reply}
    {after : List Occurrence} {data : List (UInt8 × List Occurrence)}
    (hread : bytesRead after = [byte]) (hack : acknowledged after = true)
    (h : Turned true request.tail rest reply data) :
    Turned true request (old :: rest) ⟨reply.count + 1, byte :: reply.buffer⟩
      ((request.headD 0, after) :: data) where
  sent := by
    rw [List.map_cons, h.sent, List.range_succ_eq_map, List.map_cons, List.map_map]
    cases request <;> rfl
  received := by simp [hread, h.received]
  kept := by simpa using h.kept
  length := by simpa using h.length
  count := by
    have hcount := h.count
    simp only [List.takeWhile_cons, hack, if_true, List.length_cons] at hcount ⊢
    omega

/-- The turns of the data bytes, whatever follows in which nothing is sent, read or seen. -/
theorem Filling.turned {request buffer : List UInt8} {reply : Reply} {t u : List Occurrence}
    (h : Filling config request buffer reply t) (hsent : Unsent u) (hread : bytesRead u = [])
    (hack : acknowledged u = false) :
    bytesRead (untilSent (t ++ u)) = [] ∧ acknowledged (untilSent (t ++ u)) = false ∧
      Turned true request buffer reply (turns (t ++ u)) := by
  induction h with
  | full =>
    rw [List.nil_append, untilSent_of_unsent hsent, turns_of_unsent hsent]
    exact ⟨hread, hack, .full _⟩
  | last exchanged waited =>
    rw [List.append_assoc]
    refine ⟨exchanged.bytesRead_untilSent, exchanged.acknowledged_untilSent, ?_⟩
    obtain ⟨after, hturns, hafter, hseen⟩ := exchanged.turns waited
      (by rw [untilSent_of_unsent hsent, hread]) (by rw [untilSent_of_unsent hsent, hack])
    rw [hturns, turns_of_unsent hsent]
    exact .last hafter hseen
  | more exchanged waited filled ih =>
    obtain ⟨hread', hack', hturned⟩ := ih
    rw [List.append_assoc, List.append_assoc]
    refine ⟨exchanged.bytesRead_untilSent, exchanged.acknowledged_untilSent, ?_⟩
    obtain ⟨after, hturns, hafter, hseen⟩ := exchanged.turns waited hread' hack'
    rw [hturns]
    exact .more hafter hseen hturned

end Bus

end ConsoleBus
