import RemoteShell.Proofs.Session.Verdict

/-!
# What the relay reads

The relay reads frames in the order in which they arrive, and none is lost: what has
arrived is what has been read and what is in the inbox (`inbox_append_arrivals`). A
frame that ends the session is the last one that is read. The relay may still read a frame
when the scope has been cancelled, if it does not look at its end first.
-/

namespace RemoteShell

/-- What arrives from the client with a move. -/
def Move.arrival? : Move → Option Arrival
  | act (.arrive arrival) => some arrival
  | act _ | turn _ | pass _ => none

/-- All that arrives from the client with some moves. -/
def arrivals (moves : List Move) : List Arrival := moves.filterMap Move.arrival?

/-- Tells whether nothing can come after a frame: the client has left, or reading fails. -/
def Arrival.isEnd (arrival : Arrival) : Bool := arrival.halt?.isSome

namespace Session

variable {s s' t : Session} {move : Move} {moves : List Move} {past : List Visit}
  {arrival : Arrival}

/-- The frame that the relay reads with a move. -/
def frameRead? : Visit → Option Arrival
  | (s, .turn .relay) => if s.GoesOn ∧ s.relay = .reading then s.inbox.head? else none
  | _ => none

/-- All frames that the relay reads. -/
def framesRead (visits : List Visit) : List Arrival := visits.filterMap frameRead?

theorem arrivals_cons (move : Move) (later : List Move) :
    arrivals (move :: later) = move.arrival?.toList ++ arrivals later := by
  cases harrival : move.arrival? <;> simp [arrivals, harrival]

theorem framesRead_cons (visit : Visit) (later : List Visit) :
    framesRead (visit :: later) = (frameRead? visit).toList ++ framesRead later := by
  cases hframe : frameRead? visit <;> simp [framesRead, hframe]

theorem framesRead_append_singleton (past : List Visit) (visit : Visit) :
    framesRead (past ++ [visit]) = framesRead past ++ (frameRead? visit).toList := by
  rw [framesRead, List.filterMap_append, ← framesRead, ← framesRead, framesRead_cons]
  exact congrArg (framesRead past ++ ·) (List.append_nil _)

theorem frameRead?_of_reading {later : List Arrival} (hgoes : s.GoesOn)
    (hrelay : s.relay = .reading) (hinbox : s.inbox = arrival :: later) :
    frameRead? (s, .turn .relay) = some arrival := by
  rw [frameRead?, if_pos ⟨hgoes, hrelay⟩, hinbox, List.head?_cons]

theorem frameRead?_eq_none_of_busy (hrelay : s.relay ≠ .reading) :
    frameRead? (s, .turn .relay) = none := by
  simp [frameRead?, hrelay]

theorem of_frameRead?_eq_some (h : frameRead? (s, move) = some arrival) :
    move = .turn .relay ∧ s.GoesOn ∧ s.relay = .reading ∧ ∃ later, s.inbox = arrival :: later := by
  unfold frameRead? at h
  split at h
  · rename_i heq
    cases heq
    obtain ⟨⟨hgoes, hrelay⟩, hhead⟩ := Option.ite_none_right_eq_some.mp h
    exact ⟨rfl, hgoes, hrelay, List.head?_eq_some_iff.mp hhead⟩
  · cases h

/-- A relay that ends reads no frame any more. -/
theorem frameRead?_eq_none_of_end (hcancelled : s.isCancelled = true)
    (hchoice : s.endFirst = true ∨ s.goRelay = none) :
    frameRead? (s, .turn .relay) = none := by
  refine Option.eq_none_iff_forall_ne_some.mpr fun arrival h => ?_
  obtain ⟨-, hgoes, hrelay, later, hinbox⟩ := of_frameRead?_eq_some h
  simp [goRelay, hrelay, hinbox, hgoes hcancelled] at hchoice

/-! ## Nothing is lost -/

/-- What a move adds to the inbox comes last, and what it takes was first. -/
theorem inbox_of_change (h : Change s move s') :
    s.inbox ++ move.arrival?.toList = (frameRead? (s, move)).toList ++ s'.inbox := by
  cases h with
  | relayEnds hcancelled _ _ hchoice =>
    simp [Move.arrival?, frameRead?_eq_none_of_end hcancelled hchoice]
  | relayResizes hgoes hrelay hinbox | relayTakes hgoes hrelay hinbox
  | relayRefused hgoes hrelay hinbox | relaySkips hgoes hrelay hinbox
  | relayMeetsEnd hgoes hrelay hinbox | relayMeetsFailure hgoes hrelay hinbox =>
    simp [Move.arrival?, frameRead?_of_reading hgoes hrelay hinbox, hinbox]
  | relayResized _ hrelay | relayFeeds _ hrelay | relayFlushed _ hrelay =>
    simp [Move.arrival?, frameRead?, hrelay]
  | arrives => rfl
  | _ => exact List.append_nil _

/-- What has been in the inbox or has arrived has been read or is in the inbox. -/
theorem inbox_append_arrivals (hplay : s.play? moves = some t) :
    s.inbox ++ arrivals moves = framesRead (s.visits moves) ++ t.inbox := by
  induction moves generalizing s with
  | nil =>
    cases hplay
    exact List.append_nil _
  | cons move later ih =>
    obtain ⟨s', hmake, hlater⟩ := play?_cons_eq_some hplay
    have hmove := inbox_of_change (change_of_make? hmake)
    rw [visits_cons hmake, arrivals_cons, framesRead_cons, ← List.append_assoc, hmove,
      List.append_assoc, ih hlater, List.append_assoc]

/-! ## The end of the frames -/

theorem isEnd_of_input {bytes : List UInt8} (h : arrival.input? = some bytes) :
    arrival.isEnd = false := by
  rw [Arrival.isEnd, Arrival.halt?_of_input h, Option.isSome_none]

/-- Reading the end is the last thing that the relay does, and it ends the session. -/
theorem finished_of_end (h : Change s move s') (hread : frameRead? (s, move) = some arrival)
    (hend : arrival.isEnd = true) : s'.relay = .finished ∧ s'.isCancelled = true := by
  obtain ⟨rfl, hgoes, hrelay, later, hinbox⟩ := of_frameRead?_eq_some hread
  cases h with
  | relayEnds hcancelled _ _ hchoice =>
    simp [frameRead?_eq_none_of_end hcancelled hchoice] at hread
  | relayResizes _ _ hold | relaySkips _ _ hold =>
    simp only [hinbox, List.cons.injEq] at hold
    simp [hold.1, Arrival.isEnd, Arrival.halt?] at hend
  | relayTakes _ _ hold hinput | relayRefused _ _ hold hinput =>
    simp only [hinbox, List.cons.injEq] at hold
    simp [hold.1, isEnd_of_input hinput] at hend
  | relayMeetsEnd | relayMeetsFailure => exact ⟨rfl, Scope.isCancelled_endWith _ _ _⟩
  | relayResized _ hold | relayFeeds _ hold | relayFlushed _ hold => simp [hrelay] at hold

/-- Conversely, a turn of the relay ends the session only at the end of the frames. -/
theorem end_of_relay (h : Change s (.turn .relay) s') (hscope : s'.scope ≠ s.scope) :
    ∃ arrival, frameRead? (s, .turn .relay) = some arrival ∧ arrival.isEnd = true := by
  cases h with
  | relayMeetsEnd hgoes hrelay hinbox | relayMeetsFailure hgoes hrelay hinbox =>
    exact ⟨_, frameRead?_of_reading hgoes hrelay hinbox, rfl⟩
  | _ => exact absurd rfl hscope

/-- A relay that has ended does not begin again. -/
theorem relay_finished_of_change (h : Change s move s') (hreached : s.IsReached)
    (hfinished : s.relay = .finished) : s'.relay = .finished := by
  cases h with
  | runs hfresh => simp [(hreached.dormant hfresh).relay] at hfinished
  | relayEnds | relayMeetsEnd | relayMeetsFailure => rfl
  | relayResizes _ hrelay | relayTakes _ hrelay | relayRefused _ hrelay | relaySkips _ hrelay
  | relayResized _ hrelay | relayFeeds _ hrelay | relayFlushed _ hrelay =>
    simp [hfinished] at hrelay
  | _ => exact hfinished

/-- Once the end has been read, the relay has ended and the session has been cancelled. -/
def EndsRead (past : List Visit) (s : Session) : Prop :=
  ∀ arrival ∈ framesRead past, arrival.isEnd = true → s.relay = .finished ∧ s.isCancelled = true

theorem endsRead_of_change (h : Change s move s') (hreached : s.IsReached)
    (hs : EndsRead past s) : EndsRead (past ++ [(s, move)]) s' := by
  intro arrival hmem hend
  rw [framesRead_append_singleton, List.mem_append, Option.mem_toList] at hmem
  rcases hmem with hold | hnew
  · obtain ⟨hfinished, hcancelled⟩ := hs arrival hold hend
    exact ⟨relay_finished_of_change h hreached hfinished, isCancelled_of_change h hcancelled⟩
  · exact finished_of_end h hnew hend

theorem endsRead_of_play? {options : Options} {shell : Shell}
    (hplay : (ofShell options shell).play? moves = some t) :
    EndsRead ((ofShell options shell).visits moves) t := by
  have hrun := play?_induction (P := fun past s => s.IsReached ∧ EndsRead past s) [] ?_ hplay
    ⟨isReached_ofShell options shell, by simp [EndsRead, framesRead]⟩
  · exact hrun.2
  · rintro past s move s' hmake ⟨hreached, hs⟩
    exact ⟨hreached.make? hmake, endsRead_of_change (change_of_make? hmake) hreached hs⟩

end Session

end RemoteShell
