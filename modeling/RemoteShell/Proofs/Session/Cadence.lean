import RemoteShell.Proofs.Session.EarlyClosing

/-!
# The cadence of the output

The pump of a session flushes the buffer when the session is run and then once in every
period. So it starts at most one write in each period, with all that has gathered in it
(`writes_of_play?`, `KeepsCadence`), and nothing waits in the buffer for longer than a period
unless the client holds a write up (`Gathers`).
-/

namespace RemoteShell

/-- When a pump flushes the buffer next at the earliest. -/
def Pump.due? : Pump → Option Nat
  | waiting due | writing _ due => some due
  | idle | lastWriting _ | finished .. => none

/-- A pump that waits for no tick has none that could be due. -/
theorem Pump.forall_due?_of_none {pump : Pump} {P : Nat → Prop} (h : pump.due? = none) :
    ∀ due ∈ pump.due?, P due := by
  simp [h]

/-- The writes that have been started: those that the client has accepted, and the one that
it has not. -/
def writes (outlet : Outlet) (pump : Pump) : List (List UInt8) :=
  frames outlet.log ++ if pump.inHand = [] then [] else [pump.inHand]

/-- A write is started by a capture of the buffer that finds something there, and it holds
all of that. -/
theorem writes_of_turn {period now : Nat} {isStopping : Bool} {pump pump' : Pump}
    {outlet outlet' : Outlet} (h : Pump.Turn period now isStopping outlet pump pump' outlet')
    (haccount : Accounted outlet pump) :
    writes outlet' pump' = writes outlet pump ++
      if pump.isWaiting ∧ outlet.buffer.pending ≠ [] then [outlet.buffer.pending] else [] := by
  have hwrite := haccount.write_ne_nil
  cases h <;> simp_all [writes, Pump.inHand, Pump.isWaiting, Pump.write?, Outlet.capture,
    ClientEvent.frame?]

namespace Session

variable {s s' t u : Session} {move : Move} {moves : List Move} {past : List Visit}

/-! ## Writes -/

/-- The write that a move starts. -/
def captured? (visit : Visit) : Option (List UInt8) :=
  if captures visit ∧ visit.1.outlet.buffer.pending ≠ [] then some visit.1.outlet.buffer.pending
  else none

/-- The writes that are started in a run. -/
def captured (visits : List Visit) : List (List UInt8) := visits.filterMap captured?

theorem captured_append (past : List Visit) (visit : Visit) :
    captured (past ++ [visit]) = captured past ++ (captured? visit).toList := by
  rw [captured, List.filterMap_append]
  cases hcaptured : captured? visit <;> simp [captured, hcaptured]

theorem captured_append_of_none (h : captured? (s, move) = none) :
    captured (past ++ [(s, move)]) = captured past := by
  rw [captured_append, h, Option.toList_none, List.append_nil]

/-- The writes of a run are what the pump has found in the buffer, each time all of it. -/
theorem writes_of_change (h : Change s move s') (hreached : s.IsReached) :
    writes s'.outlet s'.pump = writes s.outlet s.pump ++ (captured? (s, move)).toList := by
  cases h with
  | runs hfresh =>
    rw [(hreached.dormant hfresh).pump]
    exact (List.append_nil _).symm
  | pumpMoves hturn | pumpFails hturn =>
    rw [writes_of_turn hturn hreached.accounted, captured?, captures]
    split <;> rfl
  | pumpGivesUp hwrite =>
    have hhand := Pump.inHand_of_write? hwrite
    have hbusy := Pump.isWaiting_of_write? hwrite
    rw [writes, writes, hhand, captured?, captures, hbusy]
    exact (List.append_nil _).symm
  | closerCloses => simp [writes, captured?, captures, ClientEvent.frame?]
  | _ => exact (List.append_nil _).symm

theorem writes_of_play? {options : Options} {shell : Shell}
    (hplay : (ofShell options shell).play? moves = some t) :
    writes t.outlet t.pump = captured ((ofShell options shell).visits moves) := by
  have hrun := play?_induction
    (P := fun past s => s.IsReached ∧ writes s.outlet s.pump = captured past) [] ?_ hplay
    ⟨isReached_ofShell options shell, rfl⟩
  · simpa using hrun.2
  · rintro past s move s' hmake ⟨hreached, hwrites⟩
    refine ⟨hreached.make? hmake, ?_⟩
    rw [writes_of_change (change_of_make? hmake) hreached, hwrites, captured_append]

/-! ## One write in a period -/

theorem IsReached.flushInterval_pos (h : s.IsReached) : 0 < s.options.flushInterval :=
  h.induction (P := fun s => 0 < s.options.flushInterval)
    (fun _ _ => Nat.lt_of_lt_of_le (by decide) (Nat.le_max_right _ Options.shortest))
    (fun _ _ _ _ hchange hs => by rwa [options_of_change hchange])

/-- The writes so far fit into the periods since the start, and so will the next one. -/
structure KeepsCadence (past : List Visit) (s : Session) : Prop where
  fresh : s.startedAt = none → captured past = []
  elapsed : ∀ start ∈ s.startedAt,
    start + (captured past).length * s.options.flushInterval ≤ s.now + s.options.flushInterval
  next : ∀ start ∈ s.startedAt, ∀ due ∈ s.pump.due?,
    start + (captured past).length * s.options.flushInterval ≤ due

namespace KeepsCadence

/-- A session that is run begins with a tick. -/
theorem of_run (hs : KeepsCadence past s) (hfresh : s.startedAt = none) (hnow : s'.now = s.now)
    (hstarted : s'.startedAt = some s.now) (hpump : s'.pump = .waiting s.now) :
    KeepsCadence (past ++ [(s, .act .run)]) s' := by
  have hnothing : captured (past ++ [(s, .act .run)]) = [] := by
    rw [captured_append_of_none rfl, hs.fresh hfresh]
  refine ⟨fun _ => hnothing, ?_, ?_⟩
  · rw [hstarted, hnothing, hnow]
    rintro start ⟨⟩
    simp
  · rw [hstarted, hpump, hnothing]
    rintro start ⟨⟩ due ⟨⟩
    simp

/-- What starts no write and brings no tick forward keeps the cadence. -/
theorem of_rest (hs : KeepsCadence past s) (h : Change s move s')
    (hstarted : s'.startedAt = s.startedAt)
    (hdue : ∀ after ∈ s'.pump.due?, ∃ due ∈ s.pump.due?, due ≤ after)
    (hcaptured : captured? (s, move) = none) : KeepsCadence (past ++ [(s, move)]) s' := by
  have hnow := now_le_of_change h
  have hsame : captured (past ++ [(s, move)]) = captured past :=
    captured_append_of_none hcaptured
  refine ⟨?_, ?_, ?_⟩
  · rw [hstarted, hsame]
    exact hs.fresh
  · rw [hstarted, hsame, options_of_change h]
    intro start hstart
    have := hs.elapsed start hstart
    omega
  · rw [hstarted, hsame, options_of_change h]
    intro start hstart after hafter
    obtain ⟨due, hmem, hle⟩ := hdue after hafter
    exact Nat.le_trans (hs.next start hstart due hmem) hle

/-- A tick that is due has waited for its period. -/
theorem of_tick {due : Nat} (hs : KeepsCadence past s) (hreached : s.IsReached)
    (h : Change s (.turn .pump) s') (hwaits : s.pump = .waiting due) (hdue : due ≤ s.now)
    (hpending : s.outlet.buffer.pending ≠ []) (hnow : s'.now = s.now)
    (hstarted : s'.startedAt = s.startedAt)
    (hnext : s'.pump.due? = some (nextDue s.options.flushInterval due s.now)) :
    KeepsCadence (past ++ [(s, .turn .pump)]) s' := by
  have hturn : ∀ start ∈ s.startedAt,
      start + (captured past).length * s.options.flushInterval ≤ due :=
    fun start hstart => hs.next start hstart due (by rw [hwaits]; rfl)
  have hmore : (captured (past ++ [(s, .turn .pump)])).length = (captured past).length + 1 := by
    simp [captured_append, captured?, captures, hwaits, Pump.isWaiting, hpending]
  refine ⟨?_, ?_, ?_⟩
  · rw [hstarted]
    -- The pump of a session that was not run is idle.
    intro hfresh
    simp [(hreached.dormant hfresh).pump] at hwaits
  · rw [hstarted, hmore, options_of_change h, hnow]
    intro start hstart
    have := hturn start hstart
    rw [Nat.add_mul, Nat.one_mul]
    omega
  · rw [hstarted, hmore, options_of_change h, hnext]
    rintro start hstart _ ⟨⟩
    have hbefore := hturn start hstart
    have hafter := le_nextDue s.options.flushInterval due s.now
    rw [Nat.add_mul, Nat.one_mul]
    omega

end KeepsCadence

theorem keepsCadence_of_change (h : Change s move s') (hreached : s.IsReached)
    (hopen' : s'.isCancelled = false) (hs : KeepsCadence past s) :
    KeepsCadence (past ++ [(s, move)]) s' := by
  have hopen := open_of_change h hopen'
  have hchange := h
  cases h with
  | runs hfresh => exact hs.of_run hfresh rfl rfl rfl
  | pumpMoves hturn =>
    rw [hopen] at hturn
    generalize hpump : s.pump = pump at hturn
    cases hturn with
    | @tickEmpty due hgoing hdue hempty =>
      refine hs.of_rest hchange rfl ?_ (by simp [captured?, hempty])
      rintro _ ⟨⟩
      exact ⟨due, by rw [hpump]; rfl, Nat.le_of_lt (lt_nextDue _ hdue)⟩
    | tick hgoing hdue hpending =>
      exact hs.of_tick hreached hchange hpump hdue hpending rfl rfl rfl
    | lastEmpty hstop | last hstop => cases hstop
    | @accepted write due | @heldUp write due =>
      refine hs.of_rest hchange rfl ?_ (by simp [captured?, captures, hpump, Pump.isWaiting])
      rintro _ ⟨⟩
      exact ⟨due, by rw [hpump]; rfl, Nat.le_refl due⟩
    | lastAccepted | lastHeldUp | failed | lastFailed =>
      exact hs.of_rest hchange rfl (Pump.forall_due?_of_none rfl)
        (by simp [captured?, captures, hpump, Pump.isWaiting])
  | pumpFails | pumpGivesUp => simp [isCancelled] at hopen'
  | _ => exact hs.of_rest hchange rfl (fun due hdue => ⟨due, hdue, Nat.le_refl due⟩) rfl

theorem keepsCadence_of_play? {options : Options} {shell : Shell}
    (hplay : (ofShell options shell).play? moves = some t) (hopen : t.isCancelled = false) :
    KeepsCadence ((ofShell options shell).visits moves) t := by
  have hrun := play?_induction
    (P := fun past s => s.IsReached ∧ (s.isCancelled = false → KeepsCadence past s)) [] ?_ hplay
    ⟨isReached_ofShell options shell, fun _ => ⟨fun _ => rfl, nofun, nofun⟩⟩
  · exact hrun.2 hopen
  · rintro past s move s' hmake ⟨hreached, hs⟩
    have hchange := change_of_make? hmake
    exact ⟨hreached.make? hmake, fun hopen' =>
      keepsCadence_of_change hchange hreached hopen' (hs (open_of_change hchange hopen'))⟩

/-! ## One period in the buffer -/

/-- What the shell writes in a run, each byte with the state in which it is written. -/
def written (visits : List Visit) : List (Session × UInt8) :=
  visits.flatMap fun (s, move) => move.emission.map (s, ·)

theorem written_append (past : List Visit) (s : Session) (move : Move) :
    written (past ++ [(s, move)]) = written past ++ move.emission.map (s, ·) := by
  simp [written]

theorem map_snd_written (hplay : s.play? moves = some t) :
    (written (s.visits moves)).map Prod.snd = emission moves := by
  induction moves generalizing s with
  | nil => rfl
  | cons move later ih =>
    obtain ⟨s', hmake, hlater⟩ := play?_cons_eq_some hplay
    have hmove : (move.emission.map (s, ·)).map Prod.snd = move.emission := by
      simp [Function.comp_def]
    rw [visits_cons hmake, written, List.flatMap_cons, List.map_append, hmove, ← written, ih hlater,
      emission, emission, List.flatMap_cons]

/-- What waits in the buffer has gathered there since the last tick: it was written during the
run and not more than a period before the next tick, unless that is due already. -/
structure Gathers (past : List Visit) (s : Session) : Prop where
  soon : ∀ due ∈ s.pump.due?, due ≤ s.now + s.options.flushInterval
  recent : ∃ earlier recent, written past = earlier ++ recent ∧
    recent.map Prod.snd = s.outlet.buffer.pending ∧
    ∀ due ∈ s.pump.due?, s.now < due → ∀ byte ∈ recent,
      byte.1.startedAt.isSome ∧ due ≤ byte.1.now + s.options.flushInterval

namespace Gathers

/-- What leaves the buffer alone and brings no tick forward leaves it as it is. -/
theorem of_rest (hs : Gathers past s) (h : Change s move s') (hsilent : move.emission = [])
    (hpending : s'.outlet.buffer.pending = s.outlet.buffer.pending)
    (hdue : ∀ due ∈ s'.pump.due?, due ∈ s.pump.due?) : Gathers (past ++ [(s, move)]) s' := by
  have hnow := now_le_of_change h
  obtain ⟨earlier, recent, hwritten, hrecent, hlate⟩ := hs.recent
  refine ⟨fun due hmem => ?_, earlier, recent, ?_, ?_, fun due hmem hahead => ?_⟩
  · have := hs.soon due (hdue due hmem)
    rw [options_of_change h]
    omega
  · rw [written_append, hsilent, List.map_nil, List.append_nil, hwritten]
  · rw [hpending, hrecent]
  · rw [options_of_change h]
    exact hlate due (hdue due hmem) (by omega)

/-- An empty buffer is well whenever the next tick is due. -/
theorem of_empty (hsoon : ∀ due ∈ s'.pump.due?, due ≤ s'.now + s'.options.flushInterval)
    (hsilent : move.emission = []) (hpending : s'.outlet.buffer.pending = []) :
    Gathers (past ++ [(s, move)]) s' := by
  refine ⟨hsoon, written past, [], ?_, hpending.symm, by simp⟩
  rw [written_append, hsilent, List.map_nil]

end Gathers

theorem gathers_of_change (h : Change s move s') (hreached : s.IsReached) (hs : Gathers past s) :
    Gathers (past ++ [(s, move)]) s' := by
  have hchange := h
  cases h with
  | runs hfresh =>
    obtain ⟨earlier, recent, hwritten, hrecent, -⟩ := hs.recent
    refine ⟨?_, earlier, recent, ?_, hrecent, ?_⟩
    · rintro _ ⟨⟩
      exact Nat.le_add_right _ _
    · rw [written_append, hwritten]
      exact List.append_nil _
    · rintro _ ⟨⟩ hahead
      exact absurd hahead (Nat.lt_irrefl _)
  | emits bytes =>
    obtain ⟨earlier, recent, hwritten, hrecent, hlate⟩ := hs.recent
    refine ⟨hs.soon, earlier, recent ++ bytes.map (s, ·), ?_, ?_, fun due hdue hahead => ?_⟩
    · rw [written_append, hwritten, List.append_assoc]
      rfl
    · simp [Outlet.emit, hrecent, Function.comp_def]
    · rw [List.forall_mem_append]
      refine ⟨hlate due hdue hahead, fun byte hbyte => ?_⟩
      obtain ⟨_, -, rfl⟩ := List.mem_map.mp hbyte
      refine ⟨Option.isSome_iff_ne_none.mpr fun hfresh => ?_, hs.soon due hdue⟩
      rw [(hreached.dormant hfresh).pump] at hdue
      cases hdue
  | pumpMoves hturn =>
    have hpositive := hreached.flushInterval_pos
    generalize hpump : s.pump = pump at hturn
    cases hturn with
    | tickEmpty _ hdue hempty =>
      refine .of_empty ?_ rfl hempty
      rintro _ ⟨⟩
      exact nextDue_le hpositive hdue
    | tick _ hdue =>
      refine .of_empty ?_ rfl rfl
      rintro _ ⟨⟩
      exact nextDue_le hpositive hdue
    | accepted | heldUp => exact hs.of_rest hchange rfl rfl (by rw [hpump]; exact fun _ => id)
    | last => exact .of_empty (Pump.forall_due?_of_none rfl) rfl rfl
    | lastEmpty | lastAccepted | lastHeldUp | failed | lastFailed =>
      exact hs.of_rest hchange rfl rfl (Pump.forall_due?_of_none rfl)
  | pumpFails hturn =>
    generalize hpump : s.pump = pump at hturn
    cases hturn <;> exact hs.of_rest hchange rfl rfl (Pump.forall_due?_of_none rfl)
  | pumpGivesUp => exact hs.of_rest hchange rfl rfl (Pump.forall_due?_of_none rfl)
  | _ => exact hs.of_rest hchange rfl rfl fun _ => id

theorem gathers_of_play? {options : Options} {shell : Shell}
    (hplay : (ofShell options shell).play? moves = some t) :
    Gathers ((ofShell options shell).visits moves) t := by
  have hrun := play?_induction (P := fun past s => s.IsReached ∧ Gathers past s) [] ?_ hplay
    ⟨isReached_ofShell options shell, nofun, [], [], rfl, rfl, nofun⟩
  · exact hrun.2
  · rintro past s move s' hmake ⟨hreached, hs⟩
    exact ⟨hreached.make? hmake, gathers_of_change (change_of_make? hmake) hreached hs⟩

/-! ## The cadence as a whole -/

/-- At rest a pump that may go on waits for its next tick or for a client that holds a write
up. -/
theorem IsReached.waits_or_heldUp (h : s.IsReached) (hrest : s.step = none)
    (hopen : s.isCancelled = false) (hstarted : s.startedAt.isSome) :
    (∃ due, s.pump = .waiting due ∧ s.now < due) ∨
      ∃ write, s.pump.write? = some write ∧ .writeStalled write.data ∈ s.outlet.log := by
  have hstep : s.stepPump = none := stepOf_eq_none hrest .pump
  have hwait := Option.map_eq_none_iff.mp (race_eq_none_iff.mp hstep).2
  rcases Pump.step_eq_none_iff.mp hwait with hidle | hfinished | ⟨due, hwaits, -, hahead⟩ |
    ⟨write, hwrite, -, hheld⟩
  · exact absurd hidle (h.awake hstarted).pump
  · have hgoing := (h.undisturbed hopen).pump
    cases hpump : s.pump <;> simp_all [Pump.isFinished, Pump.isLast]
  · exact .inl ⟨due, hwaits, hahead⟩
  · exact .inr ⟨write, hwrite, h.showsTrouble.heldUp write hwrite hheld⟩

/-- For all timings, whatever the client and the shell do and however late the timers are: as
long as a session runs and has not been cancelled, it starts a write only by capturing the
buffer, which must not be empty, and writes all of it; and it has started at most one write
for each full period since the start, and one more. At rest no write is under way unless the
client has held it up. If none is, the client has all that was written before the session was
run, even at the instant of the start, and of the rest all but what was written less than a
period ago. -/
theorem flushes_in_every_period {options : Options} {shell : Shell} {start : Nat}
    (hplay : (ofShell options shell).play? moves = some t) (hstart : t.startedAt = some start)
    (hopen : t.isCancelled = false) :
    writes t.outlet t.pump = captured ((ofShell options shell).visits moves) ∧
      (∀ data ∈ captured ((ofShell options shell).visits moves), data ≠ []) ∧
      (captured ((ofShell options shell).visits moves)).length ≤
        (t.now - start) / options.clamped.flushInterval + 1 ∧
      (t.step = none → (∀ data, .writeStalled data ∉ t.outlet.log) → t.pump.inHand = []) ∧
      (t.step = none → t.pump.inHand = [] →
        ∃ sent waiting, written ((ofShell options shell).visits moves) = sent ++ waiting ∧
          sent.map Prod.snd = received t.outlet.log ∧
          waiting.map Prod.snd = t.outlet.buffer.pending ∧
          ∀ byte ∈ waiting, byte.1.startedAt.isSome ∧
            t.now < byte.1.now + options.clamped.flushInterval) := by
  have ht : t.IsReached := ⟨options, shell, moves, hplay⟩
  have hstarted : t.startedAt.isSome := by simp [hstart]
  have hoptions : t.options = options.clamped := options_of_play? hplay
  rw [← hoptions]
  refine ⟨writes_of_play? hplay, ?_, ?_, fun hrest htaken => ?_, fun hrest hhand => ?_⟩
  · intro data hdata
    obtain ⟨visit, -, hcaptured⟩ := List.mem_filterMap.mp hdata
    unfold captured? at hcaptured
    split at hcaptured
    · next hflush =>
      cases hcaptured
      exact hflush.2
    · cases hcaptured
  · have helapsed := (keepsCadence_of_play? hplay hopen).elapsed start hstart
    have hpositive := ht.flushInterval_pos
    rw [← Nat.add_div_right _ hpositive, Nat.le_div_iff_mul_le hpositive]
    omega
  · rcases ht.waits_or_heldUp hrest hopen hstarted with ⟨due, hwaits, -⟩ | ⟨write, -, hheld⟩
    · rw [hwaits]
      rfl
    · exact absurd hheld (htaken write.data)
  · obtain ⟨due, hwaits, hahead⟩ : ∃ due, t.pump = .waiting due ∧ t.now < due := by
      rcases ht.waits_or_heldUp hrest hopen hstarted with hwaits | ⟨write, hwrite, -⟩
      · exact hwaits
      · rw [Pump.inHand_of_write? hwrite] at hhand
        exact absurd hhand (ht.accounted.write_ne_nil write hwrite)
    obtain ⟨sent, waiting, hwritten, hwaiting, hrecent⟩ := (gathers_of_play? hplay).recent
    refine ⟨sent, waiting, hwritten, ?_, hwaiting, fun byte hbyte => ?_⟩
    · have hsplit := map_snd_written hplay
      have hbalance := ht.accounted.balance
      rw [emitted_of_play? hplay, hhand, List.append_nil] at hbalance
      rw [hwritten, List.map_append, hwaiting] at hsplit
      exact List.append_cancel_right (hsplit.trans hbalance)
    · obtain ⟨hrun, hdue⟩ := hrecent due (by rw [hwaits]; rfl) hahead byte hbyte
      exact ⟨hrun, by omega⟩

/-- What is written before the run is sent at its start and what is written after that with
the next tick. A byte that is written later waits half a period on. -/
theorem flushes_in_every_period_at_once :
    ∃ t, (ofShell .standard .fresh).play?
        [.act (.emit [104]), .act .run, .turn .pump, .turn .pump, .pass (millis 30),
          .act (.emit [105]), .pass (millis 60), .turn .pump, .turn .pump, .act (.emit [106]),
          .pass (millis 90)] = some t ∧
      t.isCancelled = false ∧ t.step = none ∧ t.now = millis 90 ∧
      writes t.outlet t.pump = [[104], [105]] ∧
      [[104], [105]].length ≤ t.now / millis 60 + 1 ∧
      ∃ waiting : List (Session × UInt8), waiting.map Prod.snd = [106] ∧
        ∀ byte ∈ waiting, byte.1.startedAt.isSome ∧ t.now < byte.1.now + millis 60 := by
  generalize hmoves : ([.act (.emit [104]), .act .run, .turn .pump, .turn .pump,
    .pass (millis 30), .act (.emit [105]), .pass (millis 60), .turn .pump, .turn .pump,
    .act (.emit [106]), .pass (millis 90)] : List Move) = moves
  have hrun : ((ofShell .standard .fresh).play? moves).map (fun t =>
      ((t.startedAt, t.isCancelled, t.step.isNone), t.now, t.pump.inHand,
        t.outlet.buffer.pending)) =
      some ((some 0, false, true), millis 90, [], [106]) := by
    rw [← hmoves]
    decide
  have hcaptured : captured ((ofShell .standard .fresh).visits moves) = [[104], [105]] := by
    rw [← hmoves]
    decide
  obtain ⟨t, hplay, hstate⟩ := Option.map_eq_some_iff.mp hrun
  simp only [Prod.mk.injEq, Option.isNone_iff_eq_none] at hstate
  obtain ⟨⟨hstart, hopen, hrest⟩, hnow, hhand, hpending⟩ := hstate
  obtain ⟨hwrites, -, hcount, -, hwaits⟩ := flushes_in_every_period hplay hstart hopen
  rw [hcaptured] at hwrites hcount
  obtain ⟨sent, waiting, -, -, hwaiting, hrecent⟩ := hwaits hrest hhand
  exact ⟨t, hplay, hopen, hrest, hnow, hwrites, hcount, waiting, hwaiting.trans hpending, hrecent⟩

end Session

end RemoteShell
