import ResumableSession.Proofs.Dispatch.Rest

/-!
The connection that a message is sent on.

A message waits in the queue until its turn comes, and by then the session may have given up the
connection that the message is for.  As long as the host tells of its connections from outside only,
and never while it is being called, this does no harm.  All that is waiting to be sent comes before
the next closing in the queue, and so it goes to the connection of the attempt that it was meant
for.
-/

namespace ResumableSession

/-! ## Messages in line -/

/-- Whether all messages in line find a connection, if there is one to begin with when `present` is
true.  One that is asked for may not come about, so it does not count.  In the end, a connection is
sure to be there if `final`. -/
def Served (present : Bool) (effects : List Effect) (final : Bool) : Prop :=
  match effects with
  | [] => present = final
  | .openTransport :: rest | .closeTransport :: rest => Served false rest final
  | .send _ :: rest => present = true ∧ Served present rest final
  | .scheduleReconnect _ :: rest | .stateChanged _ :: rest | .deliver _ :: rest
  | .report _ :: rest => Served present rest final

namespace Served

variable {present middle final : Bool} {first second effects : List Effect}

theorem append (hfirst : Served present first middle) (hsecond : Served middle second final) :
    Served present (first ++ second) final := by
  induction first generalizing present with
  | nil =>
      obtain rfl : present = middle := hfirst
      exact hsecond
  | cons effect rest ih =>
      cases effect with
      | send message => exact ⟨hfirst.1, ih hfirst.2⟩
      | openTransport | closeTransport | scheduleReconnect delay | stateChanged status
      | deliver payload | report error => exact ih hfirst

theorem exists_mono (h : Served false effects final) (present : Bool) :
    ∃ more, Served present effects more ∧ (final = true → more = true) := by
  induction effects with
  | nil =>
      obtain rfl : false = final := h
      exact ⟨present, rfl, nofun⟩
  | cons effect rest ih =>
      cases effect with
      | openTransport | closeTransport => exact ⟨final, h, id⟩
      | send message => exact absurd h.1 Bool.noConfusion
      | scheduleReconnect delay | stateChanged status | deliver payload | report error => exact ih h

theorem of_talk {talk : List Effect} (plain : ∀ effect ∈ talk, effect.talk) :
    Served true talk true := by
  induction talk with
  | nil => rfl
  | cons effect rest ih =>
      obtain ⟨heffect, hrest⟩ := List.forall_mem_cons.mp plain
      cases effect with
      | openTransport | closeTransport => contradiction
      | send message => exact ⟨rfl, ih hrest⟩
      | scheduleReconnect delay | stateChanged status | deliver payload | report error =>
          exact ih hrest

end Served

section

variable {delay : Nat} {moment : Moment} {status after : Status} {effects : List Effect}

theorem Change.served (h : Change delay moment status after effects) :
    Served status.live effects (status.live && after.live) := by
  cases h with
  | idles => exact (Bool.and_self _).symm
  | talks live talk plain =>
      rw [live]
      exact .of_talk plain
  | opens unheard => rfl
  | connects opened talk plain => exact (Served.of_talk plain).append rfl
  | attaches fresh talk plain heard =>
      rcases fresh with rfl | rfl <;> exact (Served.of_talk plain).append rfl
  | ends live ending heard =>
      rw [live]
      cases ending <;> rfl

theorem Change.live_of_attached (h : Change delay moment status after effects)
    (hattached : after = .attached) : status.live := by
  cases h with
  | idles =>
      rw [hattached]
      rfl
  | talks live talk plain => exact live
  | opens unheard => contradiction
  | connects opened talk plain => rfl
  | attaches fresh talk plain heard => rcases fresh with rfl | rfl <;> rfl
  | ends live ending heard => exact live

theorem Change.live_of_line (h : Change delay moment status after effects)
    (hline : moment.isLine) (hlive : after.live) : status.live := by
  cases h with
  | idles => exact hlive
  | talks live talk plain | ends live ending heard => exact live
  | opens unheard => simp [unheard] at hline
  | connects opened talk plain => rfl
  | attaches fresh talk plain heard => rcases fresh with rfl | rfl <;> rfl

end

/-- Whether an input is what an application wants, and not what happens to a connection. -/
def Input.wanted : Input → Bool
  | .start | .connect | .request _ => true
  | .opened | .lost _ | .received _ => false

namespace Session

variable {s : Session} {input : Input}

/-- The messages that an input adds find a connection, if there is one when `present` is true, and
a session that is attached afterwards keeps it. -/
def Supplied (present : Bool) (input : Input) (s : Session) : Prop :=
  ∃ final, Served present (s.step input).2 final ∧
    ((s.step input).1.status = .attached → final = true)

theorem served_lines (lines : List (Except Frame.Error String)) (s : Session) :
    Served s.status.live (s.meetAll (lines.map .line)).2
      (s.meetAll (lines.map .line)).1.status.live := by
  induction lines generalizing s with
  | nil => rfl
  | cons line rest ih =>
      have hchange := meet_change (.line line) s
      have hfirst := hchange.served
      have hlive : (s.status.live && (s.meet (.line line)).1.status.live) =
          (s.meet (.line line)).1.status.live := by
        have hkept := hchange.live_of_line rfl
        cases hafter : (s.meet (.line line)).1.status.live with
        | false => exact Bool.and_false _
        | true => simp [hkept hafter]
      rw [hlive] at hfirst
      exact hfirst.append (ih _)

theorem supplied_of_meet (moment : Moment) (hmeet : s.step input = s.meet moment) :
    s.Supplied s.status.live input := by
  have hchange := meet_change moment s
  rw [Supplied, hmeet]
  refine ⟨_, hchange.served, fun hattached => ?_⟩
  rw [hchange.live_of_attached hattached, hattached]
  rfl

theorem supplied_live (hsound : s.buffer.Sound) (input : Input) :
    s.Supplied s.status.live input := by
  cases input with
  | start | connect => exact supplied_of_meet .connect rfl
  | opened => exact supplied_of_meet .opened rfl
  | lost cause => exact supplied_of_meet (.lost cause) rfl
  | request payload => exact supplied_of_meet (.request payload) rfl
  | received fragment =>
      obtain ⟨hafter, heffects⟩ := Prod.mk.inj (step_moments hsound (.received fragment))
      by_cases hlive : s.status.live
      · have hserved := served_lines (Frame.Queue.drain (s.buffer.residual ++ fragment)).1 s.bare
        rw [moments, if_pos hlive] at hafter heffects
        rw [← hafter, ← heffects] at hserved
        exact ⟨_, hserved, fun hattached => congrArg Status.live hattached⟩
      · have hnothing : s.step (.received fragment) = (s, []) := received_of_not_live hlive fragment
        rw [Supplied, hnothing]
        exact ⟨_, rfl, fun hattached => congrArg Status.live hattached⟩

theorem supplied_wanted {present : Bool} (hwanted : input.wanted)
    (hpresent : s.status = .attached → present = true) : s.Supplied present input := by
  have hconnect : ∃ final, Served present s.connect.2 final ∧
      (s.connect.1.status = .attached → final = true) := by
    by_cases hdown : s.status = .disconnected
    · rw [connect_of_disconnected hdown]
      exact ⟨false, rfl, nofun⟩
    · have hnothing : s.connect = (s, []) := if_neg hdown
      rw [hnothing]
      exact ⟨present, rfl, hpresent⟩
  cases input with
  | start | connect => exact hconnect
  | request payload =>
      refine ⟨present, ?_, hpresent⟩
      by_cases hattached : s.status = .attached
      · have heffects : (s.step (.request payload)).2 =
            [.send (.request ⟨s.nextRequestId, s.responseCursor, payload⟩)] := if_pos hattached
        rw [heffects]
        exact ⟨hpresent hattached, rfl⟩
      · have heffects : (s.step (.request payload)).2 = [] := if_neg hattached
        rw [heffects]
        rfl
  | opened | lost cause | received fragment => contradiction

theorem lost_of_not_live (hdown : ¬ s.status.live) (cause : TransportError) :
    s.step (.lost cause) = (s, []) := by
  simp only [step, lost]
  split <;> simp_all [Status.live]

theorem supplied_lost (present : Bool) (cause : TransportError) (s : Session) :
    s.Supplied present (.lost cause) := by
  by_cases hlive : s.status.live
  · have hlost : s.step (.lost cause) = s.dropConnection (.transport cause) := by
      simp only [step, lost]
      split <;> simp_all [Status.live]
    rw [Supplied, hlost, dropConnection_of_live hlive]
    exact ⟨false, rfl, by simp⟩
  · rw [Supplied, lost_of_not_live hlive]
    exact ⟨present, rfl, fun hattached => absurd (congrArg Status.live hattached) hlive⟩

/-! ## The attempts that effects belong to -/

/-- The effects of a run, each with the number of the attempt in which the session came up with
it. -/
def attributed (inputs : List Input) (s : Session) : List (Nat × Effect) :=
  match inputs with
  | [] => []
  | input :: rest =>
      (s.step input).2.map ((s.step input).1.attempts, ·) ++ (s.step input).1.attributed rest

theorem map_attributed (inputs : List Input) (s : Session) :
    (s.attributed inputs).map Prod.snd = (s.steps inputs).2 := by
  induction inputs generalizing s with
  | nil => rfl
  | cons input rest ih => simp [attributed, steps, ih, Function.comp_def]

theorem step_attempts (h : Tidy s) (input : Input) :
    (s.step input).1.attempts = s.attempts ∧ .openTransport ∉ (s.step input).2 ∨
      (s.step input).1.attempts = s.attempts + 1 ∧
        (s.step input).2 = [.stateChanged .awaitingConnect, .openTransport] := by
  have hcount := attempts_steps h [input]
  simp only [steps, List.append_nil] at hcount
  have hkept (hsame : (s.step input).1.attempts = s.attempts) :
      (s.step input).1.attempts = s.attempts ∧ .openTransport ∉ (s.step input).2 :=
    ⟨hsame, List.count_eq_zero.mp (by omega)⟩
  have hnothing (hstep : s.step input = (s, [])) :
      (s.step input).1.attempts = s.attempts ∧ .openTransport ∉ (s.step input).2 :=
    hkept (by rw [hstep])
  by_cases hlive : s.status.live
  · exact .inl (hkept (attempts_step h hlive input))
  · cases input with
    | start | connect =>
        by_cases hdown : s.status = .disconnected
        · have hopening := connect_of_disconnected hdown
          exact .inr ⟨by simp [step, start, hopening], by simp [step, start, hopening]⟩
        · exact .inl (hnothing (if_neg hdown))
    | opened => exact .inl (hnothing (if_neg fun hwaiting => hlive (congrArg Status.live hwaiting)))
    | lost cause => exact .inl (hnothing (lost_of_not_live hlive cause))
    | received fragment => exact .inl (hnothing (received_of_not_live hlive fragment))
    | request payload => exact .inl (hkept rfl)

theorem attempt_of_send (h : Tidy s) {inputs : List Input} {earlier later : List (Nat × Effect)}
    {attempt : Nat} {message : ClientMessage}
    (hsplit : s.attributed inputs = earlier ++ (attempt, .send message) :: later) :
    attempt = s.attempts + (earlier.map Prod.snd).count .openTransport := by
  induction inputs generalizing s earlier with
  | nil => simp [attributed] at hsplit
  | cons input rest ih =>
      -- The message is among the effects of this input, or it comes after all of them.
      rcases List.append_eq_append_iff.mp hsplit with
        ⟨others, rfl, hrest⟩ | ⟨others, heffects, hothers⟩
      · have hcount := attempts_steps h [input]
        simp only [steps, List.append_nil] at hcount
        rw [ih (h.step input) hrest, ← hcount]
        simp [Function.comp_def, Nat.add_assoc]
      · cases others with
        | nil =>
            have hcount := attempts_steps h [input]
            simp only [steps, List.append_nil] at hcount heffects
            have hfirst := hothers.symm.trans (List.nil_append _).symm
            rw [ih (h.step input) hfirst, ← hcount, ← heffects]
            simp [Function.comp_def]
        | cons entry others =>
            obtain ⟨rfl, -⟩ := List.cons.inj hothers
            obtain ⟨first, second, hstep, rfl, hsecond⟩ := List.map_eq_append_iff.mp heffects
            obtain ⟨effect, remaining, rfl, hentry, -⟩ := List.map_eq_cons_iff.mp hsecond
            obtain ⟨rfl, rfl⟩ := Prod.mk.inj hentry
            have hsend : .send message ∈ (s.step input).2 := by simp [hstep]
            obtain ⟨hattempts, hopen⟩ := (step_attempts h input).resolve_right fun hopening => by
              simp [hopening.2] at hsend
            rw [hstep, List.mem_append, not_or] at hopen
            rw [hattempts, List.map_map, Function.comp_def, List.map_id',
              List.count_eq_zero.mpr hopen.1, Nat.add_zero]

/-- The attempts in which connections were asked for, in their order. -/
def askedIn (effects : List (Nat × Effect)) : List Nat :=
  (effects.filter (·.2 = .openTransport)).map Prod.fst

theorem askedIn_attributed (h : Tidy s) (inputs : List Input) :
    askedIn (s.attributed inputs) =
      List.range' (s.attempts + 1) ((s.steps inputs).2.count .openTransport) := by
  induction inputs generalizing s with
  | nil => rfl
  | cons input rest ih =>
      have hrest := ih (h.step input)
      rw [steps, List.count_append]
      rcases step_attempts h input with ⟨hattempts, hopen⟩ | ⟨hattempts, heffects⟩
      · have hnone : (s.step input).2.filter (· = .openTransport) = [] := by
          refine List.filter_eq_nil_iff.mpr fun effect hmem => ?_
          simp only [decide_eq_true_eq]
          rintro rfl
          exact hopen hmem
        rw [List.count_eq_zero.mpr hopen, Nat.zero_add, ← hattempts, ← hrest]
        simp [askedIn, attributed, List.filter_map, Function.comp_def, hnone]
      · have hcount : ([.stateChanged .awaitingConnect, .openTransport] : List Effect).count
            .openTransport = 1 := rfl
        rw [hattempts] at hrest
        rw [heffects, hcount, Nat.add_comm 1, List.range'_succ, ← hrest]
        simp [askedIn, attributed, heffects, hattempts]

end Session

/-! ## Records without events from inside -/

def Call.wanted : Call → Bool
  | .submit input => input.wanted
  | .event _ _ => false

namespace Dispatch

variable {σ : Type} {h : Host σ} {start d e next : Dispatch σ} {inputs : List Input}
  {taken : List Effect} {generations : List (Option Nat)}

/-- A record in which the host, while it is called, only passes on what an application wants.
Whatever happens to its connections, it tells from outside. -/
inductive Serial (h : Host σ) (start : Dispatch σ) :
    List Input → List Effect → List (Option Nat) → Dispatch σ → Prop where
  | start : Serial h start [] [] [] start
  | elsewhere {inputs : List Input} {taken : List Effect} {generations : List (Option Nat)}
      {d : Dispatch σ} (serial : Serial h start inputs taken generations d)
      (idle : d.stage = .idle) (host : σ) (kept : h.generation host = h.generation d.host) :
      Serial h start inputs taken generations { d with host }
  | call {inputs : List Input} {taken : List Effect} {generations : List (Option Nat)}
      {d : Dispatch σ} (serial : Serial h start inputs taken generations d)
      (idle : d.stage = .idle) (call : Call) :
      Serial h start (inputs ++ (d.input? h call).toList) taken generations (d.accept h call)
  | step {inputs : List Input} {taken : List Effect} {generations : List (Option Nat)}
      {d next : Dispatch σ} (serial : Serial h start inputs taken generations d)
      (hstep : d.step? h = some next)
      (hwanted : ∀ hostCall failure call, d.stage = .calling hostCall failure →
        (h.resume d.session d.host).1 = some call → call.wanted) :
      Serial h start (inputs ++ (d.fed? h).toList) (taken ++ d.due?.toList)
        (generations ++ if d.due? = some .openTransport then [h.assigned? d.host] else []) next

theorem Serial.step_alone (hserial : Serial h start inputs taken generations d)
    (hstep : d.step? h = some next) (halone : (h.resume d.session d.host).1 = none) :
    Serial h start (inputs ++ (d.fed? h).toList) (taken ++ d.due?.toList)
      (generations ++ if d.due? = some .openTransport then [h.assigned? d.host] else []) next := by
  refine hserial.step hstep fun _ _ _ _ hcall => ?_
  rw [halone] at hcall
  contradiction

theorem Serial.ledger (hserial : Serial h start inputs taken generations d) :
    ∃ calls, Ledger h start inputs taken calls generations d := by
  induction hserial with
  | start => exact ⟨_, .start⟩
  | elsewhere serial idle host kept ih =>
      obtain ⟨calls, hledger⟩ := ih
      exact ⟨calls, hledger.elsewhere idle host kept⟩
  | call serial idle call ih =>
      obtain ⟨calls, hledger⟩ := ih
      exact ⟨calls, hledger.call idle call⟩
  | step serial hstep hwanted ih =>
      obtain ⟨calls, hledger⟩ := ih
      exact ⟨_, hledger.step hstep⟩

/-- All messages that are waiting find a connection, and an attached session will still have one
when they have been sent. -/
def Ready (h : Host σ) (d : Dispatch σ) : Prop :=
  ∃ final, Served (h.generation d.host).isSome d.queue final ∧
    (d.session.status = .attached → final = true)

theorem Ready.of_same (hready : Ready h d)
    (hgeneration : h.generation e.host = h.generation d.host) (hsession : e.session = d.session)
    (hqueue : e.queue = d.queue) : Ready h e := by
  rw [Ready, hgeneration, hsession, hqueue]
  exact hready

theorem Ready.fed {input : Option Input} (hready : Ready h d) (hfed : Fed input d e)
    (hgeneration : h.generation e.host = h.generation d.host)
    (hsupplied : ∀ given, input = some given → ∀ present,
      Served (h.generation d.host).isSome d.queue present →
      (d.session.status = .attached → present = true) → d.session.Supplied present given) :
    Ready h e := by
  cases input with
  | none =>
      have hqueue := hfed.queue
      simp only [Option.toList_none, Session.steps, List.append_nil] at hqueue
      exact hready.of_same hgeneration hfed.session hqueue
  | some given =>
      obtain ⟨present, hwaiting, hattached⟩ := hready
      obtain ⟨final, hmore, hkept⟩ := hsupplied given rfl present hwaiting hattached
      refine ⟨final, ?_, ?_⟩
      · rw [hgeneration, hfed.queue]
        simpa [Session.steps] using hwaiting.append hmore
      · rw [hfed.session]
        exact hkept

theorem Ready.executed (hslotted : h.Slotted) {effect : Effect} {rest : List Effect}
    (hready : Ready h d) (hqueue : d.queue = effect :: rest) :
    Ready h ({ d with queue := rest }.execute h effect) := by
  obtain ⟨hsession, hrest, -⟩ := execute_frame h effect { d with queue := rest }
  obtain ⟨final, hserved, hattached⟩ := hready
  rw [hqueue] at hserved
  have hother (hopen : effect ≠ .openTransport) (hclose : effect ≠ .closeTransport)
      (hmore : Served (h.generation d.host).isSome rest final) :
      Ready h ({ d with queue := rest }.execute h effect) := by
    refine ⟨final, ?_, ?_⟩
    · rw [hrest, generation_execute hslotted hopen hclose]
      exact hmore
    · rw [hsession]
      exact hattached
  cases effect with
  | openTransport =>
      obtain ⟨more, hmore, hkept⟩ := hserved.exists_mono
        (h.generation ({ d with queue := rest }.execute h .openTransport).host).isSome
      exact ⟨more, hmore, fun hstill => hkept (hattached hstill)⟩
  | closeTransport =>
      have hclosed : h.generation ({ d with queue := rest }.execute h .closeTransport).host = none :=
        hslotted.close d.host
      refine ⟨final, ?_, hattached⟩
      rw [hclosed]
      exact hserved
  | send message => exact hother (by simp) (by simp) hserved.2
  | scheduleReconnect delay | stateChanged status | deliver payload | report error =>
      exact hother (by simp) (by simp) hserved

/-! ## The connection of a message -/

theorem of_due {effect : Effect} (hdue : d.due? = some effect) :
    d.stage = .draining ∧ ∃ rest, d.queue = effect :: rest := by
  unfold due? at hdue
  split at hdue
  · next hstage => exact ⟨hstage, List.head?_eq_some_iff.mp hdue⟩
  all_goals contradiction

/-- The host has the connection that it assigned in the attempt in which the session came up with
the message that comes next. -/
def OwnConnection (h : Host σ) (effects : List (Nat × Effect)) (taken : List Effect)
    (generations : List (Option Nat)) (message : ClientMessage) (host : σ) : Prop :=
  ∃ attempt index generation : Nat,
    effects[taken.length]? = some (attempt, .send message) ∧
    (Session.askedIn effects)[index]? = some attempt ∧
    generations[index]? = some (some generation) ∧
    h.generation host = some generation

section

variable (hslotted : h.Slotted) (hoccupying : h.Occupying) (htidy : Session.Tidy start.session)
  (hempty : start.queue = []) (hdown : start.session.status.live = false)
  (hnone : h.generation start.host = none)

include hslotted

theorem Stepped.ready (hstepped : Stepped h d next) (hready : Ready h d)
    (hwanted : ∀ hostCall failure call, d.stage = .calling hostCall failure →
      (h.resume d.session d.host).1 = some call → call.wanted) : Ready h next := by
  cases hstepped with
  | rested stage queue => exact hready.of_same rfl rfl rfl
  | executed effect rest stage queue => exact hready.executed hslotted queue
  | called call failure inner host stage resume =>
      have hresume := hslotted.resume d.session d.host
      have hinner := hwanted call failure inner stage
      rw [resume] at hresume hinner
      have hkept : Ready h { d with host } := hready.of_same hresume rfl rfl
      refine hkept.fed (fed_accept h inner _) (generation_accept hslotted inner _)
        fun given hgiven present _ hpresent => Session.supplied_wanted ?_ hpresent
      cases inner with
      | submit input =>
          obtain rfl : input = given := Option.some.inj hgiven
          exact hinner rfl
      | event generation event => exact absurd (hinner rfl) Bool.false_ne_true
  | finished call failure host stage resume =>
      have hresume := hslotted.resume d.session d.host
      rw [resume] at hresume
      have hkept : Ready h { d with host } := hready.of_same hresume rfl rfl
      refine hkept.fed (fed_finish h call failure _) (generation_finish hslotted call failure _)
        fun given hgiven present _ hpresent => ?_
      cases failure with
      | none => contradiction
      | some reason =>
          obtain rfl : .lost .errored = given := Option.some.inj hgiven
          exact Session.supplied_lost present .errored _

include hoccupying htidy hempty hdown hnone

theorem Serial.ready (hserial : Serial h start inputs taken generations d) : Ready h d := by
  induction hserial with
  | start =>
      refine ⟨_, by rw [hempty]; rfl, fun hattached => ?_⟩
      simp [hattached, Status.live] at hdown
  | elsewhere serial idle host kept ih => exact ih.of_same kept rfl rfl
  | @call inputs taken generations d serial idle call ih =>
      -- At rest, the host has a connection just when the session thinks so, so any input is fine.
      obtain ⟨calls, hledger⟩ := serial.ledger
      have hlive := hledger.present_iff_live hslotted hoccupying htidy hempty hdown hnone idle
      have hsound : d.session.buffer.Sound := by
        rw [(hledger.trace.ordered hempty).session]
        exact (htidy.steps inputs).sound
      refine ih.fed (fed_accept h call d) (generation_accept hslotted call d)
        fun given hgiven present hserved _ => ?_
      rw [(hledger.trace.ordered hempty).idle idle] at hserved
      obtain rfl : (h.generation d.host).isSome = present := hserved
      rw [Bool.eq_iff_iff.mpr hlive]
      exact Session.supplied_live hsound given
  | step serial hstep hwanted ih => exact (step?_stepped hstep).ready hslotted ih hwanted

theorem Serial.own_connection (hfirst : start.session.attempts = 0)
    (hserial : Serial h start inputs taken generations d) {message : ClientMessage}
    (hdue : d.due? = some (.send message)) :
    OwnConnection h (start.session.attributed inputs) taken generations message d.host := by
  obtain ⟨calls, hledger⟩ := hserial.ledger
  have heffects := (hledger.trace.ordered hempty).effects
  obtain ⟨final, hserved, -⟩ :=
    hserial.ready hslotted hoccupying htidy hempty hdown hnone
  obtain ⟨-, rest, hqueue⟩ := of_due hdue
  rw [hqueue] at hserved heffects
  obtain ⟨generation, hgeneration⟩ := Option.isSome_iff_exists.mp hserved.1
  obtain ⟨-, hlast⟩ := hledger.present hslotted htidy hempty hnone generation hgeneration
  -- The message stands right after the effects that were taken out.
  have hattributed := Session.map_attributed inputs start.session
  rw [← heffects] at hattributed
  obtain ⟨earlier, others, hsplit, hearlier, hothers⟩ := List.map_eq_append_iff.mp hattributed
  obtain ⟨⟨attempt, effect⟩, later, rfl, rfl, -⟩ := List.map_eq_cons_iff.mp hothers
  have hattempt := Session.attempt_of_send htidy hsplit
  rw [hfirst, Nat.zero_add, hearlier] at hattempt
  have hlength := hledger.length_eq
  refine ⟨attempt, generations.length - 1, generation, ?_, ?_, ?_, hgeneration⟩
  · rw [hsplit, ← hearlier, List.length_map]
    simp
  · have hsome : 0 < generations.length := by
      obtain ⟨front, hfront⟩ := List.getLast?_eq_some_iff.mp hlast
      simp [hfront]
    rw [Session.askedIn_attributed htidy, hfirst, ← heffects, List.count_append,
      List.getElem?_range' (by omega)]
    simp only [Option.some.injEq]
    omega
  · rwa [← List.getLast?_eq_getElem?]

end

end Dispatch

end ResumableSession
