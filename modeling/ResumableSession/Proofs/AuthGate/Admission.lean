import ResumableSession.AuthGate
import ResumableSession.Proofs.Frame.Search

/-!
Whom the gate lets in.

A gate does not remember that it has turned somebody away.  A push that fails has taken one
message, and the next push goes on with the message after it.  So the first message decides only
as long as no push has failed.  After that, the gate waits for the first message that tells a
token, and every push moves it on by one message at most.

`Progress` is the invariant: what the gate has read of the bytes, and what came of it.
-/

namespace ResumableSession.AuthGate

abbrev Answer := Except HandshakeError (Option String)

/-- Pushes one fragment after the other, also after a push has failed. -/
def pushAll (fragments : List (List UInt8)) (g : AuthGate) : List Answer × AuthGate :=
  match fragments with
  | [] => ([], g)
  | fragment :: rest =>
      let (answer, g) := g.push fragment
      let (answers, g) := g.pushAll rest
      (answer :: answers, g)

def refusals (answers : List Answer) : List HandshakeError :=
  answers.filterMap fun
    | .error error => some error
    | .ok _ => none

def tokens (answers : List Answer) : List String :=
  answers.filterMap fun
    | .error _ => none
    | .ok token => token

theorem readToken_eq_ok_iff {line : Except Frame.Error String} {token : String} :
    readToken line = .ok token ↔
      ∃ text, line = .ok text ∧ ClientMessage.decode text = .ok (.auth token) := by
  constructor
  · intro h
    unfold readToken at h
    split at h
    · contradiction
    · next text =>
        split at h
        · contradiction
        · next told hdecode =>
            obtain rfl := Except.ok.inj h
            exact ⟨text, rfl, hdecode⟩
        · contradiction
  · rintro ⟨text, rfl, hdecode⟩
    simp only [readToken, hdecode]

/-! ## A single push -/

section

variable {g : AuthGate} {fragment : List UInt8} {buffer : Frame.Buffer}
  {line : Except Frame.Error String}

theorem push_unfinished (hauth : g.token = none)
    (hnext : (g.buffer.push fragment).next = (none, buffer)) :
    g.push fragment = (.ok none, { g with buffer }) := by
  simp [push, isAuthenticated, hauth, hnext]

theorem push_refused {error : HandshakeError} (hauth : g.token = none)
    (hnext : (g.buffer.push fragment).next = (some line, buffer))
    (hread : readToken line = .error error) :
    g.push fragment = (.error error, { g with buffer }) := by
  simp [push, isAuthenticated, hauth, hnext, hread]

theorem push_admitted {token : String} (hauth : g.token = none)
    (hnext : (g.buffer.push fragment).next = (some line, buffer))
    (hread : readToken line = .ok token) :
    g.push fragment = (.ok (some token), { buffer, token := some token }) := by
  simp [push, isAuthenticated, hauth, hnext, hread]

end

/-! ## What a gate has read -/

variable {stream : List UInt8} {answers : List Answer} {g : AuthGate}
  {taken : List (Except Frame.Error String)}

/-- The messages that a gate has taken from its bytes so far: those that it refused, and then the
one with the token. -/
structure Progress (stream : List UInt8) (answers : List Answer) (g : AuthGate)
    (taken : List (Except Frame.Error String)) : Prop where
  sound : g.buffer.Sound
  unread : Frame.Queue.drain stream =
    (taken ++ (Frame.Queue.drain g.residual).1, (Frame.Queue.drain g.residual).2)
  readings : taken.map readToken = (refusals answers).map .error ++ g.token.toList.map .ok
  returned : tokens answers = g.token.toList
  waiting : taken = [] → Frame.newline ∉ g.residual

theorem Progress.new : Progress [] [] new [] where
  sound := .ofResidual []
  unread := rfl
  readings := rfl
  returned := rfl
  waiting _ := List.not_mem_nil

theorem refusals_append (answers : List Answer) (answer : Answer) :
    refusals (answers ++ [answer]) = refusals answers ++ refusals [answer] :=
  List.filterMap_append

theorem tokens_append (answers : List Answer) (answer : Answer) :
    tokens (answers ++ [answer]) = tokens answers ++ tokens [answer] :=
  List.filterMap_append

theorem Progress.drain_push (h : Progress stream answers g taken) (fragment : List UInt8) :
    Frame.Queue.drain (stream ++ fragment) =
      (taken ++ (Frame.Queue.drain (g.residual ++ fragment)).1,
        (Frame.Queue.drain (g.residual ++ fragment)).2) := by
  rw [Frame.Queue.drain_append stream, h.unread, Frame.Queue.drain_append g.residual,
    List.append_assoc]

theorem Progress.taken_ne_nil (h : Progress stream answers g taken) (hauth : g.isAuthenticated) :
    taken ≠ [] := by
  rintro rfl
  have hreadings := h.readings
  cases htoken : g.token with
  | none =>
      rw [isAuthenticated, htoken] at hauth
      contradiction
  | some token => simp [htoken] at hreadings

theorem Progress.keeps (h : Progress stream answers g taken) (hauth : g.isAuthenticated)
    (fragment : List UInt8) :
    Progress (stream ++ fragment) (answers ++ [(g.push fragment).1]) (g.push fragment).2 taken := by
  have hpush : g.push fragment = (.ok none, { g with buffer := g.buffer.push fragment }) :=
    if_pos hauth
  rw [hpush]
  refine ⟨h.sound.push fragment, ?_, ?_, ?_, fun htaken => absurd htaken (h.taken_ne_nil hauth)⟩
  · rw [h.drain_push, residual, residual, Frame.Buffer.residual_push h.sound]
  · rw [refusals_append, h.readings]
    simp [refusals]
  · rw [tokens_append, h.returned]
    simp [tokens]

theorem Progress.takes (h : Progress stream answers g taken) (hauth : g.token = none)
    (fragment : List UInt8) :
    ∃ more, Progress (stream ++ fragment) (answers ++ [(g.push fragment).1])
      (g.push fragment).2 more := by
  obtain ⟨hqueue, hsound⟩ := Frame.Buffer.next_eq (h.sound.push fragment)
  have hdrain := h.drain_push fragment
  have hreadings := h.readings
  have hreturned := h.returned
  rw [Frame.Buffer.residual_push h.sound] at hqueue
  -- What the buffer hands out next is what is next in the unread bytes.
  cases hnext : (g.buffer.push fragment).next with
  | mk answer buffer =>
      rw [hnext] at hqueue hsound
      cases answer with
      | none =>
          have hqueue : Frame.Queue.next (g.residual ++ fragment) = (none, buffer.residual) :=
            hqueue.symm
          have hsame := Frame.Queue.eq_of_next_none hqueue
          rw [push_unfinished hauth hnext]
          refine ⟨taken, hsound, ?_, ?_, ?_, fun _ => ?_⟩
          · rw [hdrain, ← hsame]
            rfl
          · rw [refusals_append, hreadings]
            simp [refusals]
          · rw [tokens_append, hreturned]
            simp [tokens]
          · rw [residual, hsame]
            exact Frame.Queue.not_mem_of_next_none hqueue
      | some line =>
          have hqueue : Frame.Queue.next (g.residual ++ fragment) = (some line, buffer.residual) :=
            hqueue.symm
          rw [Frame.Queue.drain_some hqueue] at hdrain
          cases hread : readToken line with
          | error error =>
              rw [push_refused hauth hnext hread]
              refine ⟨taken ++ [line], hsound, ?_, ?_, ?_, fun htaken => by simp at htaken⟩
              · rw [hdrain, List.append_assoc]
                rfl
              · rw [refusals_append, List.map_append, hreadings, hauth]
                simp [refusals, hread]
              · rw [tokens_append, hreturned]
                simp [tokens]
          | ok token =>
              rw [push_admitted hauth hnext hread]
              refine ⟨taken ++ [line], hsound, ?_, ?_, ?_, fun htaken => by simp at htaken⟩
              · rw [hdrain, List.append_assoc]
                rfl
              · rw [refusals_append, List.map_append, hreadings, hauth]
                simp [refusals, hread]
              · rw [tokens_append, hreturned, hauth]
                simp [tokens]

theorem Progress.push (h : Progress stream answers g taken) (fragment : List UInt8) :
    ∃ more, Progress (stream ++ fragment) (answers ++ [(g.push fragment).1])
      (g.push fragment).2 more := by
  cases htoken : g.token with
  | none => exact h.takes htoken fragment
  | some token => exact ⟨taken, h.keeps (by simp [isAuthenticated, htoken]) fragment⟩

theorem Progress.pushAll (h : Progress stream answers g taken) (fragments : List (List UInt8)) :
    ∃ more, Progress (stream ++ fragments.flatten) (answers ++ (g.pushAll fragments).1)
      (g.pushAll fragments).2 more := by
  induction fragments generalizing stream answers g taken with
  | nil =>
      rw [List.flatten_nil, List.append_nil]
      exact ⟨taken, by rwa [AuthGate.pushAll, List.append_nil]⟩
  | cons fragment rest ih =>
      obtain ⟨middle, hmiddle⟩ := h.push fragment
      obtain ⟨more, hmore⟩ := ih hmiddle
      rw [List.append_assoc, List.append_assoc] at hmore
      exact ⟨more, hmore⟩

/-! ## What it comes to -/

theorem Progress.first_message (h : Progress stream answers g taken) (token : String) :
    (∃ first, (Frame.Queue.drain stream).1.head? = some first ∧ readToken first = .ok token) ↔
      refusals answers = [] ∧ g.token = some token := by
  have hreadings := h.readings
  rw [h.unread]
  cases taken with
  | nil =>
      -- No message has been finished yet, or it would have been taken.
      have hnone := Frame.Queue.drain_none (Frame.Queue.next_of_not_mem (h.waiting rfl))
      have hnothing : refusals answers = [] ∧ g.token = none := by
        simpa using hreadings
      simp [hnone, hnothing]
  | cons first rest =>
      rw [List.cons_append, List.head?_cons]
      cases hrefusals : refusals answers with
      | nil =>
          cases htoken : g.token with
          | none => simp [hrefusals, htoken] at hreadings
          | some told =>
              have hfirst : readToken first = .ok told := by
                simp only [hrefusals, htoken, List.map_cons, List.map_nil, List.nil_append,
                  Option.toList_some, List.cons.injEq] at hreadings
                exact hreadings.1
              simp [hfirst]
      | cons error others =>
          have hfirst : readToken first = .error error := by
            simp only [hrefusals, List.map_cons, List.cons_append, List.cons.injEq] at hreadings
            exact hreadings.1
          simp [hfirst]

theorem Progress.refused_messages (h : Progress stream answers g taken) :
    ((Frame.Queue.drain stream).1.take (refusals answers).length).map readToken =
      (refusals answers).map .error := by
  have hlength := congrArg List.length h.readings
  simp only [List.length_map, List.length_append] at hlength
  rw [h.unread, List.take_append_of_le_length (by omega), List.map_take, h.readings,
    List.take_left' (List.length_map _)]

theorem Progress.admitting_message (h : Progress stream answers g taken) {token : String}
    (htoken : g.token = some token) :
    ∃ line, (Frame.Queue.drain stream).1[(refusals answers).length]? = some line ∧
      readToken line = .ok token := by
  have hreading : (taken.map readToken)[(refusals answers).length]? = some (.ok token) := by
    rw [h.readings, htoken, List.getElem?_append_right (by simp)]
    simp
  rw [List.getElem?_map] at hreading
  obtain ⟨line, hline, hread⟩ := Option.map_eq_some_iff.mp hreading
  obtain ⟨hlt, -⟩ := List.getElem?_eq_some_iff.mp hline
  refine ⟨line, ?_, hread⟩
  rw [h.unread, List.getElem?_append_left hlt, hline]

/-- The first message tells a token exactly if the gate has that token and no push has failed.
Every push that fails has taken one message, and the gate lets in whoever tells a token in the
message after these. -/
theorem admission (fragments : List (List UInt8)) :
    let answers : List Answer := (new.pushAll fragments).1
    let g := (new.pushAll fragments).2
    let messages := (Frame.Queue.drain fragments.flatten).1
    (∀ token,
      (∃ text, messages.head? = some (.ok text) ∧ ClientMessage.decode text = .ok (.auth token)) ↔
        refusals answers = [] ∧ g.token = some token) ∧
    (messages.take (refusals answers).length).map readToken = (refusals answers).map .error ∧
    (∀ token, g.token = some token →
      ∃ text, messages[(refusals answers).length]? = some (.ok text) ∧
        ClientMessage.decode text = .ok (.auth token)) ∧
    tokens answers = g.token.toList ∧ (g.isAuthenticated ↔ ∃ token, g.token = some token) := by
  intro answers g messages
  obtain ⟨taken, h⟩ := Progress.new.pushAll fragments
  have h : Progress fragments.flatten answers g taken := h
  refine ⟨fun token => ?_, h.refused_messages, fun token htoken => ?_, h.returned, ?_⟩
  · rw [← h.first_message token]
    simp only [readToken_eq_ok_iff]
    constructor
    · rintro ⟨text, hfirst, hdecode⟩
      exact ⟨_, hfirst, text, rfl, hdecode⟩
    · rintro ⟨_, hfirst, text, rfl, hdecode⟩
      exact ⟨text, hfirst, hdecode⟩
  · obtain ⟨line, hline, hread⟩ := h.admitting_message htoken
    obtain ⟨text, rfl, hdecode⟩ := readToken_eq_ok_iff.mp hread
    exact ⟨text, hline, hdecode⟩
  · exact Option.isSome_iff_exists

/-- After garbage, which it has refused, the gate lets in whoever comes next. -/
theorem admitted_after_refusal :
    let fragments := [Text.Utf8.encode (Frame.wrap "\x7boops\x7d"),
      Text.Utf8.encode (ClientMessage.auth "t").frame]
    let g := (new.pushAll fragments).2
    let messages := (Frame.Queue.drain fragments.flatten).1
    refusals (new.pushAll (fragments.take 1)).1 ≠ [] ∧ g.token = some "t" ∧ g.isAuthenticated ∧
      ¬ ∃ text token, messages.head? = some (.ok text) ∧
        ClientMessage.decode text = .ok (.auth token) := by
  intro fragments g messages
  have hfirst : messages.head? = some (.ok "\x7boops\x7d") := by decide +kernel
  have hgarbage : (ClientMessage.decode "\x7boops\x7d").isOk = false := by decide +kernel
  refine ⟨by decide +kernel, by decide +kernel, by decide +kernel, ?_⟩
  rintro ⟨text, token, htext, hdecode⟩
  obtain rfl := Except.ok.inj (Option.some.inj (hfirst.symm.trans htext))
  rw [hdecode] at hgarbage
  contradiction

end ResumableSession.AuthGate
