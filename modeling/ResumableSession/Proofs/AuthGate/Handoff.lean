import ResumableSession.Proofs.AuthGate.Admission
import ResumableSession.Proofs.Frame.Operations
import ResumableSession.Proofs.Message.RoundTrip

/-!
What the gate leaves to the reader that takes over.

A gate that gets its token in the first message reads up to the end of that message and no
further.  It keeps all that follows as bytes, without a look at them, until another reader goes
on from there.  That reader finds what it would have found without a gate.
-/

namespace ResumableSession

/-! ## Reading to the end -/

namespace Frame.Buffer

/-- All that is read on the way and at the end, and the bytes that are left. -/
def readAll (operations : List Operation) (b : Buffer) :
    List (Except Error String) × List UInt8 :=
  let (answers, last) := b.run operations
  (answers.filterMap id ++ last.drain.1, last.drain.2.residual)

theorem readAll_eq {b : Buffer} (h : Sound b) (operations : List Operation) :
    b.readAll operations = Queue.drain (b.residual ++ operations.flatMap Operation.pushed) := by
  obtain ⟨hrun, hsound⟩ := run_eq h operations
  obtain ⟨hdrain, -⟩ := drain_eq hsound
  rw [Queue.drain_run, ← hrun, ← hdrain]
  rfl

end Frame.Buffer

namespace AuthGate

variable {stream bytes fragment line part : List UInt8} {token : String} {g : AuthGate}

theorem first_newline {first second : List UInt8} (hfirst : Frame.newline ∈ first)
    (hline : Frame.newline ∉ line) (h : first ++ second = line ++ Frame.newline :: part) :
    ∃ more, first = line ++ Frame.newline :: more ∧ part = more ++ second := by
  rcases List.append_eq_append_iff.mp h with ⟨more, rfl, -⟩ | ⟨more, rfl, hmore⟩
  · exact absurd (List.mem_append_left more hfirst) hline
  · cases more with
    | nil =>
        rw [List.append_nil] at hfirst
        exact absurd hfirst hline
    | cons byte more =>
        obtain ⟨rfl, rfl⟩ := List.cons.inj hmore
        exact ⟨more, rfl, rfl⟩

/-! ## Before the token -/

structure Waiting (stream : List UInt8) (g : AuthGate) : Prop where
  sound : g.buffer.Sound
  token : g.token = none
  residual : g.residual = stream
  unfinished : Frame.newline ∉ stream

structure Admitted (token : String) (bytes : List UInt8) (g : AuthGate) : Prop where
  sound : g.buffer.Sound
  token : g.token = some token
  residual : g.residual = bytes

theorem Waiting.new : Waiting [] new where
  sound := .ofResidual []
  token := rfl
  residual := rfl
  unfinished := List.not_mem_nil

theorem Waiting.push (h : Waiting stream g) (hfragment : Frame.newline ∉ fragment) :
    (g.push fragment).1 = .ok none ∧ Waiting (stream ++ fragment) (g.push fragment).2 := by
  have hunfinished : Frame.newline ∉ stream ++ fragment := by
    simp [h.unfinished, hfragment]
  have hresidual : (g.buffer.push fragment).residual = stream ++ fragment := by
    rw [Frame.Buffer.residual_push h.sound, ← h.residual]
    rfl
  obtain ⟨hqueue, hsound⟩ := Frame.Buffer.next_eq (h.sound.push fragment)
  rw [hresidual, Frame.Queue.next_of_not_mem hunfinished] at hqueue
  obtain ⟨hnone, hleft⟩ := Prod.mk.inj hqueue
  have hnext : (g.buffer.push fragment).next = (none, (g.buffer.push fragment).next.2) :=
    Prod.ext hnone rfl
  rw [push_unfinished h.token hnext]
  exact ⟨rfl, hsound, h.token, hleft, hunfinished⟩

theorem Waiting.push_first_line (h : Waiting stream g) (hline : Frame.newline ∉ line)
    (hread : readToken (Frame.Queue.read line) = .ok token)
    (hstream : stream ++ fragment = line ++ Frame.newline :: part) :
    (g.push fragment).1 = .ok (some token) ∧ Admitted token part (g.push fragment).2 := by
  have hresidual : (g.buffer.push fragment).residual = line ++ Frame.newline :: part := by
    rw [Frame.Buffer.residual_push h.sound, ← hstream, ← h.residual]
    rfl
  obtain ⟨hqueue, hsound⟩ := Frame.Buffer.next_eq (h.sound.push fragment)
  rw [hresidual, Frame.Queue.next_line hline] at hqueue
  obtain ⟨hsome, hleft⟩ := Prod.mk.inj hqueue
  have hnext : (g.buffer.push fragment).next =
      (some (Frame.Queue.read line), (g.buffer.push fragment).next.2) := Prod.ext hsome rfl
  rw [push_admitted h.token hnext hread]
  exact ⟨rfl, hsound, rfl, hleft⟩

/-! ## After the token -/

theorem Admitted.push (h : Admitted token bytes g) (fragment : List UInt8) :
    (g.push fragment).1 = .ok none ∧ Admitted token (bytes ++ fragment) (g.push fragment).2 := by
  have hauth : g.isAuthenticated := by simp [isAuthenticated, h.token]
  have hpush : g.push fragment = (.ok none, { g with buffer := g.buffer.push fragment }) :=
    if_pos hauth
  have hresidual : (g.buffer.push fragment).residual = bytes ++ fragment := by
    rw [Frame.Buffer.residual_push h.sound, ← h.residual]
    rfl
  rw [hpush]
  exact ⟨rfl, h.sound.push fragment, h.token, hresidual⟩

theorem Admitted.pushAll (h : Admitted token bytes g) (fragments : List (List UInt8)) :
    (g.pushAll fragments).1 = fragments.map (fun _ => .ok none) ∧
      Admitted token (bytes ++ fragments.flatten) (g.pushAll fragments).2 := by
  induction fragments generalizing bytes g with
  | nil =>
      rw [List.flatten_nil, List.append_nil]
      exact ⟨rfl, h⟩
  | cons fragment rest ih =>
      obtain ⟨hanswer, hkeeps⟩ := h.push fragment
      obtain ⟨hanswers, hlast⟩ := ih hkeeps
      rw [List.append_assoc] at hlast
      exact ⟨List.cons_eq_cons.mpr ⟨hanswer, hanswers⟩, hlast⟩

theorem Waiting.pushAll (h : Waiting stream g) (hline : Frame.newline ∉ line)
    (hread : readToken (Frame.Queue.read line) = .ok token) {fragments : List (List UInt8)}
    (hfragments : stream ++ fragments.flatten = line ++ Frame.newline :: part) :
    (∃ before fragment after, fragments = before ++ fragment :: after ∧
      Frame.newline ∉ before.flatten ∧ Frame.newline ∈ fragment ∧
      (g.pushAll fragments).1 = before.map (fun _ => .ok none) ++
        .ok (some token) :: after.map fun _ => .ok none) ∧
    Admitted token part (g.pushAll fragments).2 := by
  induction fragments generalizing stream g with
  | nil =>
      rw [List.flatten_nil, List.append_nil] at hfragments
      exact absurd (by simp [hfragments]) h.unfinished
  | cons fragment rest ih =>
      rw [List.flatten_cons, ← List.append_assoc] at hfragments
      by_cases hfragment : Frame.newline ∈ fragment
      · obtain ⟨more, hfirst, rfl⟩ :=
          first_newline (List.mem_append_right stream hfragment) hline hfragments
        obtain ⟨hanswer, hadmitted⟩ := h.push_first_line hline hread hfirst
        obtain ⟨hanswers, hlast⟩ := hadmitted.pushAll rest
        exact ⟨⟨[], fragment, rest, rfl, List.not_mem_nil, hfragment,
          List.cons_eq_cons.mpr ⟨hanswer, hanswers⟩⟩, hlast⟩
      · obtain ⟨hanswer, hwaits⟩ := h.push hfragment
        obtain ⟨⟨before, key, after, rfl, hbefore, hkey, hanswers⟩, hlast⟩ := ih hwaits hfragments
        refine ⟨⟨fragment :: before, key, after, rfl, ?_, hkey, ?_⟩, hlast⟩
        · simp [hfragment, hbefore]
        · exact List.cons_eq_cons.mpr ⟨hanswer, hanswers⟩

/-! ## The first message -/

theorem newline_not_mem_auth (token : String) :
    Frame.newline ∉ Text.Utf8.encode (ClientMessage.auth token).encode :=
  Frame.newline_not_mem_encode (Json.visible_render _).newline_not_mem

theorem readToken_auth (token : String) :
    readToken (Frame.Queue.read (Text.Utf8.encode (ClientMessage.auth token).encode)) =
      .ok token := by
  rw [← Frame.decodeLine_eq_read, Frame.decodeLine_encode]
  have hexact : (ClientMessage.auth token).Exact := trivial
  exact readToken_eq_ok_iff.mpr ⟨_, rfl, (ClientMessage.decode_encode_iff hexact).mpr nofun⟩

theorem encode_frame_auth (token : String) (rest : List UInt8) :
    Text.Utf8.encode (ClientMessage.auth token).frame ++ rest =
      Text.Utf8.encode (ClientMessage.auth token).encode ++ Frame.newline :: rest := by
  rw [ClientMessage.frame, Frame.encode_wrap, List.append_assoc]
  rfl

/--
The token comes with the fragment that finishes the first message, and only there.  From then on
the gate has exactly what came after that message.  A buffer that goes on from it reads what a
buffer reads that is given all of this, however either of them is used.
-/
theorem handoff_seamless (token : String) (rest : List UInt8) (fragments : List (List UInt8))
    (hfragments : fragments.flatten =
      Text.Utf8.encode (ClientMessage.auth token).frame ++ rest) :
    (∃ before fragment after, fragments = before ++ fragment :: after ∧
      Frame.newline ∉ before.flatten ∧ Frame.newline ∈ fragment ∧
      (new.pushAll fragments).1 = before.map (fun _ => .ok none) ++
        .ok (some token) :: after.map fun _ => .ok none) ∧
    ∀ before after, fragments = before ++ after → Frame.newline ∈ before.flatten →
      let g := (new.pushAll before).2
      ∃ part, before.flatten = Text.Utf8.encode (ClientMessage.auth token).frame ++ part ∧
        rest = part ++ after.flatten ∧ g.token = some token ∧ g.residual = part ∧
        ∀ handed direct, handed.flatMap Frame.Operation.pushed = after.flatten →
          direct.flatMap Frame.Operation.pushed = rest →
          (Frame.Buffer.ofResidual g.residual).readAll handed =
            Frame.Buffer.empty.readAll direct := by
  have hline := newline_not_mem_auth token
  have hread := readToken_auth token
  rw [encode_frame_auth] at hfragments
  refine ⟨(Waiting.new.pushAll hline hread hfragments).1, ?_⟩
  rintro before after rfl hbefore g
  rw [List.flatten_append] at hfragments
  obtain ⟨part, hpart, rfl⟩ := first_newline hbefore hline hfragments
  obtain ⟨-, hadmitted⟩ := Waiting.new.pushAll hline hread hpart
  refine ⟨part, ?_, rfl, hadmitted.token, hadmitted.residual, ?_⟩
  · rw [hpart, encode_frame_auth]
  · intro handed direct hhanded hdirect
    have hempty : Frame.Buffer.empty.Sound := .ofResidual []
    rw [Frame.Buffer.readAll_eq (.ofResidual _), Frame.Buffer.readAll_eq hempty,
      Frame.Buffer.residual_ofResidual, hadmitted.residual, hhanded, hdirect]
    rfl

def torn : List (List UInt8) :=
  [Text.Utf8.encode "[\"Auth\",", Text.Utf8.encode "[\"t\"]]\n" ++ [255, 10, 195], [169, 10]]

theorem torn_seamless :
    torn.flatten = Text.Utf8.encode (ClientMessage.auth "t").frame ++ [255, 10, 195, 169, 10] ∧
      (new.pushAll torn).1 = [.ok none, .ok (some "t"), .ok none] ∧
      (Frame.Buffer.ofResidual (new.pushAll (torn.take 2)).2.residual).readAll
          [.next, .push [169, 10]] =
        Frame.Buffer.empty.readAll [.push [255, 10, 195, 169, 10]] := by
  have htorn : torn.flatten =
      Text.Utf8.encode (ClientMessage.auth "t").frame ++ [255, 10, 195, 169, 10] := by
    decide +kernel
  obtain ⟨-, hhandoff⟩ := handoff_seamless "t" [255, 10, 195, 169, 10] torn htorn
  obtain ⟨_, -, -, -, -, hreads⟩ :=
    hhandoff (torn.take 2) [[169, 10]] (by decide +kernel) (by decide +kernel)
  exact ⟨htorn, by decide +kernel, hreads [.next, .push [169, 10]] _ rfl rfl⟩

end AuthGate

end ResumableSession
