import ResumableSession.Proofs.Frame.Operations
import ResumableSession.Proofs.Session.Frame
import ResumableSession.Proofs.Session.Steps

/-!
Messages as lines.

No written form of a message holds a control character, whatever its strings and its payload are.
So each message makes one frame: the text may be wrapped, and a buffer that is given the frame
hands out just that text.
-/

namespace ResumableSession

namespace Frame

/-- A text with one newline, which is its last character. -/
structure IsLine (text : String) : Prop where
  count_eq : text.toList.count '\n' = 1
  last_eq : text.toList.getLast? = some '\n'

/-- A text that makes one message on a stream.  A buffer that has no unread bytes hands out this
text and no other, wherever its bytes are cut and whatever else is done to the buffer. -/
structure Framed (text : String) : Prop where
  visible : ∀ c ∈ text.toList, ' ' ≤ c
  newline_not_mem : '\n' ∉ text.toList
  accepted : wrapChecked text = .ok (wrap text)
  isLine : IsLine (wrap text)
  returned : ∀ residual earlier operations,
    let b := ((Buffer.ofResidual residual).run earlier).2
    b.isEmpty → operations.flatMap Operation.pushed = Text.Utf8.encode (wrap text) →
      (b.run operations).1.filterMap id ++ (b.run operations).2.drain.1 = [.ok text] ∧
        (b.run operations).2.drain.2.isEmpty

variable {text : String}

theorem isLine_wrap (h : '\n' ∉ text.toList) : IsLine (wrap text) := by
  have hwrapped : (wrap text).toList = text.toList ++ ['\n'] := String.toList_push '\n'
  constructor
  · rw [hwrapped, List.count_append, List.count_eq_zero_of_not_mem h]
    rfl
  · rw [hwrapped, List.getLast?_concat]

theorem drain_run_wrapped {b : Buffer} (hsound : b.Sound) (hempty : b.isEmpty)
    (h : '\n' ∉ text.toList) {operations : List Operation}
    (hpushed : operations.flatMap Operation.pushed = Text.Utf8.encode (wrap text)) :
    (b.run operations).1.filterMap id ++ (b.run operations).2.drain.1 = [.ok text] ∧
      (b.run operations).2.drain.2.isEmpty := by
  have hunread : b.residual = [] := by
    rw [← Buffer.isEmpty_residual] at hempty
    exact List.isEmpty_iff.mp hempty
  have hplain : ∀ message ∈ [text], '\n' ∉ message.toList := by simpa using h
  have hqueue := Queue.drain_wrapped hplain
  rw [List.flatMap_singleton] at hqueue
  have hdrain := Buffer.drain_run hsound operations
  rw [hunread, List.nil_append, hpushed, hqueue] at hdrain
  obtain ⟨hmessages, hleft⟩ := Prod.mk.inj hdrain
  refine ⟨hmessages, ?_⟩
  rw [← Buffer.isEmpty_residual, hleft]
  rfl

theorem framed_of_visible (h : Visible text.toList) : Framed text where
  visible := h
  newline_not_mem := h.newline_not_mem
  accepted := if_neg h.newline_not_mem
  isLine := isLine_wrap h.newline_not_mem
  returned residual earlier _ hempty hpushed :=
    drain_run_wrapped (Buffer.run_eq (.ofResidual residual) earlier).2 hempty h.newline_not_mem
      hpushed

end Frame

/-- Every message makes one frame.  So each text that a session sends is one line. -/
theorem messages_framed :
    (∀ m : ClientMessage, Frame.Framed m.encode) ∧ (∀ m : ServerMessage, Frame.Framed m.encode) ∧
    ∀ config inputs message, .send message ∈ ((Session.new config).steps inputs).2 →
      Frame.IsLine message.frame := by
  have hclient (m : ClientMessage) : Frame.Framed m.encode :=
    Frame.framed_of_visible (Json.visible_render _)
  have hserver (m : ServerMessage) : Frame.Framed m.encode :=
    Frame.framed_of_visible (Json.visible_render _)
  exact ⟨hclient, hserver, fun _ _ message _ => (hclient message).isLine⟩

def brokenToken : String := "a\n\"\x01"

def tornToken : List Frame.Operation :=
  [.pushText "[\"Auth\",[\"a\\", .next, .handOff, .pushText "n\\\"\\u0001\"]]\n", .next]

theorem brokenToken_framed :
    let message : ClientMessage := .auth brokenToken
    let session := (Session.new { authToken := some brokenToken }).steps [.connect, .opened]
    let b := Frame.Buffer.empty.run tornToken
    .send message ∈ session.2 ∧ Frame.IsLine message.frame ∧
      tornToken.flatMap Frame.Operation.pushed =
        Text.Utf8.encode (Frame.wrap message.encode) ∧
      b.1.filterMap id ++ b.2.drain.1 = [.ok message.encode] ∧ b.2.drain.2.isEmpty := by
  intro message session b
  have hsent : .send message ∈ session.2 := by decide +kernel
  have hpushed : tornToken.flatMap Frame.Operation.pushed =
      Text.Utf8.encode (Frame.wrap message.encode) := by decide +kernel
  exact ⟨hsent, messages_framed.2.2 _ _ message hsent, hpushed,
    (messages_framed.1 message).returned [] [] tornToken rfl hpushed⟩

end ResumableSession
