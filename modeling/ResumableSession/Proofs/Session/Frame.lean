import ResumableSession.Proofs.Frame.Line
import ResumableSession.Proofs.Message.Transcription
import ResumableSession.Session.Step

/-!
A session that receives one whole frame.
-/

namespace ResumableSession

def ServerMessage.frame (message : ServerMessage) : String :=
  Frame.wrap message.encode

namespace Session

variable {s : Session} {message : String}

theorem readLine_ok (text : String) :
    readLine (.ok text) = (ServerMessage.decode text).mapError .envelope :=
  rfl

theorem received_line (hbuffer : s.buffer = .empty)
    (hstatus : s.status = .connected ∨ s.status = .attached) (hline : '\n' ∉ message.toList) :
    s.received (Text.Utf8.encode (Frame.wrap message)) =
      match readLine (.ok message) with
      | .error error => s.dropConnection (.undecodable error)
      | .ok message => s.handle message := by
  have hnext := Frame.next_wrap hline
  rw [← hbuffer] at hnext
  have hpushed : s.received (Text.Utf8.encode (Frame.wrap message)) =
      { s with buffer := s.buffer.push (Text.Utf8.encode (Frame.wrap message)) }.consume := by
    rcases hstatus with hstatus | hstatus
    · rw [received, hstatus]
    · rw [received, hstatus]
  have hconsume :
      { s with buffer := s.buffer.push (Text.Utf8.encode (Frame.wrap message)) }.consume =
        match readLine (.ok message) with
        | .error error => s.dropConnection (.undecodable error)
        | .ok message =>
            let handled := s.handle message
            if handled.1.status = .rejected then handled
            else (handled.1.consume.1, handled.2 ++ handled.1.consume.2) :=
    consume_some hnext
  rw [hpushed, hconsume]
  cases readLine (.ok message) with
  | error error => rfl
  | ok read =>
      -- Nothing is left in the buffer when the message has been dealt with.
      have hempty := (handle_buffer read s).trans hbuffer
      have hrest : (s.handle read).1.consume = ((s.handle read).1, []) := by
        have hnone := Frame.Buffer.next_empty
        rw [← hempty] at hnone
        exact consume_none hnone
      simp only [hrest, List.append_nil]
      split <;> rfl

theorem received_frame (hbuffer : s.buffer = .empty)
    (hstatus : s.status = .connected ∨ s.status = .attached) (message : ServerMessage) :
    s.received (Text.Utf8.encode message.frame) = s.handle message.transcribed ∨
      ∃ error, s.received (Text.Utf8.encode message.frame) =
        s.dropConnection (.undecodable error) := by
  have hline : '\n' ∉ message.encode.toList := (Json.visible_render _).newline_not_mem
  have hreceived := received_line hbuffer hstatus hline
  cases hdecode : ServerMessage.decode message.encode with
  | ok read =>
      obtain rfl := ServerMessage.eq_transcribed hdecode
      rw [readLine_ok, hdecode] at hreceived
      exact .inl hreceived
  | error error =>
      rw [readLine_ok, hdecode] at hreceived
      exact .inr ⟨_, hreceived⟩

end Session

end ResumableSession
