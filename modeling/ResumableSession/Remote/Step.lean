import ResumableSession.Remote.Basic

/-!
How the other side answers.

A session is given only to a channel with the profile that created it, and to anyone else it is
as if it did not exist.  Requests are accepted strictly in their order; any other one has been
accepted before or will be sent again, and is passed over.
-/

namespace ResumableSession.Remote

/-- The actions to carry out, or what was wrong, and what the state is after that. -/
abbrev Answer := Except RemoteError (List Action) × Remote

/-! ## Channels -/

def openChannel (r : Remote) : Nat × Remote :=
  let channel := r.lastChannel + 1
  (channel, { r with lastChannel := channel, channels := Table.insert channel {} r.channels })

def detach (channel : Nat) (s : RemoteSession) : RemoteSession :=
  if s.channel = some channel then { s with channel := none } else s

def closeChannel (channel : Nat) (r : Remote) : Bool × Remote :=
  match r.channel? channel with
  | none => (false, r)
  | some slot =>
      let closed := { r with channels := Table.erase channel r.channels }
      match slot.sessionId with
      | none => (true, closed)
      | some sessionId => (true, closed.modifySession sessionId (detach channel))

def retire (slot : Channel) : Channel :=
  { slot with sessionId := none, retired := true }

def bind (channel : Nat) (sessionId : String) (r : Remote) : Remote :=
  r.modifyChannel channel fun slot => { slot with sessionId := some sessionId }

/-! ## Messages -/

def hello (channel : Nat) (slot : Channel) (profile : Profile) (r : Remote) : Answer :=
  match slot.profile with
  | some _ => (.error .duplicateHello, r)
  | none => (.ok [], r.modifyChannel channel fun slot => { slot with profile := some profile })

/-- The profile of a channel that may ask for a session: it has said hello and has none yet. -/
def greeted (slot : Channel) (tag : String) : Except RemoteError Profile :=
  match slot.profile, slot.sessionId with
  | none, _ => .error .missingHello
  | some _, some _ => .error (.unexpectedMessage tag)
  | some profile, none => .ok profile

def createSession (channel : Nat) (slot : Channel) (r : Remote) : Answer :=
  match greeted slot ClientMessage.createSession.tag with
  | .error error => (.error error, r)
  | .ok profile =>
      let serial := r.serial + 1
      let sessionId := s!"{r.stem}:{serial}"
      let session : RemoteSession := { profile, channel := some channel }
      let created := { r with serial, sessions := Table.insert sessionId session r.sessions }
      (.ok [.send channel (.success sessionId session.requestCursor profile)],
        created.bind channel sessionId)

def resumption (channel : Nat) (sessionId : String) (s : RemoteSession) : List Action :=
  .send channel (.success sessionId s.requestCursor s.profile) ::
    s.outbox.entries.map fun response => .send channel (.response response)

def previous? (channel : Nat) (s : RemoteSession) : Option Nat :=
  s.channel.filter (· ≠ channel)

def attach (channel : Nat) (slot : Channel) (sessionId : String) (responseCursor : Nat)
    (r : Remote) : Answer :=
  match greeted slot (ClientMessage.attach sessionId responseCursor).tag with
  | .error error => (.error error, r)
  | .ok profile =>
      match (r.session? sessionId).filter (·.profile = profile) with
      | none => (.ok [.send channel .failure], r)
      | some session =>
          let resumed : RemoteSession :=
            { session with
              channel := some channel
              outbox := session.outbox.dropBelow responseCursor }
          let moved := r.modifySession sessionId fun _ => resumed
          let actions := resumption channel sessionId resumed
          match previous? channel session with
          | none => (.ok actions, moved.bind channel sessionId)
          | some old =>
              (.ok (.shutdown old :: actions),
                (moved.modifyChannel old retire).bind channel sessionId)

def bound (slot : Channel) : Except RemoteError String :=
  match slot.profile, slot.sessionId with
  | none, _ => .error .missingHello
  | some _, none => .error (.unexpectedMessage "PackagedRequest")
  | some _, some sessionId => .ok sessionId

def request (slot : Channel) (request : Request) (r : Remote) : Answer :=
  match bound slot with
  | .error error => (.error error, r)
  | .ok sessionId =>
      match r.session? sessionId with
      | none => (.error (.unknownSession sessionId), r)
      | some session =>
          let outbox := session.outbox.dropBelow request.responseCursor
          if request.id = session.requestCursor then
            (.ok [.deliver sessionId request.id request.payload],
              r.modifySession sessionId fun s =>
                { s with outbox, requestCursor := s.requestCursor + 1 })
          else (.ok [], r.modifySession sessionId fun s => { s with outbox })

def handle (channel : Nat) (message : ClientMessage) (r : Remote) : Answer :=
  match r.channel? channel with
  | none => (.error (.unknownChannel channel), r)
  | some slot =>
      if slot.retired then (.ok [], r)
      else
        match message with
        | .auth _ => (.error (.unexpectedMessage message.tag), r)
        | .hello profile => r.hello channel slot profile
        | .createSession => r.createSession channel slot
        | .attach sessionId responseCursor => r.attach channel slot sessionId responseCursor
        | .request request => r.request slot request

/-! ## Sessions -/

/-- Numbers a response and keeps it.  It is sent at once only over a bound channel. -/
def respond (sessionId : String) (payload : Json) (r : Remote) : Answer :=
  match r.session? sessionId with
  | none => (.error (.unknownSession sessionId), r)
  | some session =>
      let response : Response := ⟨session.nextResponseId, session.requestCursor, payload⟩
      (.ok (session.channel.toList.map fun channel => .send channel (.response response)),
        r.modifySession sessionId fun s =>
          { s with nextResponseId := s.nextResponseId + 1, outbox := s.outbox.push response })

def dropSession (sessionId : String) (r : Remote) : Answer :=
  match r.session? sessionId with
  | none => (.error (.unknownSession sessionId), r)
  | some session =>
      let dropped := { r with sessions := Table.erase sessionId r.sessions }
      match session.channel with
      | none => (.ok [], dropped)
      | some channel => (.ok [.shutdown channel], dropped.modifyChannel channel retire)

end ResumableSession.Remote
