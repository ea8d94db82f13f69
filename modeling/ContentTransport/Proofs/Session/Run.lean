import ContentTransport.Connection
import ContentTransport.Proofs.Network.Streams
import ContentTransport.Proofs.Session.Exchange
/-!
# Run — one session over a scripted network, act by act

A scene is a session and the recorded network that it uses.  A run begins with a new session and an empty script; its
acts, in any order, set the session up, make transfers, close the session, and write the script on.  A setter that
refuses, and a transfer that breaks off, are acts as well: the run goes on from what they leave.
-/
namespace Transport

/-- What can be set in a session. -/
inductive Setting
  | timeout (v : Value)
  | verifyTls (v : Value)
  | readSize (v : Value)
  | methodGet
  | methodPost (body : Value)
  | url (v : Value)
  | headers (l : Option ListId)
  | attach (l : ListId)
  | receiver (r : Option Receiver)
  | collects (on : Bool)
  | buffer (v : Value)

/-- The session after a setting, or why it is refused. -/
def Setting.apply : Setting → Session → Except Fault Session
  | timeout v, s => s.setTimeout v
  | verifyTls v, s => s.setVerifyTls v
  | readSize v, s => s.setReadSize v
  | methodGet, s => s.setMethodGet
  | methodPost body, s => s.setMethodPost body
  | url v, s => s.setUrl v
  | headers l, s => s.setHeaders l
  | attach l, s => s.attach l
  | receiver r, s => s.setReceiver r
  | collects on, s => s.setCollects on
  | buffer v, s => s.bindValue v

/-- What is done with a session, or with the script of its network. -/
inductive Act
  | set (x : Setting)
  | newList
  | addField (l : ListId) (name value : Value)
  | release (l : ListId)
  | perform
  | close
  | reply (r : Reply)
  | connectFault (f : NetworkFault)
  | tlsFault (f : NetworkFault)
  | writeFault (f : Option NetworkFault)

/-- A session and its network. -/
structure Scene where
  session : Session
  network : Recorded ScriptedNetwork

theorem Session.readSize_new_pos : 0 < 65536 := by decide

namespace Scene

/-- A new session, and nothing in the script. -/
def new : Scene := ⟨{ readSize_pos := Session.readSize_new_pos }, { network := {} }⟩

/-- The scene with more in the script. -/
def scripted (f : ScriptedNetwork → ScriptedNetwork) (c : Scene) : Scene :=
  { c with network := { c.network with network := f c.network.network } }

def answer (c : Scene) : Except Fault TransferCode := (c.session.perform c.network).1

def performed (c : Scene) : Scene := ⟨(c.session.perform c.network).2.1, (c.session.perform c.network).2.2⟩

def closed (c : Scene) : Scene := ⟨(c.session.close c.network).1, (c.session.close c.network).2⟩

def after (c : Scene) : Act → Scene
  | .set x =>
    match x.apply c.session with
    | .ok s => { c with session := s }
    | .error _ => c
  | .newList => { c with session := c.session.newList.2 }
  | .addField l name value => { c with session := (c.session.addField l name value).2 }
  | .release l => { c with session := c.session.release l }
  | .perform => c.performed
  | .close => c.closed
  | .reply r => c.scripted (.queueReply r)
  | .connectFault f => c.scripted (.queueConnectFault f)
  | .tlsFault f => c.scripted (.queueTlsFault f)
  | .writeFault f => c.scripted (.queueWriteFault f)

theorem after_set_ok {c : Scene} {x : Setting} {s : Session} (h : x.apply c.session = .ok s) :
    c.after (.set x) = { c with session := s } := by
  simp only [after, h]

theorem after_set_error {c : Scene} {x : Setting} {f : Fault} (h : x.apply c.session = .error f) :
    c.after (.set x) = c := by
  simp only [after, h]

def run (acts : List Act) (c : Scene) : Scene := acts.foldl after c

theorem run_append (acts more : List Act) (c : Scene) : c.run (acts ++ more) = (c.run acts).run more :=
  List.foldl_append

theorem run_keeps {P : Scene → Prop} (acts : List Act) (keeps : ∀ a ∈ acts, ∀ c, P c → P (c.after a)) :
    ∀ c, P c → P (c.run acts) := by
  induction acts with
  | nil => exact fun c h => h
  | cons a acts ih =>
    intro c h
    exact ih (fun b hb => keeps b (List.mem_cons_of_mem _ hb)) _ (keeps a List.mem_cons_self c h)

end Scene

/-! ## What a setting leaves alone -/

namespace Session

open ScriptedNetwork in
theorem drop_rest (s : Session) (w : Recorded ScriptedNetwork) :
    (s.drop w).2.network.opened = w.network.opened
      ∧ (s.drop w).2.network.streams.length = w.network.streams.length
      ∧ (s.drop w).2.network.tlsFaults = w.network.tlsFaults
      ∧ (s.drop w).2.network.replies = w.network.replies := by
  cases hl : s.link with
  | none =>
    rw [drop_of_none hl]
    exact ⟨rfl, rfl, rfl, rfl⟩
  | some l =>
    rw [drop_of_some hl]
    exact close_rest l.stream w.network

/-- What a network keeps when a stream is closed, it keeps when a session lets go of its stream. -/
theorem drop_keeps {P : ScriptedNetwork → Prop} {w : Recorded ScriptedNetwork}
    (keeps : ∀ id, P w.network → P (ScriptedNetwork.close id w.network)) (h : P w.network) (s : Session) :
    P (s.drop w).2.network := by
  cases hl : s.link with
  | none => rwa [drop_of_none hl]
  | some l =>
    rw [drop_of_some hl]
    exact keeps l.stream h

/-- The two sessions differ in what is set, but for the URL: if the second has none, then the first has none. -/
structure SameStream (s t : Session) : Prop where
  link : t.link = s.link
  closed : t.closed = s.closed
  transfers : t.transfers = s.transfers
  connects : t.connects = s.connects
  defects : t.defects = s.defects
  aimed : t.url = none → s.url = none

theorem SameStream.refl (s : Session) : SameStream s s := ⟨rfl, rfl, rfl, rfl, rfl, id⟩

theorem SameStream.trans {s t u : Session} (h : SameStream s t) (h' : SameStream t u) : SameStream s u :=
  ⟨h'.link.trans h.link, h'.closed.trans h.closed, h'.transfers.trans h.transfers, h'.connects.trans h.connects,
    h'.defects.trans h.defects, fun hu => h.aimed (h'.aimed hu)⟩

theorem whenOpen_ok {s t : Session} {k : Except Fault Session} (h : s.whenOpen k = .ok t) :
    s.closed = false ∧ k = .ok t := by
  unfold whenOpen at h
  by_cases hc : s.closed = true
  · rw [if_pos hc] at h
    cases h
  · rw [if_neg hc] at h
    exact ⟨Bool.eq_false_iff.2 hc, h⟩

theorem whenOpen_of_closed {s : Session} (h : s.closed = true) (k : Except Fault Session) :
    s.whenOpen k = .error (refuse "Session is closed") := if_pos h

theorem whenSound_of_sound {s : Session} (h : s.defects = {}) (given : Bool) (k : Except Fault Session) :
    s.whenSound given k = s.whenOpen k := by
  unfold whenSound
  rw [h]
  rfl

theorem sameStream_bind {s t : Session} {b : Option BufferId} (h : s.bind b = .ok t) : SameStream s t := by
  unfold bind whenSound at h
  split at h
  · cases h
    exact .refl s
  · cases h
  · obtain ⟨-, h⟩ := whenOpen_ok h
    split at h
    · cases h
      exact ⟨rfl, rfl, rfl, rfl, rfl, id⟩
    · split at h
      · cases h
        exact ⟨rfl, rfl, rfl, rfl, rfl, id⟩
      · cases h

theorem sameStream_bindValue {s t : Session} {v : Value} (h : s.bindValue v = .ok t) : SameStream s t := by
  unfold bindValue at h
  split at h
  · exact sameStream_bind h
  · have hb := sameStream_bind h
    exact ⟨hb.link, hb.closed, hb.transfers, hb.connects, hb.defects, hb.aimed⟩
  · unfold whenSound at h
    split at h
    · cases h
      exact .refl s
    · cases h
    · obtain ⟨-, h⟩ := whenOpen_ok h
      cases h

/-- **A setting leaves the stream, the counts and the life of a session alone.** -/
theorem sameStream_apply {x : Setting} {s t : Session} (h : x.apply s = .ok t) : SameStream s t := by
  cases x with
  | timeout v =>
    obtain ⟨-, h⟩ := whenOpen_ok h
    cases hs : seconds v with
    | error f => rw [hs] at h; cases h
    | ok x => rw [hs] at h; cases h; exact ⟨rfl, rfl, rfl, rfl, rfl, id⟩
  | verifyTls v => obtain ⟨-, h⟩ := whenOpen_ok h; cases h; exact ⟨rfl, rfl, rfl, rfl, rfl, id⟩
  | readSize v =>
    obtain ⟨-, h⟩ := whenOpen_ok h
    split at h
    · cases h; exact ⟨rfl, rfl, rfl, rfl, rfl, id⟩
    · cases h
  | methodGet => obtain ⟨-, h⟩ := whenOpen_ok h; cases h; exact ⟨rfl, rfl, rfl, rfl, rfl, id⟩
  | methodPost body =>
    obtain ⟨-, h⟩ := whenOpen_ok h
    split at h
    · cases h; exact ⟨rfl, rfl, rfl, rfl, rfl, id⟩
    · cases h
  | url v =>
    obtain ⟨-, h⟩ := whenOpen_ok h
    split at h
    · split at h
      · cases h
      · split at h
        · cases h; exact ⟨rfl, rfl, rfl, rfl, rfl, fun hu => nomatch hu⟩
        · cases h
    · cases h
  | headers l => obtain ⟨-, h⟩ := whenOpen_ok h; cases h; exact ⟨rfl, rfl, rfl, rfl, rfl, id⟩
  | attach l =>
    simp only [Setting.apply, attach] at h
    cases hs : s.setHeaders (some l) with
    | error f => rw [hs] at h; cases h
    | ok u =>
      rw [hs] at h
      obtain ⟨-, hu⟩ := whenOpen_ok hs
      cases hu
      cases h
      exact ⟨rfl, rfl, rfl, rfl, rfl, id⟩
  | receiver r =>
    simp only [Setting.apply, setReceiver] at h
    split at h
    · cases h
    · obtain ⟨-, h⟩ := whenOpen_ok h; cases h; exact ⟨rfl, rfl, rfl, rfl, rfl, id⟩
  | collects on => obtain ⟨-, h⟩ := whenOpen_ok h; cases h; exact ⟨rfl, rfl, rfl, rfl, rfl, id⟩
  | buffer v => exact sameStream_bindValue h

theorem bind_of_closed {s : Session} (h : s.closed = true) (hd : s.defects = {}) (b : Option BufferId) :
    s.bind b = .error (refuse "Session is closed") := by
  unfold bind
  rw [whenSound_of_sound hd]
  exact whenOpen_of_closed h _

/-- **A closed session refuses every setting**, and says that it is closed. -/
theorem apply_of_closed {s : Session} (h : s.closed = true) (hd : s.defects = {}) (x : Setting) :
    x.apply s = .error (refuse "Session is closed") := by
  cases x with
  | attach l =>
    simp only [Setting.apply, attach, setHeaders, whenOpen_of_closed h]
    rfl
  | receiver r =>
    simp only [Setting.apply, setReceiver, hd]
    exact whenOpen_of_closed h _
  | buffer v =>
    simp only [Setting.apply, bindValue]
    split
    · exact bind_of_closed h hd _
    · exact bind_of_closed (s := (s.allocate _).2) h hd _
    · rw [whenSound_of_sound hd]
      exact whenOpen_of_closed h _
  | _ => exact whenOpen_of_closed h _

theorem sameStream_newList (s : Session) : SameStream s s.newList.2 := ⟨rfl, rfl, rfl, rfl, rfl, id⟩

theorem sameStream_addField (l : ListId) (name value : Value) (s : Session) :
    SameStream s (s.addField l name value).2 := by
  unfold addField
  split
  · exact .refl s
  · exact ⟨rfl, rfl, rfl, rfl, rfl, id⟩

theorem sameStream_release (l : ListId) (s : Session) : SameStream s (s.release l) := by
  unfold release
  split
  · exact .refl s
  · exact ⟨rfl, rfl, rfl, rfl, rfl, id⟩

end Session
end Transport
