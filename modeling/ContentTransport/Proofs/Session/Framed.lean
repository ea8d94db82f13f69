import ContentTransport.Proofs.Session.Exchange
/-!
# Framed — what a transfer carries along

A transfer knows the header lists of its session by the fields that they add to the request, and does not know its
diagnostic buffers, its defects and its counts at all.  So it does the same in another frame of these (`attempt_framed`),
and leaves the frame as it is, but for its own count and that of its connection.
-/
namespace Transport
namespace Session

/-- What a session has besides what its transfers know, and how much further its counts are. -/
structure Frame where
  lists : List HeaderList
  attached : Option ListId
  buffers : List Bytes
  bound : Option BufferId
  defects : Defects
  transfers : Nat
  connects : Nat

def framed (x : Frame) (s : Session) : Session :=
  { s with lists := x.lists, attached := x.attached, buffers := x.buffers, bound := x.bound, defects := x.defects,
           transfers := s.transfers + x.transfers, connects := s.connects + x.connects }

/-- The frame that a session has by itself. -/
def frame (s : Session) : Frame := ⟨s.lists, s.attached, s.buffers, s.bound, s.defects, 0, 0⟩

/-- A step that does in every frame what it does in any. -/
def Unframed {α ν : Type} (x : Frame) (a a' : α × Session × ν) : Prop := a' = (a.1, a.2.1.framed x, a.2.2)

section

variable {ν : Type} [Network ν] (x : Frame)

/-! ## The stream -/

theorem drop_framed (s : Session) (w : ν) : (s.framed x).drop w = ((s.drop w).1.framed x, (s.drop w).2) := by
  have hlink : (s.framed x).link = s.link := rfl
  unfold drop
  rw [hlink]
  cases s.link <;> rfl

theorem linked_framed (o : Origin) (id : StreamId) (s : Session) :
    (s.framed x).linked o id = (s.linked o id).framed x := by
  unfold linked framed
  dsimp only
  rw [Nat.add_right_comm]

theorem openLink_framed (o : Origin) (s : Session) (w : ν) :
    Unframed x (s.openLink o w) ((s.framed x).openLink o w) := by
  unfold Unframed openLink
  rw [drop_framed]
  rcases s.drop w with ⟨t, v⟩
  dsimp only
  have htime : (t.framed x).timeout = t.timeout := rfl
  have htls : (t.framed x).verifyTls = t.verifyTls := rfl
  simp only [linked_framed, htime, htls]
  rcases Network.connect o.host (.int o.port) (.float t.timeout) v with ⟨f | id, v1⟩
  · rfl
  · dsimp only
    cases hs : o.scheme == "https" with
    | false => rfl
    | true =>
      rw [if_pos rfl, if_pos rfl]
      rcases Network.secure id o.host (.float t.timeout) t.verifyTls v1 with ⟨f | id', v2⟩
      · dsimp only
        cases tlsBreak? t.timeout f <;> rfl
      · rfl

/-! ## The reply -/

theorem deliver_framed (p : Bytes) (s : Session) :
    (s.framed x).deliver p = ((s.deliver p).1, (s.deliver p).2.framed x) := by
  cases h : s.receiver with
  | none => rw [deliver_of_none h, deliver_of_none (s := s.framed x) h]
  | some r => rw [deliver_of_some h, deliver_of_some (s := s.framed x) h]; rfl

theorem obey_framed (es : List Http.Event) (s : Session) :
    (s.framed x).obey es = ((s.obey es).1, (s.obey es).2.framed x) := by
  induction es generalizing s with
  | nil => rfl
  | cons e es ih =>
    cases e with
    | status n => exact ih { s with status := some n }
    | piece p =>
      simp only [obey, deliver_framed]
      rcases s.deliver p with ⟨_ | b, t⟩
      · exact ih t
      · rfl

theorem finish_framed (keep ended : Bool) (surplus : Bytes) (s : Session) (w : ν) :
    (s.framed x).finish keep surplus ended w
      = ((s.finish keep surplus ended w).1.framed x, (s.finish keep surplus ended w).2) := by
  unfold finish
  cases keep with
  | true => rfl
  | false => exact drop_framed x s w

theorem finishAtEnd_framed (keep : Bool) (r : Http.Reader) (s : Session) (w : ν) :
    Unframed x (finishAtEnd keep r s w) (finishAtEnd keep r (s.framed x) w) := by
  unfold Unframed finishAtEnd
  cases r.atEnd with
  | some f => rfl
  | none =>
    dsimp only
    rw [finish_framed]

theorem receive_hungry {stream : StreamId} {keep : Bool} {reader r : Http.Reader} {es : List Http.Event} {s t : Session}
    (settled : reader.settle = (es, r, .hungry)) (obeyed : s.obey es = (none, t)) (w : ν) :
    receive stream keep false reader s w = match Network.read stream t.readSize w with
      | (.error f, v) => (some (readBreak t.timeout t.received f), t, v)
      | (.ok [], v) => finishAtEnd keep r t v
      | (.ok (b :: bs), v) => receive stream keep false (r.feed (b :: bs)) (t.counting (bs.length + 1)) v := by
  rw [receive]
  simp only [settled, obeyed]
  rw [if_neg Bool.false_ne_true]
  split
  · rename_i hread
    rw [hread]
  · rename_i hread
    rw [hread]
  · rename_i hread
    rw [hread]
    rfl

theorem receive_framed (stream : StreamId) (keep ended : Bool) (reader : Http.Reader) (s : Session) (w : ν) :
    Unframed x (receive stream keep ended reader s w) (receive stream keep ended reader (s.framed x) w) := by
  induction hk : Network.readable stream w using Nat.strongRecOn generalizing ended reader s w with
  | _ k ih =>
  subst hk
  unfold Unframed
  rcases hset : reader.settle with ⟨es, r, st⟩
  rcases hobey : s.obey es with ⟨_ | b, t⟩
  · have hobey' : (s.framed x).obey es = (none, t.framed x) := by rw [obey_framed, hobey]
    cases st with
    | hungry =>
      cases ended with
      | true =>
        rw [receive, receive]
        simp only [hset, hobey, hobey']
        exact finishAtEnd_framed x keep r t w
      | false =>
        rw [receive_hungry hset hobey, receive_hungry hset hobey']
        have hsize : (t.framed x).readSize = t.readSize := rfl
        rw [hsize]
        rcases hread : Network.read stream t.readSize w with ⟨f | _ | ⟨b, bs⟩, v⟩
        · rfl
        · exact finishAtEnd_framed x keep r t v
        · exact ih _ (Network.read_shrinks hread) _ _ (t.counting (bs.length + 1)) v rfl
    | complete surplus =>
      rw [receive, receive]
      simp only [hset, hobey, hobey', finish_framed]
    | switched =>
      rw [receive, receive]
      simp only [hset, hobey, hobey']
    | broken f =>
      rw [receive, receive]
      simp only [hset, hobey, hobey']
      rfl
  · have hobey' : (s.framed x).obey es = (some b, t.framed x) := by rw [obey_framed, hobey]
    rw [receive, receive]
    simp only [hset, hobey, hobey']

/-! ## A transfer -/

theorem exchange_framed {s : Session} (fields : (s.framed x).extraFields = s.extraFields) (u : Url) (stream : StreamId)
    (surplus : Bytes) (ended : Bool) (w : ν) :
    Unframed x (s.exchange u stream surplus ended w) ((s.framed x).exchange u stream surplus ended w) := by
  have hrequest : (s.framed x).request u = s.request u := by
    unfold request
    rw [fields]
    rfl
  unfold Unframed exchange
  rw [hrequest]
  cases (s.request u).write with
  | error f => rfl
  | ok out =>
    dsimp only
    have htime : ((s.framed x).stand .busy).timeout = (s.stand .busy).timeout := rfl
    rw [htime]
    rcases sendAll (s.stand .busy).timeout stream out.pieces w with ⟨_ | b, v⟩
    · cases out.fault with
      | some f => rfl
      | none => exact receive_framed x _ _ _ _ (s.stand .busy) v
    · rfl

theorem exchangeAnew_framed {s : Session} (fields : (s.framed x).extraFields = s.extraFields) (u : Url) (w : ν) :
    Unframed x (s.exchangeAnew u w) ((s.framed x).exchangeAnew u w) := by
  have hopen := openLink_framed x u.origin s w
  have hoptions := (openLink_spec u.origin s w).options
  unfold Unframed at hopen
  unfold Unframed exchangeAnew
  rw [hopen]
  generalize s.openLink u.origin w = a at hoptions
  obtain ⟨b | id, t, v⟩ := a
  · rfl
  · have hfields : (t.framed x).extraFields = t.extraFields := by
      have hsame := congrArg extraFields hoptions
      exact fields.trans hsame.symm
    exact exchange_framed x hfields u id [] false v

/-- **A transfer does the same in another frame.** -/
theorem attempt_framed {s : Session} (fields : (s.framed x).extraFields = s.extraFields) (u : Url) (w : ν) :
    Unframed x (s.attempt u w) ((s.framed x).attempt u w) := by
  have hreusable : (s.framed x).reusable? u.origin w = s.reusable? u.origin w := rfl
  unfold Unframed attempt
  rw [hreusable]
  cases s.reusable? u.origin w with
  | none => exact exchangeAnew_framed x fields u w
  | some usable =>
    obtain ⟨l, surplus, ended⟩ := usable
    dsimp only
    have hfirst := exchange_framed x fields u l.stream surplus ended w
    have hoptions := (exchange_spec u l.stream surplus ended s w).options
    unfold Unframed at hfirst
    rw [hfirst]
    generalize s.exchange u l.stream surplus ended w = a at hoptions
    obtain ⟨_ | ⟨code, m⟩ | f, t, v⟩ := a
    · rfl
    · dsimp only
      have hreceived : (t.framed x).received = t.received := rfl
      have hfields : (t.framed x).extraFields = t.extraFields := by
        have hsame := congrArg extraFields hoptions
        exact fields.trans hsame.symm
      rw [hreceived]
      cases isStale code && t.received == 0 with
      | true => exact exchangeAnew_framed x hfields u v
      | false => rfl
    · rfl

/-- A transfer leaves the frame of its session as it is. -/
theorem attempt_keeps (s : Session) (u : Url) (w : ν) : (s.attempt u w).2.1 = (s.attempt u w).2.1.framed s.frame :=
  congrArg (fun a => a.2.1) (attempt_framed s.frame (s := s) rfl u w)

/-! ## Defects -/

/-- The session with such defects. -/
def withDefects (d : Defects) (s : Session) : Session := { s with defects := d }

end

end Session
end Transport
