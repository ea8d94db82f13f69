import ContentTransport.Proofs.Session.Fate
/-!
# Cutting — transfers that read one reply in different ways

How much one read gives depends on how much the session asks for, and on the limit of the reply.  Nothing but a read sees
either.  So two transfers that differ only in these take the same steps up to their first read (`exchangeAnew_cut`), and
from there each ends as the reply alone tells (`perform_cut`).
-/
namespace Transport

open ScriptedNetwork

/-- A way of cutting a reply: the most bytes that are asked for, and the most that are given. -/
structure Cutting where
  size : Nat
  limit : Option Int
  size_pos : 0 < size
  forward : ∀ l ∈ limit, 1 ≤ l

/-- The network with the next reply cut in a given way. -/
def ScriptedNetwork.cut (x : Cutting) (w : ScriptedNetwork) : ScriptedNetwork :=
  { w with replies := w.replies.modifyHead ({ · with limit := x.limit }) }

def Recorded.cut (x : Cutting) (w : Recorded ScriptedNetwork) : Recorded ScriptedNetwork :=
  { w with network := w.network.cut x }

/-- The session that asks for so much at a time. -/
def Session.cut (x : Cutting) (s : Session) : Session := { s with readSize := x.size, readSize_pos := x.size_pos }

/-! ## What does not see how a reply is cut -/

namespace ScriptedNetwork

variable (x : Cutting) (w : ScriptedNetwork)

@[simp] theorem nextData_cut : (w.cut x).nextData = w.nextData := by
  unfold nextData cut
  cases w.replies <;> rfl

@[simp] theorem nextFault_cut : (w.cut x).nextFault = w.nextFault := by
  unfold nextFault cut
  cases w.replies <;> rfl

theorem readsOn_cut : (w.cut x).ReadsOn := by
  intro r hr l hl
  have hlimit : r.limit = x.limit := by
    unfold cut at hr
    cases hw : w.replies with
    | nil => simp [hw] at hr
    | cons q qs =>
      have hq : { q with limit := x.limit } = r := by simpa [hw] using hr
      rw [← hq]
  exact Int.le_of_lt (x.forward l (hlimit ▸ hl))

theorem modify_cut (id : StreamId) (f : ScriptedStream → ScriptedStream) :
    (w.cut x).modify id f = (w.modify id f).cut x := by
  have hget : (w.cut x).stream? id = w.stream? id := rfl
  unfold ScriptedNetwork.modify
  rw [hget]
  cases w.stream? id <;> rfl

theorem connect_cut (host : String) (port timeout : Value) : connect host port timeout (w.cut x)
    = ((connect host port timeout w).1, (connect host port timeout w).2.cut x) := by
  unfold ScriptedNetwork.connect cut
  dsimp only
  cases w.connectFaults <;> rfl

theorem secure_cut (id : StreamId) (host : String) :
    secure id host (w.cut x) = ((secure id host w).1, (secure id host w).2.cut x) := by
  have htls : (w.cut x).tlsFaults = w.tlsFaults := rfl
  unfold ScriptedNetwork.secure
  rw [htls, modify_cut]
  cases w.tlsFaults <;> rfl

theorem nextWriteFault_cut (s : ScriptedStream) :
    nextWriteFault s (w.cut x) = ((nextWriteFault s w).1, (nextWriteFault s w).2.cut x) := by
  have hfaults : (w.cut x).writeFaults = w.writeFaults := rfl
  unfold nextWriteFault
  rw [hfaults]
  cases s.faulty <;> cases w.writeFaults <;> rfl

theorem write_cut (id : StreamId) (p : Bytes) :
    write id p (w.cut x) = ((write id p w).1, (write id p w).2.cut x) := by
  have hget : (w.cut x).stream? id = w.stream? id := rfl
  unfold ScriptedNetwork.write
  rw [hget]
  cases w.stream? id with
  | none => rfl
  | some s =>
    dsimp only
    rw [nextWriteFault_cut]
    rcases nextWriteFault s w with ⟨_ | f, v⟩
    · dsimp only
      split <;> rfl
    · rfl

theorem close_cut (id : StreamId) : close id (w.cut x) = (close id w).cut x := modify_cut x w id _

end ScriptedNetwork

namespace Recorded

variable (x : Cutting) (w : Recorded ScriptedNetwork)

theorem connect_cut (host : String) (port timeout : Value) : Network.connect host port timeout (w.cut x)
    = ((Network.connect host port timeout w).1, (Network.connect host port timeout w).2.cut x) := by
  have h := ScriptedNetwork.connect_cut x w.network host port timeout
  exact congrArg (fun r => w.note r (.connect host port timeout)) h

theorem secure_cut (id : StreamId) (host : String) (timeout : Value) (verify : Bool) :
    Network.secure id host timeout verify (w.cut x)
      = ((Network.secure id host timeout verify w).1, (Network.secure id host timeout verify w).2.cut x) := by
  have h := ScriptedNetwork.secure_cut x w.network id host
  exact congrArg (fun r => w.note r (.secure id host timeout verify)) h

theorem write_cut (id : StreamId) (p : Bytes) : Network.write id p (w.cut x)
    = ((Network.write id p w).1, (Network.write id p w).2.cut x) := by
  have h := ScriptedNetwork.write_cut x w.network id p
  exact congrArg (fun r => w.note r (.write id p)) h

theorem close_cut (id : StreamId) : Network.close id (w.cut x) = (Network.close id w).cut x := by
  have h := ScriptedNetwork.close_cut x w.network id
  exact congrArg (fun v => { network := v, wire := w.wire ++ [.close id] : Recorded ScriptedNetwork }) h

end Recorded

namespace Session

open Http (bodyOf)

section

variable (x : Cutting) (s : Session) (w : Recorded ScriptedNetwork)

theorem drop_cut : (s.cut x).drop (w.cut x) = ((s.drop w).1.cut x, (s.drop w).2.cut x) := by
  have hlink : (s.cut x).link = s.link := rfl
  unfold drop
  rw [hlink]
  cases s.link with
  | none => rfl
  | some l =>
    dsimp only
    rw [Recorded.close_cut]
    rfl

theorem openLink_cut (o : Origin) : (s.cut x).openLink o (w.cut x)
    = ((s.openLink o w).1, (s.openLink o w).2.1.cut x, (s.openLink o w).2.2.cut x) := by
  unfold openLink
  rw [drop_cut]
  rcases s.drop w with ⟨t, v⟩
  dsimp only
  rw [Recorded.connect_cut]
  have htime : (t.cut x).timeout = t.timeout := rfl
  have htls : (t.cut x).verifyTls = t.verifyTls := rfl
  rw [htime, htls]
  rcases Network.connect o.host (.int o.port) (.float t.timeout) v with ⟨f | id, v1⟩
  · rfl
  · dsimp only
    rw [Recorded.secure_cut]
    by_cases hs : (o.scheme == "https") = true
    · simp only [hs, if_true]
      rcases Network.secure id o.host (.float t.timeout) t.verifyTls v1 with ⟨f | id', v2⟩
      · dsimp only
        cases tlsBreak? t.timeout f with
        | none => rfl
        | some b =>
          dsimp only
          rw [Recorded.close_cut]
      · rfl
    · simp only [hs]
      rfl

theorem sendAll_cut (timeout : Float) (id : StreamId) (ps : List Bytes) :
    sendAll timeout id ps (w.cut x) = ((sendAll timeout id ps w).1, (sendAll timeout id ps w).2.cut x) := by
  induction ps generalizing w with
  | nil => rfl
  | cons p ps ih =>
    simp only [sendAll]
    rw [Recorded.write_cut]
    rcases Network.write id p w with ⟨f | _, v⟩
    · rfl
    · exact ih v

end

/-! ## Up to the first read -/

variable {beyond : Nat → Bool} {u : Url} {s : Session} {w : Recorded ScriptedNetwork}

/-- **Transfers on a new stream take the same steps up to their first read**, however the reply is cut: all of them fail
before it in the same way, or all of them come to it. -/
theorem exchangeAnew_cut (u : Url) (s : Session) (w : Recorded ScriptedNetwork) :
    (∃ b t v, ∀ x, (s.cut x).exchangeAnew u (w.cut x) = (some b, Session.cut x t, Recorded.cut x v))
      ∨ ∃ id out t v mid, (s.request u).write = .ok out ∧ ∀ x,
        Opening u.origin (s.cut x) (w.cut x) (.ok id, Session.cut x t, Recorded.cut x v)
          ∧ Writes id (v.cut x) out.pieces (Recorded.cut x mid)
          ∧ Receipt id out.keepAlive false { proposed := out.proposes } ((t.cut x).stand .busy) (mid.cut x)
            ((s.cut x).exchangeAnew u (w.cut x)) := by
  have hopen (x : Cutting) := openLink_cut x s w u.origin
  have hopening (x : Cutting) := openLink_spec u.origin (s.cut x) (w.cut x)
  have hopened := openLink_spec u.origin s w
  simp only [hopen] at hopening
  unfold exchangeAnew
  simp only [hopen]
  generalize s.openLink u.origin w = o at hopening hopened
  obtain ⟨b | id, t, v⟩ := o
  · exact .inl ⟨b, t, v, fun _ => rfl⟩
  · obtain ⟨rfl, -, -⟩ := hopened.blank
    have hrequest (x : Cutting) : ((s.linked u.origin id).cut x).request u = s.request u := rfl
    unfold exchange
    simp only [hrequest]
    cases hout : (s.request u).write with
    | error f => exact .inl ⟨_, _, v, fun _ => rfl⟩
    | ok out =>
      have hsend (x : Cutting) := sendAll_cut x v s.timeout id out.pieces
      have hpath (x : Cutting) := sendAll_spec s.timeout id out.pieces (v.cut x)
      have htime (x : Cutting) : (((s.linked u.origin id).cut x).stand .busy).timeout = s.timeout := rfl
      simp only [hsend] at hpath
      simp only [htime, hsend]
      generalize sendAll s.timeout id out.pieces v = q at hpath
      obtain ⟨_ | b, mid⟩ := q
      · cases out.fault with
        | some f => exact .inl ⟨_, (s.linked u.origin id).stand .busy, mid, fun _ => rfl⟩
        | none =>
          refine .inr ⟨id, out, _, v, mid, rfl, fun x => ⟨hopening x, ?_, receive_spec _ _ _ _ _ _⟩⟩
          rcases hpath x with ⟨w', he, path⟩ | ⟨_, _, _, _, _, _, _, _, _, he⟩
          · cases he
            exact path
          · cases he
      · exact .inl ⟨b, (s.linked u.origin id).stand .busy, mid, fun _ => rfl⟩

/-! ## The whole transfer -/

/-- Two transfers that end alike. -/
structure Alike (a b : Except Fault TransferCode × Session × Recorded ScriptedNetwork) : Prop where
  code : a.1 = b.1
  status : a.2.1.status = b.2.1.status
  content : a.1 = .ok .ok → a.2.1.inbox.content = b.2.1.inbox.content
  kept : a.2.1.hasOpenStream a.2.2 = b.2.1.hasOpenStream b.2.2

theorem Alike.concluded {a b : Option Break × Session × Recorded ScriptedNetwork}
    {a' b' : Except Fault TransferCode × Session × Recorded ScriptedNetwork}
    (h : Alike (called a.1, a.2) (called b.1, b.2)) (ha : Concluded a a') (hb : Concluded b b') : Alike a' b' := by
  have hcode : a'.1 = b'.1 := ha.code.trans (h.code.trans hb.code.symm)
  refine ⟨hcode, ha.status.trans (h.status.trans hb.status.symm), fun hok => ?_, ?_⟩
  · rw [ha.inbox, hb.inbox]
    exact h.content (ha.code.symm.trans hok)
  · rw [ha.kept, hb.kept, hcode]
    exact congrArg _ h.kept

/-- A transfer over a cut reply that has no read which ends in a line or a head that is too long. -/
def Runs (cap : Int) (u : Url) (s : Session) (w w' : Recorded ScriptedNetwork) : Prop :=
  ∀ out, (s.request u).write = .ok out → ∀ es, w'.wire = w.wire ++ es →
    ¬Overruns (fun n => decide (cap < n)) out.proposes (WireEvent.given es)

theorem Fated.content {cap : Int} {keep proposed : Bool} {data : Bytes} {fault : Option NetworkFault}
    {a : Option Break × Session × Recorded ScriptedNetwork}
    (h : Fated (fun n => decide (cap < n)) keep proposed data fault s a) (collects : s.CollectsWithin cap)
    (hcap : 0 ≤ cap) (empty : s.inbox = {}) (hnone : a.1 = none) :
    a.2.1.inbox.content = bodyOf (({ proposed := proposed } : Http.Reader).feed data).letters := by
  obtain ⟨said, hsaid, hobeyed, hinbox⟩ := h.heard hnone
  have hfits : Fits cap s.inbox := by
    rw [empty]
    exact ⟨hcap, rfl⟩
  obtain ⟨hcontent, -⟩ := (obey_capped collects hfits (Prod.ext hobeyed rfl)).whole rfl
  rw [hinbox, hcontent, empty, hsaid]
  rfl

theorem exchangeAnew_alike {cap : Int} (collects : s.CollectsWithin cap) (hcap : 0 ≤ cap) (empty : s.inbox = {})
    (unread : s.received = 0) (unsaid : s.status = none) {x y : Cutting}
    (hx : Runs cap u s w ((s.cut x).exchangeAnew u (w.cut x)).2.2)
    (hy : Runs cap u s w ((s.cut y).exchangeAnew u (w.cut y)).2.2) :
    let a := (s.cut x).exchangeAnew u (w.cut x)
    let b := (s.cut y).exchangeAnew u (w.cut y)
    Alike (called a.1, a.2) (called b.1, b.2) := by
  rcases exchangeAnew_cut u s w with ⟨b, t, v, hall⟩ | ⟨id, out, t, v, mid, hout, hall⟩
  · rw [hall x, hall y]
    exact ⟨rfl, rfl, fun _ => rfl, rfl⟩
  · have hfated (z : Cutting) (hz : Runs cap u s w ((s.cut z).exchangeAnew u (w.cut z)).2.2) :
        Fated (fun n => decide (cap < n)) out.keepAlive out.proposes w.network.nextData w.network.nextFault
          (((s.cut z).linked u.origin id).stand .busy) ((s.cut z).exchangeAnew u (w.cut z)) := by
      obtain ⟨hopening, hpath, hreceipt⟩ := hall z
      obtain ⟨target, fields, body, hpieces⟩ := Http.Request.head_of_write hout
      have hjudges : Judges (fun n => decide (cap < n)) (s.cut z).receiver (s.cut z).collects (s.cut z).inbox := by
        obtain ⟨hreceiver, hcollects⟩ := collects
        have h := judges_capped hcap
        rwa [← hreceiver, ← hcollects, ← empty] at h
      have h := hopening.fated hpath (by rw [hpieces]; exact List.cons_ne_nil _ _) hreceipt (readsOn_cut z w.network)
        hjudges unread unsaid fun es _ hes _ => hz out hout es hes
      rwa [show (w.cut z).network = w.network.cut z from rfl, nextData_cut, nextFault_cut] at h
    have hfails (z : Cutting) := called_eq_ok fun k hk => ((hall z).2.2.handled hk).fails
    have hx := hfated x hx
    have hy := hfated y hy
    have hcode := hx.code.trans hy.code.symm
    have hboth : ((s.cut x).exchangeAnew u (w.cut x)).1 = none ↔ ((s.cut y).exchangeAnew u (w.cut y)).1 = none := by
      rw [← hfails x, ← hfails y, hcode]
    refine ⟨hcode, hx.status.trans hy.status.symm, fun hok => ?_, ?_⟩
    · have hnone := (hfails x).1 hok
      exact (hx.content collects hcap empty hnone).trans (hy.content collects hcap empty (hboth.1 hnone)).symm
    · have hsome : ((s.cut x).exchangeAnew u (w.cut x)).1.isSome = ((s.cut y).exchangeAnew u (w.cut y)).1.isSome := by
        rw [Bool.eq_iff_iff, Option.isSome_iff_ne_none, Option.isSome_iff_ne_none]
        exact not_congr hboth
      exact hx.kept.trans (hsome ▸ hy.kept.symm)

/-- **How a transfer ends does not depend on how its reply is cut.** -/
theorem perform_alike {cap : Int} {text : String} (opened : s.closed = false) (url : s.url = some (text, u))
    (unlinked : s.hasOpenStream w = false) (collects : s.CollectsWithin cap) (hcap : 0 ≤ cap) (empty : s.inbox = {})
    {x y : Cutting} (hx : Runs cap u s w ((s.cut x).perform (w.cut x)).2.2)
    (hy : Runs cap u s w ((s.cut y).perform (w.cut y)).2.2) :
    Alike ((s.cut x).perform (w.cut x)) ((s.cut y).perform (w.cut y)) := by
  have hperform (z : Cutting) :
      Concluded ((s.started.cut z).exchangeAnew u (w.cut z)) ((s.cut z).perform (w.cut z)) := by
    have h := perform_concluded (s := s.cut z) (w := w.cut z) opened url
    rwa [attempt_of_unlinked (s := (s.cut z).started) (w := w.cut z) unlinked] at h
  have hruns (z : Cutting) (hz : Runs cap u s w ((s.cut z).perform (w.cut z)).2.2) :
      Runs cap u s.started w ((s.started.cut z).exchangeAnew u (w.cut z)).2.2 := by
    intro out hout es hes
    obtain ⟨ds, hwire, hnone⟩ := (hperform z).wire
    have hno := hz out hout (es ++ ds) (by rw [hwire, hes, List.append_assoc])
    rwa [WireEvent.given_append, hnone, List.append_nil] at hno
  have halike := exchangeAnew_alike (s := s.started) collects hcap empty rfl rfl (hruns x hx) (hruns y hy)
  exact halike.concluded (hperform x) (hperform y)

end Session
end Transport
