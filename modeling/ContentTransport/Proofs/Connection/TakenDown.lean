import ContentTransport.Proofs.Connection.Served
/-!
# TakenDown — a call takes down what it sets up

A call sets up a header list, a diagnostic buffer and a receiver that collects, and three different mechanisms take them
down again.  However the call ends, none of the three is left in the session, and the list is released, once
(`taken_down`).  That holds of every connection, so whatever may break a call off does not make the next one begin with
something that is not its own.
-/
namespace Transport

/-- A header list that has been released, once. -/
def HeaderList.Spent (l : HeaderList) : Prop := l.content = none ∧ l.releases = 1

namespace Connection

/-- A session with nothing of a call left in it, and with spent header lists only. -/
structure Bare (s : Session) : Prop where
  detached : s.attached = none
  unbound : s.bound = none
  uncollecting : s.collects = false
  spent : ∀ l ∈ s.lists, l.Spent

section

variable {ν : Type} [Network ν] {s t : Session}

theorem spent_lists (k : Call) : ∀ l ∈ k.lists, l.Spent := by
  intro l hl
  cases k with
  | get url => cases hl
  | post url body =>
    simp only [Call.lists] at hl
    split at hl
    · rw [List.mem_singleton.1 hl]
      exact ⟨rfl, rfl⟩
    · cases hl

theorem Bare.append {ls : List HeaderList} (h : Bare s) (lists : t.lists = s.lists ++ ls) (spent : ∀ l ∈ ls, l.Spent)
    (detached : t.attached = none) (unbound : t.bound = none) (uncollecting : t.collects = false) : Bare t where
  detached := detached
  unbound := unbound
  uncollecting := uncollecting
  spent l hl := by
    rw [lists] at hl
    exact (List.mem_append.1 hl).elim (h.spent l) (spent l)

/-! ## A call on a session -/

/-- Releasing the last list of a session, which is joined to it and attached. -/
theorem release_last {ls : List HeaderList} {fields : List Http.Field} (opened : s.closed = false)
    (lists : s.lists = ls ++ [⟨some fields, true, 0⟩]) (attached : s.attached = some ls.length) :
    s.release ls.length = { s with lists := ls ++ [⟨none, false, 1⟩], attached := none } := by
  have hlist : s.list? ls.length = some ⟨some fields, true, 0⟩ := by
    rw [Session.list?, lists, List.getElem?_append_right (Nat.le_refl _), Nat.sub_self]
    rfl
  unfold Session.release
  rw [hlist]
  simp [HeaderList.isReleased, opened, attached, HeaderList.release, Session.putList, lists]

/-- What a call leaves of its transfer: its options, without the receiver's inbox and the diagnostic buffer. -/
theorem options_concluded (r : Reporter) (a : Option Break × Session × ν) :
    (concluded r a).2.1.options = { a.2.1.options with collects := false, bound := none } := by
  obtain ⟨_ | ⟨code, m⟩ | f, t, w⟩ := a
  · rfl
  · have hfail := Session.options_fail code m { t with link := none }
    exact congrArg (fun o : Session => ({ o with collects := false, bound := none } : Session)) hfail
  · rfl

theorem options_served (r : Reporter) (u : Url) (s : Session) (w : ν) :
    (concluded r (s.attempt u w)).2.1.options = { s.options with collects := false, bound := none } := by
  rw [options_concluded, (Session.attempt_spec u s w).options]

/-- **An accepted call leaves its session bare.** -/
theorem Bare.served {text : String} {u : Url} {body : Option Bytes} {k : Call} (h : Bare s) (opened : s.closed = false)
    (accepted : k.Accepted text u body) (cap : Int) (r : Reporter) (w : ν) :
    let t := dismissed s.lists.length body (concluded r ((arranged cap text u s body).started.attempt u w)).2.1
    Bare t ∧ t.lists = s.lists ++ k.lists := by
  have hoptions := options_served r u (arranged cap text u s body).started w
  generalize (concluded r ((arranged cap text u s body).started.attempt u w)).2.1 = t at hoptions ⊢
  have hunbound : t.bound = none := congrArg Session.bound hoptions
  have huncollecting : t.collects = false := congrArg Session.collects hoptions
  have hlists := congrArg Session.lists hoptions
  have hattached := congrArg Session.attached hoptions
  cases accepted with
  | get aims =>
    have hsame : t.lists = s.lists ++ [] := hlists.trans (List.append_nil _).symm
    exact ⟨h.append hsame nofun hattached hunbound huncollecting, hsame⟩
  | @post url body b aims bytes =>
    have hclosed : t.closed = false := (congrArg Session.closed hoptions).trans opened
    have hone : (Call.post url body).lists = [⟨none, false, 1⟩] := by simp [Call.lists, aims.truth, bytes]
    rw [hone, dismissed, release_last hclosed hlists hattached]
    refine ⟨h.append rfl (fun l hl => ?_) rfl hunbound huncollecting, rfl⟩
    rw [List.mem_singleton.1 hl]
    exact ⟨rfl, rfl⟩

/-- **A call that is not accepted leaves its session bare.** -/
theorem Bare.rebuffed (h : Bare s) (opened : s.closed = false) (k : Call) :
    Bare (k.rebuffed s) ∧ (k.rebuffed s).lists = s.lists ++ k.lists := by
  cases k with
  | get url =>
    simp only [Call.rebuffed, Call.lists, List.append_nil]
    split
    · exact ⟨⟨rfl, h.unbound, h.uncollecting, h.spent⟩, rfl⟩
    · exact ⟨h, rfl⟩
  | post url body =>
    cases htruth : url.truth with
    | false => simpa [Call.rebuffed, Call.lists, htruth] using h
    | true =>
      rcases hbytes : bodyBytes? body with f | _ | b
      · simpa [Call.rebuffed, Call.lists, htruth, hbytes] using h
      · simpa [Call.rebuffed, Call.lists, htruth, hbytes] using h
      · have hone : (Call.post url body).lists = [⟨none, false, 1⟩] := by simp [Call.lists, htruth, hbytes]
        have hrelease := @release_last (posted b s) s.lists _ opened rfl rfl
        simp only [Call.rebuffed, htruth, hbytes, if_true]
        rw [hone, hrelease]
        refine ⟨h.append rfl (fun l hl => ?_) rfl h.unbound h.uncollecting, rfl⟩
        rw [List.mem_singleton.1 hl]
        exact ⟨rfl, rfl⟩

/-- **A call leaves its session bare**, with the list that it has made. -/
theorem Bare.call {c : Connection ν} (hc : c.session = some s) (hs : Sound s) (takes : c.refusesFields = false)
    (h : Bare s) (k : Call) : ∃ t, (c.call k).2.session = some t ∧ (c.call k).2.strays = c.strays
      ∧ Bare t ∧ t.lists = s.lists ++ k.lists := by
  rcases k.accepted_or with ⟨text, u, body, accepted⟩ | hno
  · rw [call_served hc hs takes accepted]
    exact ⟨_, rfl, rfl, h.served hs.1 accepted c.settings.cap.toInt c.reporter c.network⟩
  · rw [call_rebuffed hc hs takes hno]
    exact ⟨_, rfl, rfl, h.rebuffed hs.1 k⟩

end

section

variable {ν : Type} [Network ν] {c : Connection (Recorded ν)}

/-! ## Every connection -/

/-- A connection between two calls: its session is bare, and the lists that never came to a session are spent. -/
structure Cleared (c : Connection (Recorded ν)) : Prop where
  session : ∀ s, c.session = some s → Bare s
  strays : ∀ l ∈ c.strays, l.Spent

/-- The header lists that the calls on a connection have made, those of a session that is gone left out. -/
def madeLists (c : Connection (Recorded ν)) : List HeaderList := c.strays ++ (c.session.map (·.lists)).getD []

theorem Cleared.call (h : Cleared c) (fit : Fit c) (k : Call) :
    Cleared (c.call k).2 ∧ (c.call k).2.madeLists = c.madeLists ++ k.lists := by
  cases hc : c.session with
  | none =>
    rw [call_closed_eq hc]
    refine ⟨⟨fun s hs => (nomatch hc.symm.trans hs), fun l hl => ?_⟩, ?_⟩
    · exact (List.mem_append.1 hl).elim (h.strays l) (spent_lists k l)
    · simp [madeLists, answerWith, hc]
  | some s =>
    obtain ⟨t, ht, hstrays, hbare, hlists⟩ := (h.session s hc).call hc (fit.sound s hc) fit.takesFields k
    refine ⟨⟨fun t' ht' => ?_, fun l hl => h.strays l (hstrays ▸ hl)⟩, ?_⟩
    · cases ht.symm.trans ht'
      exact hbare
    · simp [madeLists, hc, ht, hstrays, hlists]

/-- A new session is nothing but what it is told. -/
theorem config_sessionFor {settings : Settings} {s : Session} (h : sessionFor settings = .ok s) : config s = s := by
  obtain ⟨t, v, htimeout, hverify, h⟩ := sessionFor_steps h
  obtain ⟨-, htimeout⟩ := Session.whenOpen_ok htimeout
  obtain ⟨x, -, hx⟩ := bind_ok htimeout
  cases hx
  obtain ⟨-, hverify⟩ := Session.whenOpen_ok hverify
  cases hverify
  obtain ⟨-, h⟩ := Session.whenOpen_ok h
  split at h
  · cases h
    rfl
  · cases h

theorem cleared_of_make {settings : Settings} {creation : Option Fault} {r r' : Reporter} {w : Recorded ν} {o : Outcome}
    (h : make settings creation r w = (.ok (o, some c), r')) : Cleared c := by
  obtain ⟨s, hsession, rfl⟩ := make_ok (congrArg Prod.fst h)
  refine ⟨fun t ht => ?_, nofun⟩
  cases ht
  rw [← config_sessionFor hsession]
  exact ⟨rfl, rfl, rfl, nofun⟩

theorem Cleared.close (h : Cleared c) : Cleared c.close := by
  unfold Connection.close
  split
  · exact h
  · exact ⟨fun s hs => (nomatch hs), h.strays⟩

theorem Reached.cleared (h : Reached c) : Cleared c := by
  induction h with
  | made h => exact cleared_of_make h
  | call h k ih => exact (ih.call h.fit k).1
  | close _ ih => exact ih.close
  | heard _ l ih => exact ⟨ih.session, ih.strays⟩
  | turn _ n ih => exact ⟨ih.session, ih.strays⟩

/-- **A call takes down what it sets up.**  However a call ends, the session of the connection, if it has one, has no
header list attached, no diagnostic buffer bound and nothing that collects.  The call has made one header list if it is
a post of a body to a URL, and none otherwise; that list, like all before it, has been released once.  Closing the
connection leaves it so. -/
theorem taken_down (h : Reached c) (k : Call) :
    Cleared (c.call k).2 ∧ (c.call k).2.madeLists = c.madeLists ++ k.lists ∧ (∀ l ∈ k.lists, l.Spent)
      ∧ Cleared c.close := by
  obtain ⟨hcleared, hlists⟩ := h.cleared.call h.fit k
  exact ⟨hcleared, hlists, spent_lists k, h.cleared.close⟩

/-- A post out of which a fault escapes: its list is released all the same. -/
theorem taken_down_escaped :
    let c := facing [⟨.runtime, none, some "boom"⟩] []
    let a := c.call (.post (.text "http://h/") (.value (.text "b")))
    a.1.isOk = false ∧ Cleared a.2 ∧ a.2.madeLists = [⟨none, false, 1⟩] := by
  intro c a
  obtain ⟨hcleared, hlists, -⟩ := taken_down (reached_facing [⟨.runtime, none, some "boom"⟩] [])
    (.post (.text "http://h/") (.value (.text "b")))
  exact ⟨by decide +kernel, hcleared, hlists⟩

end

end Connection
end Transport
