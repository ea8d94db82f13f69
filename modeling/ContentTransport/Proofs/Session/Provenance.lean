import ContentTransport.Proofs.Network.Sources
import ContentTransport.Proofs.Session.Reuse
/-!
# Provenance — which bytes the answer of a transfer is made from

What a session is told in a transfer is what a reader says of the reads of one stream, all of them after the request, and
the reads give bytes of replies that are taken meanwhile (`answers_come_from_reads`).  That is so unless an earlier reply
left something over: bytes behind it that were read with it stay in the session, and bytes that were not read stay on the
stream.  Neither are thrown away, and the next transfer on the stream takes them for the beginning of its reply
(`surplus_is_taken_for_a_reply`).
-/
namespace Transport

open ScriptedNetwork

namespace Http

def Event.status? : Event → Option Nat
  | .status n => some n
  | .piece _ => none

def Event.piece? : Event → Option Bytes
  | .status _ => none
  | .piece p => some p

/-- The status that is said, the last one if there are several. -/
def statusSaid (es : List Event) : Option Nat := (es.filterMap Event.status?).getLast?

def piecesSaid (es : List Event) : List Bytes := es.filterMap Event.piece?

theorem statusSaid_append (es fs : List Event) : statusSaid (es ++ fs) = (statusSaid fs).or (statusSaid es) := by
  rw [statusSaid, List.filterMap_append, List.getLast?_append]
  rfl

theorem piecesSaid_append (es fs : List Event) : piecesSaid (es ++ fs) = piecesSaid es ++ piecesSaid fs :=
  List.filterMap_append

theorem statusSaid_reply (n : Nat) (ps : List Bytes) : statusSaid (Reader.reply n ps) = some n := by
  have h : (ps.map Event.piece).filterMap Event.status? = [] := by
    refine List.filterMap_eq_nil_iff.2 fun e he => ?_
    obtain ⟨p, -, rfl⟩ := List.mem_map.1 he
    rfl
  have hn : (Reader.reply n ps).filterMap Event.status? = n :: (ps.map Event.piece).filterMap Event.status? := rfl
  rw [statusSaid, hn, h]
  rfl

theorem piecesSaid_reply (n : Nat) (ps : List Bytes) : piecesSaid (Reader.reply n ps) = ps := by
  have h : Event.piece? ∘ Event.piece = some := rfl
  rw [piecesSaid, Reader.reply, List.filterMap_cons_none rfl, List.filterMap_map, h, List.filterMap_some]

end Http

namespace Session

open Http (Event statusSaid piecesSaid)

/-- What the session has been told between two moments. -/
structure Said (said : List Event) (s t : Session) : Prop where
  status : t.status = (statusSaid said).or s.status
  passed : t.passed = (if s.receiver.isSome then (piecesSaid said).reverse else []) ++ s.passed
  receiver : t.receiver = s.receiver

theorem Said.nil {s t : Session} (status : t.status = s.status) (passed : t.passed = s.passed)
    (receiver : t.receiver = s.receiver) : Said [] s t := by
  refine ⟨status, ?_, receiver⟩
  rw [passed]
  split <;> rfl

theorem Said.trans {es fs : List Event} {s t u : Session} (h : Said es s t) (h' : Said fs t u) :
    Said (es ++ fs) s u where
  status := by
    rw [h'.status, h.status, Http.statusSaid_append, Option.or_assoc]
  passed := by
    rw [h'.passed, h.passed, h.receiver, Http.piecesSaid_append]
    cases s.receiver.isSome with
    | true => simp only [if_true, List.reverse_append, List.append_assoc]
    | false => rfl
  receiver := h'.receiver.trans h.receiver

theorem said_deliver (p : Bytes) (s : Session) : Said [.piece p] s (s.deliver p).2 := by
  cases h : s.receiver with
  | none =>
    rw [deliver_of_none h]
    refine ⟨rfl, ?_, rfl⟩
    rw [h]
    rfl
  | some r =>
    rw [deliver_of_some h]
    refine ⟨rfl, ?_, rfl⟩
    rw [h]
    rfl

theorem said_obey (es : List Event) (s : Session) :
    ∃ said, said <+: es ∧ ((s.obey es).1 = none → said = es) ∧ Said said s (s.obey es).2 := by
  induction es generalizing s with
  | nil => exact ⟨[], List.prefix_refl _, fun _ => rfl, .nil rfl rfl rfl⟩
  | cons e es ih =>
    cases e with
    | status n =>
      obtain ⟨said, hp, hall, hs⟩ := ih { s with status := some n }
      have hn : Said [.status n] s { s with status := some n } := by
        refine ⟨rfl, ?_, rfl⟩
        cases s.receiver <;> rfl
      exact ⟨.status n :: said, List.prefix_cons_inj _ |>.2 hp, fun h => congrArg _ (hall h), hn.trans hs⟩
    | piece p =>
      have hd := said_deliver p s
      simp only [obey]
      generalize s.deliver p = r at hd ⊢
      obtain ⟨b, t⟩ := r
      cases b with
      | none =>
        obtain ⟨said, hp, hall, hs⟩ := ih t
        exact ⟨.piece p :: said, List.prefix_cons_inj _ |>.2 hp, fun h => congrArg _ (hall h), hd.trans hs⟩
      | some b =>
        refine ⟨[.piece p], ⟨es, rfl⟩, ?_, hd⟩
        intro h
        cases h

/-! ## A reply -/

/-- What the end of the receiving adds: calls that give nothing, after which the session knows no more than before. -/
structure Ended (id : StreamId) (s : Session) (w : Recorded ScriptedNetwork)
    (a : Option Break × Session × Recorded ScriptedNetwork) (tail : List WireEvent) : Prop where
  wire : a.2.2.wire = w.wire ++ tail
  unwritten : ∀ e ∈ tail, ∀ i, e.writeTo? i = none
  here : ∀ i n x, .read i n x ∈ tail → i = id
  data : WireEvent.dataFrom id tail = []
  told : Said [] s a.2.1
  count : a.2.1.received = s.received
  taken : ∃ taken, w.network.replies = taken ++ a.2.2.network.replies

theorem Ended.trans {id : StreamId} {s t : Session} {w v : Recorded ScriptedNetwork} {b : Option Break}
    {a : Option Break × Session × Recorded ScriptedNetwork} {es fs : List WireEvent} (h : Ended id s w (b, t, v) es)
    (h' : Ended id t v a fs) : Ended id s w a (es ++ fs) where
  wire := by
    have hw : v.wire = w.wire ++ es := h.wire
    rw [h'.wire, hw, List.append_assoc]
  unwritten e he := by
    rcases List.mem_append.1 he with he | he
    · exact h.unwritten e he
    · exact h'.unwritten e he
  here i n x he := by
    rcases List.mem_append.1 he with he | he
    · exact h.here i n x he
    · exact h'.here i n x he
  data := by rw [WireEvent.dataFrom_append, h.data, h'.data]; rfl
  told := h.told.trans h'.told
  count := h'.count.trans h.count
  taken := by
    obtain ⟨rs, hr⟩ := h.taken
    obtain ⟨rs', hr'⟩ := h'.taken
    have hr : w.network.replies = rs ++ v.network.replies := hr
    exact ⟨rs ++ rs', by rw [hr, hr', List.append_assoc]⟩

theorem Ended.refl (id : StreamId) (b : Option Break) (s : Session) (w : Recorded ScriptedNetwork) :
    Ended id s w (b, s, w) [] :=
  ⟨(List.append_nil _).symm, fun _ h => (nomatch h), fun _ _ _ h => (nomatch h), rfl, .nil rfl rfl rfl, rfl, [], rfl⟩

theorem ended_finish (id : StreamId) (b : Option Break) (keep ended : Bool) (surplus : Bytes) (s : Session)
    (w : Recorded ScriptedNetwork) :
    ∃ tail, Ended id s w (b, s.finish keep surplus ended w) tail := by
  unfold finish
  cases keep with
  | true =>
    exact ⟨[], (List.append_nil _).symm, fun _ h => (nomatch h), fun _ _ _ h => (nomatch h), rfl, .nil rfl rfl rfl, rfl,
      [], rfl⟩
  | false =>
    obtain ⟨ds, hw, hd⟩ := drop_wire s w
    have hs := drop_fst s w
    refine ⟨ds, hw, fun e he i => ?_, fun i n x he => ?_, WireEvent.dataFrom_of_none ?_, ?_, ?_, [], ?_⟩
    · obtain ⟨_, rfl⟩ := hd e he
      rfl
    · exact nomatch hd _ he
    · refine List.filterMap_eq_nil_iff.2 fun e he => ?_
      obtain ⟨_, rfl⟩ := hd e he
      rfl
    · rw [if_neg Bool.false_ne_true, hs]
      exact .nil rfl rfl rfl
    · rw [if_neg Bool.false_ne_true, hs]
    · exact (drop_rest s w).2.2.2.symm

theorem ended_finishAtEnd (id : StreamId) (keep : Bool) (r : Http.Reader) (s : Session) (w : Recorded ScriptedNetwork) :
    ∃ tail, Ended id s w (finishAtEnd keep r s w) tail := by
  unfold finishAtEnd
  split
  · exact ⟨[], .refl _ _ _ _⟩
  · exact ended_finish _ _ _ _ _ s w

theorem ended_read {id : StreamId} {n : Nat} {x : Except Fault Bytes} (b : Option Break) (s : Session)
    {w w' : Recorded ScriptedNetwork} (read : Network.read id n w = (x, w')) (hx : WireEvent.data? x = none) :
    Ended id s w (b, s, w') [.read id n x] := by
  obtain ⟨hread, hwire⟩ := Recorded.read_eq read
  -- whose bytes were read does not matter here, since there are none
  have hany : Sourced id (w.network.streams.map (·.tape.data)) w.network := by
    intro s hs
    obtain ⟨hlt, he⟩ := List.getElem?_eq_some_iff.1 hs
    rw [← he]
    exact .inr (List.mem_map_of_mem (List.getElem_mem hlt))
  obtain ⟨taken, hr, -⟩ := read_sourced hread hany
  refine ⟨hwire, fun e he i => ?_, fun i n x he => ?_, ?_, .nil rfl rfl rfl, rfl, taken, hr⟩
  · cases List.mem_singleton.1 he
    rfl
  · cases List.mem_singleton.1 he
    rfl
  · rw [WireEvent.dataFrom, WireEvent.readsFrom_read, List.filterMap_cons_none hx]
    rfl

/-- A reply that has come to its end, by itself or with the stream. -/
def Done (heard : List Event × Http.Reader × Http.Reader.Standing) : Prop :=
  (∃ surplus, heard.2.2 = .complete surplus) ∨ (heard.2.2 = .hungry ∧ heard.2.1.atEnd = none)

theorem Ending.ended {id : StreamId} {keep ended : Bool} {heard : List Event × Http.Reader × Http.Reader.Standing}
    {s : Session} {w : Recorded ScriptedNetwork} {a : Option Break × Session × Recorded ScriptedNetwork}
    (e : Ending id keep ended heard.2.1 heard.2.2 s w a) :
    (∃ tail, Ended id s w a tail) ∧ (a.1 = none → Done heard) := by
  obtain ⟨said, r, st⟩ := heard
  have hend {v : Recorded ScriptedNetwork} (h : (finishAtEnd keep r s v).1 = none) : r.atEnd = none := by
    unfold finishAtEnd at h
    split at h
    · cases h
    · rename_i hn
      exact hn
  cases e with
  | complete => exact ⟨ended_finish _ _ _ _ _ s w, fun _ => .inl ⟨_, rfl⟩⟩
  | switched => exact ⟨⟨[], .refl _ _ _ _⟩, fun h => nomatch h⟩
  | broken => exact ⟨⟨[], .refl _ _ _ _⟩, fun h => nomatch h⟩
  | silent _ => exact ⟨ended_finishAtEnd _ _ _ s w, fun h => .inr ⟨rfl, hend h⟩⟩
  | closed _ read =>
    obtain ⟨tail, ht⟩ := ended_finishAtEnd id keep r s _
    exact ⟨⟨_, (ended_read none s read rfl).trans ht⟩, fun h => .inr ⟨rfl, hend h⟩⟩
  | failed _ read => exact ⟨⟨_, ended_read _ s read rfl⟩, fun h => nomatch h⟩

/-! ## An exchange -/

/-- Whether the request for a URL proposes another protocol. -/
def proposes (u : Url) (s : Session) : Bool :=
  match (s.request u).write with
  | .ok out => out.proposes
  | .error _ => false

theorem proposes_of_ok {u : Url} {s : Session} {out : Http.Written} (h : (s.request u).write = .ok out) :
    s.proposes u = out.proposes := by
  unfold proposes
  rw [h]

/-- What is heard over some reads, in reply to the request for a URL; the reply begins with what was left over. -/
def hearing (u : Url) (s : Session) (left : Bytes) (reads : List Bytes) :
    List Event × Http.Reader × Http.Reader.Standing :=
  (({ proposed := s.proposes u } : Http.Reader).feed left).hear reads

/-- Each read of a stream comes after the whole request. -/
def Asked (u : Url) (s : Session) (es : List WireEvent) : Prop :=
  ∀ fs id n x rest, es = fs ++ .read id n x :: rest → WireEvent.writesTo id fs = (s.pieces u).map (·, true)

theorem Asked.of_unread {u : Url} {s : Session} {es : List WireEvent} (h : ∀ id n x, .read id n x ∉ es) :
    Asked u s es := by
  intro fs id n x rest he
  refine absurd ?_ (h id n x)
  rw [he]
  exact List.mem_append_right _ List.mem_cons_self

theorem read_not_mem_writes (id i : StreamId) (n : Nat) (x : Except Fault Bytes) (ps : List Bytes) :
    .read i n x ∉ WireEvent.writes id ps := by
  intro h
  obtain ⟨_, -, he⟩ := WireEvent.mem_writes h
  cases he

theorem split_read {es fs gs rest : List WireEvent} {e : WireEvent} (h : es ++ fs = gs ++ e :: rest) :
    (∃ ms, gs = es ++ ms ∧ fs = ms ++ e :: rest) ∨ ∃ ms, es = gs ++ e :: ms := by
  rcases List.append_eq_append_iff.1 h with ⟨ms, hg, hf⟩ | ⟨ms, he, hr⟩
  · exact .inl ⟨ms, hg, hf⟩
  · cases ms with
    | nil => exact .inl ⟨[], by rw [he, List.append_nil, List.append_nil], hr.symm⟩
    | cons m ms =>
      simp only [List.cons_append, List.cons.injEq] at hr
      exact .inr ⟨ms, by rw [he, hr.1]⟩

/-- What an exchange on a stream adds to the record, and what the session is told by it. -/
structure Heard (u : Url) (id : StreamId) (left : Bytes) (s : Session) (w : Recorded ScriptedNetwork)
    (a : Option Break × Session × Recorded ScriptedNetwork) (es : List WireEvent) (said : List Event) : Prop where
  wire : a.2.2.wire = w.wire ++ es
  heard : said <+: (s.hearing u left (WireEvent.dataFrom id es)).1
  done : a.1 = none → said = (s.hearing u left (WireEvent.dataFrom id es)).1
    ∧ Done (s.hearing u left (WireEvent.dataFrom id es))
  told : Said said s a.2.1
  count : a.2.1.received = s.received + (WireEvent.dataFrom id es).flatten.length
  here : ∀ i n x, .read i n x ∈ es → i = id
  asked : Asked u s es
  read : ∀ xs, Sourced id xs w.network → ∃ taken, w.network.replies = taken ++ a.2.2.network.replies
    ∧ ∀ p ∈ WireEvent.dataFrom id es, PartOf (xs ++ texts taken) p

theorem dataFrom_writes (id : StreamId) (ps : List Bytes) : WireEvent.dataFrom id (WireEvent.writes id ps) = [] :=
  WireEvent.dataFrom_of_none (WireEvent.readsFrom_writes id id ps)

theorem Heard.of_unread {u : Url} {id : StreamId} {left : Bytes} {s t : Session} {w w' : Recorded ScriptedNetwork}
    {b : Break} {es : List WireEvent} (wire : w'.wire = w.wire ++ es) (unread : ∀ i n x, .read i n x ∉ es)
    (told : Said [] s t) (count : t.received = s.received)
    (replies : ∀ xs, Sourced id xs w.network → w'.network.replies = w.network.replies) :
    Heard u id left s w (some b, t, w') es [] := by
  have hdata : WireEvent.dataFrom id es = [] := by
    refine WireEvent.dataFrom_of_none (List.filterMap_eq_nil_iff.2 fun e he => ?_)
    cases e with
    | read i n x => exact absurd he (unread i n x)
    | _ => rfl
  refine ⟨wire, List.nil_prefix, fun h => (nomatch h), told, ?_, fun i n x h => absurd h (unread i n x), .of_unread unread,
    fun xs hs => ⟨[], ?_, fun p hp => ?_⟩⟩
  · rw [hdata]
    exact count
  · exact (replies xs hs).symm
  · rw [hdata] at hp
    cases hp

theorem asked_after_writes {u : Url} {s : Session} {id : StreamId} {es : List WireEvent}
    (unwritten : ∀ e ∈ es, e.writeTo? id = none) (here : ∀ i n x, .read i n x ∈ es → i = id) :
    Asked u s (WireEvent.writes id (s.pieces u) ++ es) := by
  intro fs i n x rest he
  rcases split_read he with ⟨ms, rfl, hes⟩ | ⟨ms, hw⟩
  · cases here i n x (by
      rw [hes]
      exact List.mem_append_right _ List.mem_cons_self)
    have hms : WireEvent.writesTo id ms = [] := List.filterMap_eq_nil_iff.2 fun e hm => unwritten e (by
      rw [hes]
      exact List.mem_append_left _ hm)
    rw [WireEvent.writesTo_append, WireEvent.writesTo_writes, hms, List.append_nil]
  · refine absurd ?_ (read_not_mem_writes id i n x (s.pieces u))
    rw [hw]
    exact List.mem_append_right _ List.mem_cons_self

theorem Heard.of_reads {u : Url} {id : StreamId} {left : Bytes} {s t : Session} {w mid mid' : Recorded ScriptedNetwork}
    {a : Option Break × Session × Recorded ScriptedNetwork} {reads : List Bytes} {tail : List WireEvent}
    {said : List Event} (path : Writes id w (s.pieces u) mid) (read : Reads id s.readSize mid reads mid')
    (told : Said said s t) (count : t.received = s.received + reads.flatten.length)
    (ended : Ended id t mid' a tail) (heard : said <+: (s.hearing u left reads).1)
    (done : a.1 = none → said = (s.hearing u left reads).1 ∧ Done (s.hearing u left reads)) :
    Heard u id left s w a (WireEvent.writes id (s.pieces u) ++ (WireEvent.reads id s.readSize reads ++ tail)) said := by
  have hdata : WireEvent.dataFrom id
      (WireEvent.writes id (s.pieces u) ++ (WireEvent.reads id s.readSize reads ++ tail)) = reads := by
    rw [WireEvent.dataFrom_append, WireEvent.dataFrom_append, dataFrom_writes, ended.data,
      WireEvent.dataFrom_reads _ _ read.ne_nil, List.append_nil]
    rfl
  have hhere : ∀ i n x, .read i n x ∈ WireEvent.reads id s.readSize reads ++ tail → i = id := by
    intro i n x he
    rcases List.mem_append.1 he with he | he
    · obtain ⟨p, -, he⟩ := WireEvent.mem_reads he
      cases he
      rfl
    · exact ended.here i n x he
  refine ⟨?_, by rw [hdata]; exact heard, by rw [hdata]; exact done, ?_, ?_, fun i n x he => ?_, ?_, fun xs hs => ?_⟩
  · rw [ended.wire, read.wire, path.wire, List.append_assoc, List.append_assoc]
  · have ht := told.trans ended.told
    rwa [List.append_nil] at ht
  · rw [hdata, ended.count, count]
  · rcases List.mem_append.1 he with he | he
    · exact absurd he (read_not_mem_writes _ _ _ _ _)
    · exact hhere i n x he
  · refine asked_after_writes (fun e he => ?_) hhere
    rcases List.mem_append.1 he with he | he
    · obtain ⟨p, -, rfl⟩ := WireEvent.mem_reads he
      rfl
    · exact ended.unwritten e he id
  · obtain ⟨hreplies, hs'⟩ := path.network.sourced hs
    obtain ⟨taken, hr, -, hp⟩ := read.network.sourced hs'
    obtain ⟨taken', hr'⟩ := ended.taken
    refine ⟨taken ++ taken', ?_, fun p hm => ?_⟩
    · rw [← hreplies, hr, hr', List.append_assoc]
    · rw [hdata] at hm
      refine (hp p hm).mono fun x hx => ?_
      rw [texts_append, ← List.append_assoc]
      exact List.mem_append_left _ hx

theorem Course.heard {u : Url} {id : StreamId} {left : Bytes} {ended : Bool} {s : Session}
    {w : Recorded ScriptedNetwork} {a : Option Break × Session × Recorded ScriptedNetwork}
    (c : Course u id left ended s w a) : ∃ es said, Heard u id left s w a es said := by
  cases c with
  | refused => exact ⟨[], [], .of_unread (List.append_nil _).symm (fun _ _ _ h => nomatch h) (.nil rfl rfl rfl) rfl
      fun _ _ => rfl⟩
  | @unsent out done rest p f mid w' request pieces path last =>
    obtain ⟨hwrite, hwire⟩ := Recorded.write_eq last
    rw [path.wire, List.append_assoc] at hwire
    refine ⟨_, [], .of_unread hwire (fun i n x he => ?_) (.nil rfl rfl rfl) rfl fun xs hs => ?_⟩
    · rcases List.mem_append.1 he with he | he
      · exact read_not_mem_writes _ _ _ _ _ he
      · exact nomatch List.mem_singleton.1 he
    · obtain ⟨hr, hs'⟩ := path.network.sourced hs
      exact (write_sourced hwrite hs').1.trans hr
  | @withdrawn out f mid request path fault =>
    exact ⟨_, [], .of_unread path.wire (fun i n x => read_not_mem_writes _ _ _ _ _) (.nil rfl rfl rfl) rfl
      fun xs hs => (path.network.sourced hs).1⟩
  | @answered out mid a request path fault receipt =>
    have hreader (reads : List Bytes) : (({ proposed := out.proposes } : Http.Reader).feed left).hear reads
        = s.hearing u left reads := by rw [hearing, proposes_of_ok request]
    rw [← pieces_of_ok request] at path
    cases receipt with
    | @interrupted reads mid' b t read hungry unended obeyed =>
      obtain ⟨said, hp, -, hs⟩ := said_obey ((({ proposed := out.proposes } : Http.Reader).feed left).hear reads).1
        (s.stand .busy)
      rw [obeyed] at hs
      rw [hreader] at hp
      have ht : t.received = s.received := by rw [told_of_obey obeyed]; rfl
      have hs : Said said s (t.counting reads.flatten.length) := ⟨hs.status, hs.passed, hs.receiver⟩
      exact ⟨_, said, .of_reads path read hs (congrArg (· + reads.flatten.length) ht) (.refl _ _ _ _) hp
        fun h => nomatch h⟩
    | @heard reads mid' t a read hungry unended obeyed ending =>
      obtain ⟨said, hp, hall, hs⟩ := said_obey ((({ proposed := out.proposes } : Http.Reader).feed left).hear reads).1
        (s.stand .busy)
      rw [obeyed] at hs hall
      rw [hreader] at hp hall ending
      have ht : t.received = s.received := by rw [told_of_obey obeyed]; rfl
      have hs : Said said s (t.counting reads.flatten.length) := ⟨hs.status, hs.passed, hs.receiver⟩
      obtain ⟨⟨tail, hend⟩, hdone⟩ := ending.ended
      exact ⟨_, said, .of_reads path read hs (congrArg (· + reads.flatten.length) ht) hend hp
        fun h => ⟨hall rfl, hdone h⟩⟩

/-! ## A transfer -/

theorem proposes_of_options {s t : Session} (h : s.options = t.options) (u : Url) : s.proposes u = t.proposes u := by
  unfold proposes
  rw [request_of_options h]

theorem hearing_of_options {s t : Session} (h : s.options = t.options) (u : Url) : s.hearing u = t.hearing u := by
  unfold hearing
  rw [proposes_of_options h]

theorem dataFrom_of_others {id i : StreamId} {es : List WireEvent} (h : ∀ i n x, .read i n x ∈ es → i = id)
    (hne : i ≠ id) : WireEvent.dataFrom i es = [] := by
  refine WireEvent.dataFrom_of_none (List.filterMap_eq_nil_iff.2 fun e he => ?_)
  cases e with
  | read j n x => exact if_neg fun hj : j = i => hne (hj.symm.trans (h j n x he))
  | _ => rfl

theorem Opening.quiet {o : Origin} {s : Session} {w : Recorded ScriptedNetwork}
    {a : Except Break StreamId × Session × Recorded ScriptedNetwork} (c : Opening o s w a) :
    Said [] s a.2.1 ∧ a.2.1.received = s.received ∧ a.2.2.network.replies = w.network.replies
      ∧ ∀ id, a.1 = .ok id → Sourced id [] a.2.2.network := by
  have hdrop := (drop_rest s w).2.2.2
  cases c with
  | unconnected connect =>
    exact ⟨.nil rfl rfl rfl, rfl, (connect_replies (Recorded.connect_eq connect).1).trans hdrop, fun _ h => nomatch h⟩
  | plain _ connect =>
    have hc := (Recorded.connect_eq connect).1
    exact ⟨.nil rfl rfl rfl, rfl, (connect_replies hc).trans hdrop, fun _ h => by cases h; exact connect_sourced hc⟩
  | secured _ connect secure =>
    have hc := (Recorded.connect_eq connect).1
    have hs := (Recorded.secure_eq secure).1
    obtain ⟨-, hr, hid⟩ := secure_spec hs
    refine ⟨.nil rfl rfl rfl, rfl, (hr.trans (connect_replies hc)).trans hdrop, fun i h => ?_⟩
    cases h
    rcases hid with ⟨_, _, he⟩ | hid
    · cases he
    · cases hid
      exact secure_sourced hs (connect_sourced hc)
  | @unsecured id mid w' f b _ connect secure _ =>
    have hc := (Recorded.connect_eq connect).1
    obtain ⟨-, hr, -⟩ := secure_spec (Recorded.secure_eq secure).1
    have hclose : (Network.close id w').network.replies = w'.network.replies := (close_rest id w'.network).2.2.2
    exact ⟨.nil rfl rfl rfl, rfl, ((hclose.trans hr).trans (connect_replies hc)).trans hdrop, fun _ h => nomatch h⟩
  | abandoned _ connect secure _ =>
    have hc := (Recorded.connect_eq connect).1
    obtain ⟨-, hr, -⟩ := secure_spec (Recorded.secure_eq secure).1
    exact ⟨.nil rfl rfl rfl, rfl, (hr.trans (connect_replies hc)).trans hdrop, fun _ h => nomatch h⟩

theorem Asked.append {u : Url} {s : Session} {es fs : List WireEvent} (h : Asked u s es) (h' : Asked u s fs)
    (unwritten : ∀ i n x, .read i n x ∈ fs → WireEvent.writesTo i es = []) : Asked u s (es ++ fs) := by
  intro gs i n x rest he
  rcases split_read he with ⟨ms, rfl, hfs⟩ | ⟨ms, hes⟩
  · rw [WireEvent.writesTo_append, unwritten i n x (by
      rw [hfs]
      exact List.mem_append_right _ List.mem_cons_self), List.nil_append]
    exact h' ms i n x rest hfs
  · exact h gs i n x ms hes

theorem Asked.of_options {u : Url} {s t : Session} {es : List WireEvent} (h : Asked u s es)
    (hs : s.options = t.options) : Asked u t es := by
  unfold Asked
  rw [← pieces_of_options hs u]
  exact h

/-- What a transfer on a new stream adds to the record, and what the session is told by it. -/
theorem Anew.heard {u : Url} {s : Session} {w : Recorded ScriptedNetwork}
    {a : Option Break × Session × Recorded ScriptedNetwork} (c : Anew u s w a) (h : Sound s.held w) :
    ∃ id es said, Heard u id [] s w a es said ∧ w.network.streams.length ≤ id := by
  cases c with
  | @unopened b t w' opening =>
    obtain ⟨es, ho⟩ := opening.opened h
    obtain ⟨htold, hcount, hreplies, -⟩ := opening.quiet
    exact ⟨_, es, [], .of_unread ho.wire ho.silent.unread htold hcount fun _ _ => hreplies, Nat.le_refl _⟩
  | @opened id t w' a opening course =>
    obtain ⟨es, ho⟩ := opening.opened h
    obtain ⟨htold, hcount, hreplies, hsource⟩ := opening.quiet
    obtain ⟨fs, said, hx⟩ := course.heard
    have hhearing := hearing_of_options ho.options u
    have hdata : WireEvent.dataFrom id (es ++ fs) = WireEvent.dataFrom id fs := by
      rw [WireEvent.dataFrom_append, WireEvent.dataFrom_of_none (ho.silent.readsFrom id)]
      rfl
    have hwire : w'.wire = w.wire ++ es := ho.wire
    refine ⟨id, es ++ fs, said, ⟨?_, ?_, ?_, ?_, ?_, fun i n x he => ?_, ?_, fun xs _ => ?_⟩, (ho.fresh id rfl).1⟩
    · rw [hx.wire, hwire, List.append_assoc]
    · rw [hdata, ← hhearing]
      exact hx.heard
    · rw [hdata, ← hhearing]
      exact hx.done
    · exact htold.trans hx.told
    · rw [hdata, hx.count, hcount]
    · rcases List.mem_append.1 he with he | he
      · exact absurd he (ho.silent.unread i n x)
      · exact hx.here i n x he
    · exact (Asked.of_unread ho.silent.unread).append (hx.asked.of_options ho.options) fun i _ _ _ => ho.silent.writesTo i
    · obtain ⟨taken, hr, hp⟩ := hx.read xs ((hsource id rfl).mono fun _ hm => nomatch hm)
      rw [hdata, ← hreplies]
      exact ⟨taken, hr, hp⟩

/-- What is left over on the stream that a request for an origin begins with. -/
def leftover (o : Origin) (s : Session) (w : Recorded ScriptedNetwork) : Bytes :=
  match s.reusable? o w with
  | some (_, left, _) => left
  | none => []

/-- The text of the reply that the stream of the request has not delivered to its end, if there is one. -/
def unread (o : Origin) (s : Session) (w : Recorded ScriptedNetwork) : List Bytes :=
  match s.reusable? o w with
  | some (l, _, _) =>
    match w.network.stream? l.stream with
    | some t => if t.tape.isSpent then [] else [t.tape.data]
    | none => []
  | none => []

theorem leftover_of_some {o : Origin} {s : Session} {w : Recorded ScriptedNetwork} {l : Link} {left : Bytes}
    {ended : Bool} (h : s.reusable? o w = some (l, left, ended)) : s.leftover o w = left := by
  unfold leftover
  rw [h]

theorem sourced_unread {o : Origin} {s : Session} {w : Recorded ScriptedNetwork} {l : Link} {left : Bytes}
    {ended : Bool} (h : s.reusable? o w = some (l, left, ended)) : Sourced l.stream (s.unread o w) w.network := by
  intro t ht
  unfold unread
  rw [h]
  dsimp only
  rw [ht]
  dsimp only
  by_cases hs : t.tape.isSpent = true
  · exact .inl hs
  · rw [if_neg hs]
    exact .inr List.mem_cons_self

theorem sourced_absent {id : StreamId} {w : ScriptedNetwork} (h : w.streams.length ≤ id) : Sourced id [] w := by
  intro s hs
  have hnone : w.streams[id]? = none := List.getElem?_eq_none h
  have hs : w.streams[id]? = some s := hs
  rw [hnone] at hs
  cases hs

/-- Where the answer of a transfer comes from: what the session is told is what a reader says of the reads of one
stream, which all come after the request; `earlier` was said of what was left over, before the stream turned out to be
dead. -/
structure Obtained (u : Url) (s : Session) (w : Recorded ScriptedNetwork)
    (a : Option Break × Session × Recorded ScriptedNetwork) (id : StreamId) (es : List WireEvent)
    (earlier said : List Event) : Prop where
  wire : a.2.2.wire = w.wire ++ es
  told : Said (earlier ++ said) s a.2.1
  before : earlier <+: (s.hearing u (s.leftover u.origin w) []).1
  heard : said <+: (s.hearing u (s.leftOn id) (WireEvent.dataFrom id es)).1
  done : a.1 = none → said = (s.hearing u (s.leftOn id) (WireEvent.dataFrom id es)).1
    ∧ Done (s.hearing u (s.leftOn id) (WireEvent.dataFrom id es))
  elsewhere : ∀ i, i ≠ id → WireEvent.dataFrom i es = []
  asked : Asked u s es
  read : ∃ taken, w.network.replies = taken ++ a.2.2.network.replies
    ∧ ∀ p ∈ WireEvent.dataFrom id es, PartOf (s.unread u.origin w ++ texts taken) p
  clean : s.leftover u.origin w = [] → s.leftOn id = []

theorem hearing_nothing (u : Url) (s : Session) : (s.hearing u [] []).1 = [] := rfl

theorem Sound.leftOn_absent {s : Session} {w : Recorded ScriptedNetwork} {id : StreamId} (h : Sound s.held w)
    (hid : w.network.streams.length ≤ id) : s.leftOn id = [] :=
  leftOn_of_ne fun l hl he => by
    have hheld : s.held = some (l.stream, l.origin) := by rw [held, hl]; rfl
    exact Nat.not_lt.2 hid (he ▸ h.lt hheld)

theorem Heard.obtained {u : Url} {s : Session} {w : Recorded ScriptedNetwork}
    {a : Option Break × Session × Recorded ScriptedNetwork} {id : StreamId} {es : List WireEvent}
    {said : List Event} (hx : Heard u id (s.leftOn id) s w a es said)
    (sourced : Sourced id (s.unread u.origin w) w.network)
    (clean : s.leftover u.origin w = [] → s.leftOn id = []) : Obtained u s w a id es [] said :=
  ⟨hx.wire, hx.told, List.nil_prefix, hx.heard, hx.done, fun _ => dataFrom_of_others hx.here, hx.asked,
    hx.read _ sourced, clean⟩

/-- A request that is made again after a stream on which nothing was read. -/
theorem Heard.obtained_again {u : Url} {l : Link} {left : Bytes} {ended : Bool} {m : Option Break} {s t : Session}
    {w mid : Recorded ScriptedNetwork} {a : Option Break × Session × Recorded ScriptedNetwork} {id : StreamId}
    {es fs : List WireEvent} {earlier said : List Event} (hy : Heard u id [] t mid a fs said)
    (hid : mid.network.streams.length ≤ id) (hx : Heard u l.stream left s w (m, t, mid) es earlier)
    (talk : Talk l.stream es) (hmid : Sound t.held mid) (h : Sound s.held w)
    (usable : s.reusable? u.origin w = some (l, left, ended)) (options : t.options = s.options)
    (unread : t.received = s.received) : Obtained u s w a id (es ++ fs) earlier said := by
  obtain ⟨hl, -, -, -⟩ := reusable?_iff.1 usable
  have hwire : mid.wire = w.wire ++ es := hx.wire
  have hcounted : t.received = s.received + (WireEvent.dataFrom l.stream es).flatten.length := hx.count
  have hnone : WireEvent.dataFrom l.stream es = [] := WireEvent.dataFrom_of_uncounted (by omega)
  have hes (i : StreamId) : WireEvent.dataFrom i es = [] := by
    by_cases hi : i = l.stream
    · rw [hi]
      exact hnone
    · exact dataFrom_of_others hx.here hi
  have hdata (i : StreamId) : WireEvent.dataFrom i (es ++ fs) = WireEvent.dataFrom i fs := by
    rw [WireEvent.dataFrom_append, hes, List.nil_append]
  have hhearing := hearing_of_options options u
  have hfresh : ∀ e ∈ w.wire, e.stream? ≠ some id := fun e he hs => by
    have hlt := hmid.known e (by rw [hwire]; exact List.mem_append_left _ he) id hs
    exact Nat.not_lt.2 hid hlt
  have hleftOn := leftOn_of_ne fun k hk => h.fresh_ne hfresh hk
  obtain ⟨taken, hr, -⟩ := hx.read _ (sourced_unread usable)
  obtain ⟨taken', hr', hp⟩ := hy.read [] (sourced_absent hid)
  have hr : w.network.replies = taken ++ mid.network.replies := hr
  refine ⟨?_, hx.told.trans hy.told, ?_, ?_, ?_, fun i hi => ?_, ?_, ⟨taken ++ taken', ?_, fun p hm => ?_⟩,
    fun _ => hleftOn⟩
  · rw [hy.wire, hwire, List.append_assoc]
  · rw [leftover_of_some usable, ← hnone]
    exact hx.heard
  · rw [hleftOn, hdata, ← hhearing]
    exact hy.heard
  · rw [hleftOn, hdata, ← hhearing]
    exact hy.done
  · rw [hdata]
    exact dataFrom_of_others hy.here hi
  · refine hx.asked.append (hy.asked.of_options options) fun i n x hm => ?_
    rw [hy.here i n x hm]
    exact WireEvent.writesTo_of_others (talk.others (h.fresh_ne hfresh hl).symm)
  · rw [hr, hr', List.append_assoc]
  · rw [hdata] at hm
    refine (hp p hm).mono fun x hx => ?_
    rw [texts_append]
    exact List.mem_append_right _ (List.mem_append_right _ hx)

theorem Attempt.obtained {u : Url} {s : Session} {w : Recorded ScriptedNetwork}
    {a : Option Break × Session × Recorded ScriptedNetwork} (c : Attempt u s w a) (h : Sound s.held w)
    (hends : s.Ends w.wire) (hcount : s.received = 0) : ∃ id es earlier said, Obtained u s w a id es earlier said := by
  cases c with
  | fresh unusable anew =>
    obtain ⟨id, es, said, hx, hid⟩ := anew.heard h
    have hleft := h.leftOn_absent hid
    rw [← hleft] at hx
    exact ⟨id, es, [], said, hx.obtained ((sourced_absent hid).mono fun _ hm => nomatch hm) fun _ => hleft⟩
  | @reused l left ended a usable course final =>
    obtain ⟨hl, hc, -, -⟩ := reusable?_iff.1 usable
    obtain ⟨es, said, hx⟩ := course.heard
    have hleft := leftOn_of_idle hl hc
    rw [← hleft] at hx
    refine ⟨l.stream, es, [], said, hx.obtained (sourced_unread usable) fun h => ?_⟩
    rw [hleft, ← leftover_of_some usable, h]
  | @repeated l left ended code m t mid a usable course stale unread anew =>
    obtain ⟨hl, hc, -, -⟩ := reusable?_iff.1 usable
    obtain ⟨hend, hleft⟩ := hends l left ended hl hc
    obtain ⟨es', hx'⟩ := course.exchanged hl h hend hleft
    obtain ⟨es, earlier, hx⟩ := course.heard
    have hsame : es' = es := List.append_cancel_left (hx'.wire.symm.trans hx.wire)
    subst hsame
    obtain ⟨id, fs, said, hy, hid⟩ := anew.heard hx'.sound
    exact ⟨id, es' ++ fs, earlier, said,
      hy.obtained_again hid hx hx'.talk hx'.sound h usable course.options (unread.trans hcount.symm)⟩

end Session

/-! ## A run -/

namespace Scene

open Http (Event statusSaid piecesSaid)
open Session (Obtained Said Asked Done Sound Ends)

/-- Where the answer of a transfer comes from.  What it obtains is what a reader says of the reads of one stream, after
what was left over there; `earlier` was said of what was left over on another stream, which then turned out to be dead. -/
structure FromReads (c : Scene) (u : Url) (id : StreamId) (earlier said : List Event) (taken : List Reply) : Prop where
  status : c.performed.session.status = statusSaid (earlier ++ said)
  passed : c.performed.session.passed.reverse = if c.session.receiver.isSome then piecesSaid (earlier ++ said) else []
  before : earlier <+: (c.session.hearing u (c.session.leftover u.origin c.network) []).1
  heard : said <+: (c.session.hearing u (c.session.leftOn id) (WireEvent.dataFrom id c.wired)).1
  /-- A transfer that succeeds has heard one reply to its end. -/
  whole : c.answer = .ok .ok → ∃ n ps, said = Http.Reader.reply n ps
    ∧ (c.session.hearing u (c.session.leftOn id) (WireEvent.dataFrom id c.wired)).1 = Http.Reader.reply n ps
  elsewhere : ∀ i, i ≠ id → WireEvent.dataFrom i c.wired = []
  /-- Whatever is read is read after the request. -/
  asked : Asked u c.session c.wired
  replies : c.network.network.replies = taken ++ c.performed.network.network.replies
  /-- Whatever is read belongs to a reply that is taken meanwhile, or to what the stream still had of an earlier one. -/
  read : ∀ p ∈ WireEvent.dataFrom id c.wired, PartOf (c.session.unread u.origin c.network ++ texts taken) p

/-- What a transfer that is made obtains, once it is cleaned up after. -/
theorem fromReads_of_obtained {c : Scene} {u : Url} {a : Option Break × Session × Recorded ScriptedNetwork}
    {id : StreamId} {es ds : List WireEvent} {earlier said : List Event}
    (h : Obtained u c.session.started c.network a id es earlier said) (quiet : Silent ds)
    (wire : c.performed.network.wire = a.2.2.wire ++ ds)
    (replies : c.performed.network.network.replies = a.2.2.network.replies)
    (told : Said [] a.2.1 c.performed.session) (answer : c.answer = .ok .ok → a.1 = none) :
    ∃ taken, c.FromReads u id earlier said taken
      ∧ (c.session.leftover u.origin c.network = [] → c.session.leftOn id = []) := by
  have hwired : c.wired = es ++ ds := wired_eq (by rw [wire, h.wire, List.append_assoc])
  have hdata (i : StreamId) : WireEvent.dataFrom i c.wired = WireEvent.dataFrom i es := by
    rw [hwired, WireEvent.dataFrom_append, WireEvent.dataFrom_of_none (quiet.readsFrom i), List.append_nil]
  have hsaid := h.told.trans told
  rw [List.append_nil] at hsaid
  obtain ⟨taken, hr, hp⟩ := h.read
  refine ⟨taken, ⟨?_, ?_, h.before, ?_, fun hok => ?_, fun i hi => ?_, ?_, ?_, ?_⟩, h.clean⟩
  · have hs : c.performed.session.status = (statusSaid (earlier ++ said)).or none := hsaid.status
    rwa [Option.or_none] at hs
  · have hs : c.performed.session.passed
        = (if c.session.receiver.isSome then (piecesSaid (earlier ++ said)).reverse else []) ++ [] := hsaid.passed
    rw [hs, List.append_nil]
    split
    · exact List.reverse_reverse _
    · rfl
  · rw [hdata]
    exact h.heard
  · obtain ⟨hall, hdone⟩ := h.done (answer hok)
    obtain ⟨n, ps, hn⟩ := Http.Reader.said_of_done hdone
    rw [hdata]
    exact ⟨n, ps, hall.trans hn, hn⟩
  · rw [hdata]
    exact h.elsewhere i hi
  · rw [hwired]
    have hasked : Asked u c.session es := h.asked
    refine hasked.append (Asked.of_unread quiet.unread) fun i n x hm => absurd hm (quiet.unread i n x)
  · rw [replies]
    exact hr
  · rw [hdata]
    exact hp

theorem fromReads {c : Scene} {text : String} {u : Url} (h : Sound c.session.held c.network)
    (hends : c.session.Ends c.network.wire) (hopen : c.session.closed = false) (hurl : c.session.url = some (text, u)) :
    ∃ id earlier said taken, c.FromReads u id earlier said taken
      ∧ (c.session.leftover u.origin c.network = [] → c.session.leftOn id = []) := by
  have hp := Session.perform_spec c.session c.network
  generalize ha : c.session.perform c.network = a at hp
  have hanswer : c.answer = a.1 := by rw [answer, ha]
  have hperformed : c.performed = ⟨a.2.1, a.2.2⟩ := by rw [performed, ha]
  have hattempt {u' : Url} {b : Option Break × Session × Recorded ScriptedNetwork}
      (att : Session.Attempt u' c.session.started c.network b) :=
    att.obtained (show Sound c.session.started.held c.network from h) hends rfl
  have hsame {text' : String} {u' : Url} (hu : c.session.url = some (text', u')) : u' = u := by
    rw [hurl] at hu
    cases hu
    rfl
  cases hp with
  | closed hc =>
    rw [hopen] at hc
    cases hc
  | aimless _ hu =>
    rw [hurl] at hu
    cases hu
  | @done text' u' t w' hc hu attempt =>
    cases hsame hu
    obtain ⟨id, es, earlier, said, hx⟩ := hattempt attempt
    refine ⟨id, earlier, said, fromReads_of_obtained hx silent_nil ?_ ?_ ?_ fun _ => rfl⟩
    · rw [hperformed, List.append_nil]
    · rw [hperformed]
    · rw [hperformed]
      exact .nil rfl rfl rfl
  | @failed text' u' code m t w' hc hu attempt =>
    cases hsame hu
    obtain ⟨id, es, earlier, said, hx⟩ := hattempt attempt
    obtain ⟨ds, hds, hclose⟩ := Session.drop_wire t w'
    have hfail := Session.fail_snd code m { t with link := none }
    refine ⟨id, earlier, said, fromReads_of_obtained hx (silent_closes hclose) ?_ ?_ ?_ fun hok => ?_⟩
    · rw [hperformed]
      exact hds
    · rw [hperformed]
      exact (Session.drop_rest t w').2.2.2
    · rw [hperformed]
      dsimp only
      rw [hfail]
      exact .nil rfl rfl rfl
    · rw [hanswer] at hok
      cases hok
      exact absurd rfl (attempt.fails rfl m)
  | @escaped text' u' f t w' hc hu attempt =>
    cases hsame hu
    obtain ⟨id, es, earlier, said, hx⟩ := hattempt attempt
    refine ⟨id, earlier, said, fromReads_of_obtained hx silent_nil ?_ ?_ ?_ fun hok => ?_⟩
    · rw [hperformed, List.append_nil]
    · rw [hperformed]
    · rw [hperformed]
      exact .nil rfl rfl rfl
    · rw [hanswer] at hok
      cases hok

/-- **The answer of a transfer is what a reader says of bytes that are read after the request.**  They belong to replies
that are taken during the transfer, or to what an earlier one left over: on the stream (`unread`), or in the session
(`leftover`), where it stands in front of the reply.  If nothing was left over, the answer comes from replies of its own,
and that of a transfer that succeeds is the status and the pieces of one reply. -/
theorem answers_come_from_reads (acts : List Act) :
    let c := run acts new
    ∀ text u, c.session.closed = false → c.session.url = some (text, u) →
      ∃ id earlier said taken, c.FromReads u id earlier said taken
        ∧ (c.session.leftover u.origin c.network = [] → c.session.unread u.origin c.network = [] →
            earlier = [] ∧ c.session.leftOn id = []
              ∧ (∀ p ∈ WireEvent.dataFrom id c.wired, PartOf (texts taken) p)
              ∧ (c.answer = .ok .ok → ∃ n ps,
                  (c.session.hearing u [] (WireEvent.dataFrom id c.wired)).1 = Http.Reader.reply n ps
                    ∧ c.performed.session.status = some n
                    ∧ c.performed.session.passed.reverse = if c.session.receiver.isSome then ps else [])) := by
  intro c text u hopen hurl
  have hsteady : c.Steady := steady_run acts
  obtain ⟨id, earlier, said, taken, h, hclean⟩ := fromReads hsteady.sound hsteady.ends hopen hurl
  refine ⟨id, earlier, said, taken, h, fun hleft hunread => ?_⟩
  have hnone : earlier = [] := by
    have hb := h.before
    rw [hleft, Session.hearing_nothing] at hb
    exact List.prefix_nil.1 hb
  have hread := h.read
  rw [hunread, List.nil_append] at hread
  refine ⟨hnone, hclean hleft, hread, fun hok => ?_⟩
  obtain ⟨n, ps, hsaid, hheard⟩ := h.whole hok
  rw [hclean hleft] at hheard
  refine ⟨n, ps, hheard, ?_, ?_⟩
  · rw [h.status, hnone, hsaid]
    exact Http.statusSaid_reply n ps
  · rw [h.passed, hnone, hsaid, List.nil_append, Http.piecesSaid_reply]

/-- What a server sends after a reply is taken for the next one: the transfer succeeds with it, and reads nothing. -/
theorem surplus_is_taken_for_a_reply :
    let ok := Bytes.ofText "HTTP/1.1 200 OK\r\nContent-Length: 1\r\n\r\na"
    let surplus := Bytes.ofText "HTTP/1.1 200 OK\r\nContent-Length: 4\r\n\r\nevil"
    let notFound := Bytes.ofText "HTTP/1.1 404 Not Found\r\nContent-Length: 1\r\n\r\nb"
    let acts : List Act := [.set (.url (.text "http://h/")), .set (.receiver (some .collecting)),
      .reply { data := ok ++ surplus }, .reply { data := notFound }, .perform]
    let c := run acts new
    c.answer = .ok .ok ∧ c.performed.session.status = some 200
      ∧ c.performed.session.passed = [Bytes.ofText "evil"]
      ∧ c.performed.network.network.replies = c.network.network.replies
      ∧ c.wired.map WireEvent.stream? = [some 0] ∧ (WireEvent.writesTo 0 c.wired).length = 1 := by
  intro ok surplus notFound acts c
  have hok : c.answer.toOption = some .ok := by decide +kernel
  refine ⟨?_, by decide +kernel, by decide +kernel, by decide +kernel, by decide +kernel, by decide +kernel⟩
  cases ha : c.answer with
  | error f =>
    rw [ha] at hok
    cases hok
  | ok code =>
    rw [ha] at hok
    cases hok
    rfl

end Scene

end Transport
