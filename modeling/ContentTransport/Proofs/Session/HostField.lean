import ContentTransport.Proofs.HostName.Name
import ContentTransport.Proofs.Session.Reuse
import ContentTransport.Proofs.Url
/-!
# HostField — the host that a transfer names

The Host field is written in ASCII as a whole, with the brackets and the port that stand around the host.  So it is the
host in ASCII, with brackets and port, exactly if the labels next to these are plain and leave room for them
(`host_field_exactly`).  A name whose last label is written in Punycode is another name with a port behind it, and one
whose last label is full is refused.  A name that leaves room is refused too if it is no value for a field, as one that
begins with a space.
-/
namespace Transport

open HostName (bytes labels toAscii Around EdgesFit)
open Url (bracketed portDigits portMark defaultPort?)

namespace Origin

/-! ## Around the host -/

/-- What the Host field shows in front of the host. -/
def front (o : Origin) : List Char := if ':' ∈ o.host.toList then ['['] else []

/-- What the Host field shows behind the host. -/
def back (o : Origin) : List Char :=
  (if ':' ∈ o.host.toList then [']'] else []) ++ portMark (portDigits o.scheme o.port)

theorem toList_hostField (o : Origin) : o.hostField.toList = o.front ++ o.host.toList ++ o.back := by
  rw [Origin.hostField, Url.toList_hostField, front, back, bracketed]
  split <;> simp

theorem isMark_portMark (o : Origin) : ∀ c ∈ portMark (portDigits o.scheme o.port), HostName.isMark c = true := by
  intro c hc
  cases hd : portDigits o.scheme o.port with
  | nil =>
    rw [hd] at hc
    cases hc
  | cons d digits =>
    have hdigit : ∀ c ∈ d :: digits, c.isDigit = true := fun c hc => Url.isDigit_of_mem_portDigits (hd ▸ hc)
    rw [hd] at hc
    rcases List.mem_cons.1 hc with rfl | hc
    · rfl
    · simp [HostName.isMark, hdigit c hc]

theorem around (o : Origin) : Around o.front o.back := by
  have hport := o.isMark_portMark
  unfold front back
  by_cases hcolon : ':' ∈ o.host.toList
  · rw [if_pos hcolon, if_pos hcolon]
    exact ⟨.inr rfl, .inr ⟨']', _, rfl, .inl rfl⟩, List.forall_mem_cons.2 ⟨rfl, hport⟩⟩
  · rw [if_neg hcolon, if_neg hcolon, List.nil_append]
    refine ⟨.inl rfl, ?_, hport⟩
    cases portDigits o.scheme o.port with
    | nil => exact .inl rfl
    | cons d digits => exact .inr ⟨':', d :: digits, rfl, .inr rfl⟩

/-- The Host field of an origin whose host in ASCII is `name`: the name, in brackets if the host has a colon, and the port
behind a colon, unless the scheme implies it. -/
def named (o : Origin) (name : Bytes) : Bytes :=
  (if ':' ∈ o.host.toList then Bytes.ofText "[" ++ name ++ Bytes.ofText "]" else name)
    ++ if defaultPort? o.scheme = some o.port then [] else Bytes.ofText ":" ++ Bytes.decimal o.port

theorem bytes_portMark (o : Origin) : bytes (portMark (portDigits o.scheme o.port))
    = if defaultPort? o.scheme = some o.port then [] else Bytes.ofText ":" ++ Bytes.decimal o.port := by
  unfold portDigits
  split
  · rfl
  · rw [Url.portMark_of_ne_nil (Url.toDigits_ne_nil _), Bytes.decimal_eq]
    rfl

theorem named_eq (o : Origin) (name : Bytes) : o.named name = bytes o.front ++ name ++ bytes o.back := by
  have happend (cs ds : List Char) : bytes (cs ++ ds) = bytes cs ++ bytes ds := List.map_append
  unfold named front back
  rw [happend, bytes_portMark]
  by_cases hcolon : ':' ∈ o.host.toList
  · rw [if_pos hcolon, if_pos hcolon, if_pos hcolon]
    simp [bytes, Bytes.ofText]
  · rw [if_neg hcolon, if_neg hcolon, if_neg hcolon]
    rfl

/-- The first and the last label of the host have plain forms that leave room for the brackets and the port. -/
def LeavesRoom (o : Origin) : Prop := EdgesFit o.front.length o.back.length (labels o.host.toList)

instance (o : Origin) : Decidable o.LeavesRoom := inferInstanceAs (Decidable (EdgesFit _ _ _))

/-- The first or the last label of the host has a plain form that leaves no room for them. -/
def IsFull (o : Origin) : Prop := HostName.EdgeFull o.front.length o.back.length (labels o.host.toList)

/-- **The Host field in ASCII is the host in ASCII, with its brackets and its port, exactly if they have room.** -/
theorem hostField_in_ascii {o : Origin} {name : Bytes} (accepted : toAscii o.host.toList = .ok name) :
    toAscii o.hostField.toList = .ok (o.named name) ↔ o.LeavesRoom := by
  rw [toList_hostField, named_eq]
  exact o.around.toAscii_around accepted

theorem hostField_refused {o : Origin} (full : o.IsFull) : ∃ f, toAscii o.hostField.toList = .error f := by
  rw [toList_hostField]
  exact o.around.toAscii_around_full full

end Origin

namespace Scene

open Http (NamesHost isFieldValue)

/-! ## The host of a transfer -/

theorem Transferred.namesHost {c : Scene} (h : c.Transferred) {text : String} {u : Url} {id : StreamId} {p : Bytes}
    {ps : List Bytes} (url : c.session.url = some (text, u))
    (written : (WireEvent.writesTo id c.wired).map Prod.fst = p :: ps) :
    ∃ host, toAscii u.origin.hostField.toList = .ok host ∧ NamesHost host p := by
  obtain ⟨more, hpieces⟩ := written ▸ h.once text u id url
  rw [List.cons_append] at hpieces
  cases hwrite : (c.session.request u).write with
  | error f =>
    rw [Session.pieces_of_error hwrite] at hpieces
    cases hpieces
  | ok out =>
    obtain ⟨host, target, fields, passed, rfl⟩ := Http.Request.passed_of_write hwrite
    rw [Session.pieces_of_ok hwrite] at hpieces
    obtain ⟨rfl, -⟩ := List.cons.inj hpieces
    exact ⟨host, passed.hostText, passed.namesHost⟩

/-- **The host that a transfer names.**  For a host that can be written in ASCII on its own, let its first and its last
label leave room for the brackets and the port.  Then the request is not refused for its host if the Host field has a
value that a field may have, and is refused for that value if not.  If one of the two labels is plain and leaves no room,
the request is refused for its host.  What a transfer writes names the host in ASCII, with its brackets and its port,
exactly if both labels are plain and leave room. -/
theorem host_field_exactly (acts : List Act) {text : String} {u : Url} {name : Bytes}
    (url : (run acts new).session.url = some (text, u)) (accepted : toAscii u.origin.host.toList = .ok name) :
    let c := run acts new
    (u.origin.LeavesRoom → isFieldValue (u.origin.named name) = true → (c.session.request u).HostHarmless)
      ∧ (u.origin.LeavesRoom → isFieldValue (u.origin.named name) = false →
          (c.session.request u).write = .error (.field (.value (u.origin.named name))))
      ∧ (u.origin.IsFull → ∃ f, (c.session.request u).write = .error (.host f))
      ∧ ∀ id p ps, (WireEvent.writesTo id c.wired).map Prod.fst = p :: ps →
          (NamesHost (u.origin.named name) p ↔ u.origin.LeavesRoom) := by
  intro c
  have hascii := Origin.hostField_in_ascii accepted
  refine ⟨fun room value => ?_, fun room illegal => ?_, fun full => ?_, fun id p ps written => ?_⟩
  · exact Http.Request.hostHarmless (hascii.2 room) value
  · exact Http.Request.write_of_illegal_host (hascii.2 room) illegal
  · obtain ⟨f, hf⟩ := Origin.hostField_refused full
    exact ⟨f, Http.Request.refused_host_iff.2 hf⟩
  · obtain ⟨host, hhost, hnames⟩ := (steady_run acts).transferred.namesHost url written
    constructor
    · intro hnamed
      rw [hnames.unique hnamed] at hhost
      exact hascii.1 hhost
    · intro room
      cases hhost.symm.trans (hascii.2 room)
      exact hnames

/-- An address with a port. -/
theorem host_field_exactly_address :
    let c := run [.set (.url (.text "http://[2001:db8::1]:81/"))] new
    (c.session.request ⟨⟨"http", "2001:db8::1", 81⟩, "/"⟩).HostHarmless
      ∧ ∃ p ps, (WireEvent.writesTo 0 c.wired).map Prod.fst = p :: ps
        ∧ NamesHost (Bytes.ofText "[2001:db8::1]:81") p := by
  intro c
  have hurl : c.session.url = some ("http://[2001:db8::1]:81/", ⟨⟨"http", "2001:db8::1", 81⟩, "/"⟩) := by
    decide +kernel
  have haccepted : toAscii "2001:db8::1".toList = .ok (Bytes.ofText "2001:db8::1") := by decide +kernel
  have hroom : (⟨"http", "2001:db8::1", 81⟩ : Origin).LeavesRoom := by decide +kernel
  have hnamed : (⟨"http", "2001:db8::1", 81⟩ : Origin).named (Bytes.ofText "2001:db8::1")
      = Bytes.ofText "[2001:db8::1]:81" := by decide +kernel
  have hsome : (WireEvent.writesTo 0 c.wired).map Prod.fst ≠ [] := by decide +kernel
  obtain ⟨p, ps, hp⟩ := List.exists_cons_of_ne_nil hsome
  obtain ⟨hharmless, -, -, hnames⟩ := host_field_exactly _ hurl haccepted
  rw [hnamed] at hharmless hnames
  exact ⟨hharmless hroom (by decide), p, ps, hp, (hnames 0 p ps hp).2 hroom⟩

/-- A host whose one label is full: it can be written in ASCII, and the request for it is refused when a port follows.
One that begins with a space can be written as well, and leaves room, and the request for it is refused. -/
theorem full_label_is_refused :
    (let host := "aaaaaaaaaaaaaaaaaaaaaaaaaaaaaaaaaaaaaaaaaaaaaaaaaaaaaaaaaaaaaaa"
      let c := run [.set (.url (.text ("http://" ++ host ++ ":81/")))] new
      ∃ text u name, c.session.url = some (text, u) ∧ u.origin = ⟨"http", host, 81⟩ ∧ toAscii host.toList = .ok name
        ∧ (c.session.request u).write = .error (.host .lastLabelLength))
    ∧ let c := run [.set (.url (.text "http:// h/"))] new
      ∃ text u name, c.session.url = some (text, u) ∧ u.origin = ⟨"http", " h", 80⟩ ∧ toAscii " h".toList = .ok name
        ∧ u.origin.LeavesRoom ∧ (c.session.request u).write = .error (.field (.value name)) := by
  constructor
  · intro host c
    refine ⟨"http://" ++ host ++ ":81/", ⟨⟨"http", host, 81⟩, "/"⟩, Bytes.ofText host, ?_, rfl, ?_, ?_⟩
    · decide +kernel
    · decide +kernel
    · decide +kernel
  · intro c
    refine ⟨"http:// h/", ⟨⟨"http", " h", 80⟩, "/"⟩, Bytes.ofText " h", ?_, rfl, ?_, ?_, ?_⟩
    · decide +kernel
    · decide +kernel
    · decide +kernel
    · decide +kernel

end Scene
end Transport
