import ContentTransport.Proofs.Connection.Diagnoses
/-!
# Refusals — a setting that is refused leaves no trace

A setter takes a few steps, and what it has done before one of them breaks off stays done.  So whether a refused setting
leaves the session as it was depends on the order of its steps.  All setters but one check their argument, and read all
of it, before they set anything; of such calls a history may hold as many as one likes, and everything else in it goes as
it would without them (`refused_settings_leave_no_trace`).

The one exception is a body that counts as bytes but cannot be read: by the time that reading it breaks off, the method
is already that of a request with a body.  Nor does every refusal say that it is one: an argument that cannot answer what
it is asked, or that cannot be shown, breaks off with a fault of its own, and so does a whole number of seconds that is
too large (`refusals_break_out_and_show`).
-/
namespace Transport

/-! ## Arguments -/

/-- What a setter is given: a value of the kinds that the library knows, or something foreign.  A foreign argument is no
number, no text and no buffer.  It answers itself what its truth is, how it is shown, and, if it counts as bytes, what
they are; each of these answers may break off. -/
inductive Argument
  | value (v : Value)
  | foreign (truth : Except Fault Bool) (shown : Except Fault String) (content : Option (Except Fault Bytes))

/-- Whether a number of seconds is not zero or less. -/
def Number.isPositive : Number → Bool
  | whole n => 0 < n
  | real x => !decide (x ≤ 0)

namespace Argument

open Session (leastBuffer badBuffer)

def truth : Argument → Except Fault Bool
  | value v => .ok v.truth
  | foreign truth _ _ => truth

def shown : Argument → Except Fault String
  | value v => if v.isWritable then .ok v.quoted else .error .tooManyDigits
  | foreign _ shown _ => shown

/-- The bytes of an argument that counts as bytes. -/
def content? : Argument → Option (Except Fault Bytes)
  | value v => v.bytes?.map .ok
  | foreign _ _ content => content

def number? : Argument → Option Number
  | value v => v.number?
  | foreign _ _ _ => none

def whole? : Argument → Option Int
  | value v => v.whole?
  | foreign _ _ _ => none

/-- The refusal of an argument, which shows it.  An argument that cannot be shown breaks off. -/
def objection (before : String) (a : Argument) : Fault :=
  match a.shown with
  | .ok text => Session.refuse (before ++ text)
  | .error f => f

def seconds : Argument → Except Fault Float
  | value v => Session.seconds v
  | a => .error (a.objection "Invalid timeout: ")

/-- The size of a read that an argument gives. -/
def size (a : Argument) : Except Fault { n : Nat // 0 < n } :=
  match a.whole? with
  | some (.ofNat (n + 1)) => .ok ⟨n + 1, Nat.succ_pos n⟩
  | _ => .error (a.objection "Invalid read size: ")

/-- Where the requests for a URL go. -/
def target : Argument → Except Fault (String × Url)
  | value (.text text) =>
    match Url.parse text with
    | .error f => .error (.refused .urlMalformat ("URL rejected: " ++ f.message))
    | .ok u =>
      if Session.speaks u.origin.scheme then .ok (text, u)
      else .error (.refused .unsupportedProtocol ("Protocol \"" ++ u.origin.scheme ++ "\" not supported"))
  | _ => .error (Session.refuse "URL must be a string")

/-- The buffer that an argument is, or none if it is none. -/
def room : Argument → Except Fault (Option Bytes)
  | value .none => .ok none
  | value (.buffer b) => if leastBuffer ≤ b.length then .ok (some b) else .error badBuffer
  | _ => .error badBuffer

theorem objection_cases (before : String) (a : Argument) :
    (∃ reason, a.objection before = Session.refuse reason)
      ∨ ∃ f, a.shown = .error f ∧ a.objection before = f := by
  unfold objection
  cases a.shown with
  | ok text => exact .inl ⟨_, rfl⟩
  | error f => exact .inr ⟨f, rfl, rfl⟩

theorem objection_value (before : String) (v : Value) :
    (value v).objection before = Session.objection before v := by
  unfold objection Session.objection
  cases h : v.isWritable <;> simp [shown, h]

/-- An argument gives seconds, or is a whole number that no floating-point number is near, or it is refused. -/
theorem seconds_cases (a : Argument) :
    (∃ t x, a.number? = some t ∧ t.isPositive = true ∧ a.seconds = .ok x)
      ∨ (∃ n, a = value (.int n) ∧ 0 < n ∧ Decimal.ofInt? n = none ∧ a.seconds = .error .tooLarge)
      ∨ (∀ t, a.number? = some t → t.isPositive = false)
        ∧ a.seconds = .error (a.objection "Invalid timeout: ") := by
  cases a with
  | foreign => exact .inr (.inr ⟨nofun, rfl⟩)
  | value v =>
    rw [objection_value]
    cases v with
    | int n =>
      by_cases hn : n ≤ 0
      · refine .inr (.inr ⟨?_, if_pos hn⟩)
        rintro t ⟨⟩
        exact decide_eq_false (Int.not_lt.2 hn)
      · have hpositive : 0 < n := Int.not_le.1 hn
        cases hnear : Decimal.ofInt? n with
        | some x =>
          refine .inl ⟨.whole n, x, rfl, decide_eq_true hpositive, ?_⟩
          simp [seconds, Session.seconds, Value.number?, hn, hnear]
        | none =>
          refine .inr (.inl ⟨n, rfl, hpositive, hnear, ?_⟩)
          simp [seconds, Session.seconds, Value.number?, hn, hnear]
    | float x =>
      by_cases hx : x ≤ 0
      · refine .inr (.inr ⟨?_, if_pos hx⟩)
        rintro t ⟨⟩
        exact congrArg (!·) (decide_eq_true hx)
      · exact .inl ⟨.real x, x, rfl, congrArg (!·) (decide_eq_false hx), if_neg hx⟩
    | _ => exact .inr (.inr ⟨nofun, rfl⟩)

theorem size_cases (a : Argument) :
    (∃ n r, a.whole? = some n ∧ 0 < n ∧ a.size = .ok r)
      ∨ (∀ n, a.whole? = some n → n ≤ 0) ∧ a.size = .error (a.objection "Invalid read size: ") := by
  unfold size
  rcases a.whole? with _ | (_ | n) | n
  · exact .inr ⟨nofun, rfl⟩
  · refine .inr ⟨?_, rfl⟩
    rintro n ⟨⟩
    exact Int.le_refl 0
  · exact .inl ⟨_, _, rfl, Int.natCast_pos.2 (Nat.succ_pos n), rfl⟩
  · refine .inr ⟨?_, rfl⟩
    rintro n ⟨⟩
    exact Int.le_of_lt (Int.negSucc_lt_zero _)

theorem objection_unshown {before : String} {a : Argument} {f : Fault} (unshown : a.shown = .error f) :
    a.objection before = f := by
  rw [objection, unshown]

theorem target_cases (a : Argument) :
    (∃ u, a.target = .ok u) ∨ ∃ code reason, a.target = .error (.refused code reason) := by
  unfold target
  split
  · split
    · exact .inr ⟨_, _, rfl⟩
    · split
      · exact .inl ⟨_, rfl⟩
      · exact .inr ⟨_, _, rfl⟩
  · exact .inr ⟨_, _, rfl⟩

theorem room_cases (a : Argument) : (∃ b, a.room = .ok b) ∨ a.room = .error badBuffer := by
  unfold room
  split
  · exact .inl ⟨_, rfl⟩
  · split
    · exact .inl ⟨_, rfl⟩
    · exact .inr rfl
  · exact .inr rfl

end Argument

/-! ## Setters, step by step -/

/-- A setter of a session with what it is given. -/
inductive Setter
  | timeout (a : Argument)
  | verifyTls (a : Argument)
  | readSize (a : Argument)
  | methodGet
  | methodPost (body : Argument)
  | url (a : Argument)
  | headers (l : Option ListId)
  | receiver (r : Option Receiver)
  | collects (on : Bool)
  | buffer (a : Argument)
  /-- A buffer that has been offered to the session before. -/
  | knownBuffer (id : BufferId)

namespace Setter

open Session (refuse leastBuffer badBuffer)

variable {s : Session}

/-- A step of a setter: the session after it, or the fault that it breaks off with. -/
abbrev Stage := Session → Except Fault Session

def needsOpen : Stage := fun s => s.whenOpen (.ok s)

/-- The steps of a setter that reads all of its argument first, and then sets what it has read. -/
def reading {α : Type} (read : Session → Except Fault α) (put : α → Session → Session) : List Stage :=
  [needsOpen, fun s => (read s).map (put · s)]

def bindNew : Option Bytes → Session → Session
  | none, s => { s with bound := none }
  | some b, s => { (s.allocate b).2 with bound := some (s.allocate b).1 }

def steps : Setter → List Stage
  | timeout a => reading (fun _ => a.seconds) fun t s => { s with timeout := t }
  | verifyTls a => reading (fun _ => a.truth) fun on s => { s with verifyTls := on }
  | readSize a => reading (fun _ => a.size) fun n s => { s with readSize := n.1, readSize_pos := n.2 }
  | methodGet => [needsOpen, fun s => .ok { s with method := .get }, fun s => .ok { s with body := [] }]
  | methodPost body =>
    match body.content? with
    | none => [needsOpen, fun _ => .error (refuse "POST body must be bytes")]
    -- the method is set before the bytes are read
    | some content => [needsOpen, fun s => .ok { s with method := .post }, fun s => content.map ({ s with body := · })]
  | url a => reading (fun _ => a.target) fun u s => { s with url := some u }
  | headers l => reading (fun _ => .ok l) fun l s => { s with attached := l }
  | receiver r => reading (fun _ => .ok r) fun r s => { s with receiver := r }
  | collects on => reading (fun _ => .ok on) fun on s => { s with collects := on }
  | buffer a => reading (fun _ => a.room) bindNew
  | knownBuffer id =>
    reading (fun s => if (s.buffers[id]?).any (leastBuffer ≤ ·.length) then .ok id else .error badBuffer)
      fun id s => { s with bound := some id }

/-- What a call of a setter breaks off with, if it does, and the session that it leaves then. -/
def call (x : Setter) (s : Session) : Option Fault × Session := Connection.tell x.steps s

/-- The arguments that a setter does not take, and the faults by which it shows that instead of refusing them. -/
inductive Evades : Setter → Fault → Prop
  /-- A whole number of seconds that no floating-point number is near. -/
  | distant {n : Int} (positive : 0 < n) (far : Decimal.ofInt? n = none) : Evades (.timeout (.value (.int n))) .tooLarge
  | unshownTimeout {a : Argument} {f : Fault} (unfit : ∀ t, a.number? = some t → t.isPositive = false)
    (unshown : a.shown = .error f) : Evades (.timeout a) f
  | unshownSize {a : Argument} {f : Fault} (unfit : ∀ n, a.whole? = some n → n ≤ 0) (unshown : a.shown = .error f) :
    Evades (.readSize a) f
  | truthless {a : Argument} {f : Fault} (truthless : a.truth = .error f) : Evades (.verifyTls a) f
  | unreadable {body : Argument} {f : Fault} (unreadable : body.content? = some (.error f)) :
    Evades (.methodPost body) f

theorem tell_needsOpen (opened : s.closed = false) (steps : List Stage) :
    Connection.tell (needsOpen :: steps) s = Connection.tell steps s := by
  have hopen : needsOpen s = .ok s := if_neg (by rw [opened]; exact Bool.false_ne_true)
  rw [Connection.tell, hopen]

theorem tell_needsOpen_of_closed (closed : s.closed = true) (steps : List Stage) :
    Connection.tell (needsOpen :: steps) s = (some (refuse "Session is closed"), s) := by
  have hclosed : needsOpen s = .error (refuse "Session is closed") := if_pos closed
  rw [Connection.tell, hclosed]

theorem tell_reading {α : Type} {read : Session → Except Fault α} {put : α → Session → Session}
    (opened : s.closed = false) : Connection.tell (reading read put) s = match read s with
      | .ok a => (none, put a s)
      | .error f => (some f, s) := by
  unfold reading
  rw [tell_needsOpen opened]
  cases h : read s <;> simp [Connection.tell, Except.map, h]

theorem call_of_closed (x : Setter) (closed : s.closed = true) :
    x.call s = (some (refuse "Session is closed"), s) := by
  unfold call
  cases x with
  | methodPost body =>
    simp only [steps]
    cases body.content? <;> exact tell_needsOpen_of_closed closed _
  | _ => exact tell_needsOpen_of_closed closed _

theorem call_methodPost (opened : s.closed = false) (body : Argument) :
    (methodPost body).call s = match body.content? with
      | none => (some (refuse "POST body must be bytes"), s)
      | some (.ok b) => (none, { s with method := .post, body := b })
      | some (.error f) => (some f, { s with method := .post }) := by
  unfold call
  simp only [steps]
  rcases body.content? with _ | f | b <;> simp only [tell_needsOpen opened] <;> rfl

/-- What a call of a setter can come to, and what it leaves of the session. -/
inductive Done (s : Session) : Setter → Option Fault × Session → Prop
  | taken {x : Setter} {t : Session} : Done s x (none, t)
  | refused {x : Setter} {code : TransferCode} {reason : String} : Done s x (some (.refused code reason), s)
  | evaded {x : Setter} {f : Fault} (opened : s.closed = false) (evades : Evades x f) : Done s x (some f, s)
  | halfway {body : Argument} {f : Fault} (opened : s.closed = false)
    (unreadable : body.content? = some (.error f)) : Done s (methodPost body) (some f, { s with method := .post })

theorem done_reading {α : Type} {read : Session → Except Fault α} {put : α → Session → Session} {x : Setter}
    (opened : s.closed = false) (hx : x.steps = reading read put)
    (fails : ∀ f, read s = .error f → (∃ code reason, f = .refused code reason) ∨ Evades x f) :
    Done s x (x.call s) := by
  unfold call
  rw [hx, tell_reading opened]
  cases h : read s with
  | ok a => exact .taken
  | error f =>
    rcases fails f h with ⟨code, reason, rfl⟩ | hevades
    · exact .refused
    · exact .evaded opened hevades

/-- An argument that is refused by showing it. -/
theorem refused_or_unshown {x : Setter} {a : Argument} {before : String} {f : Fault}
    (hf : f = a.objection before) (unshown : ∀ g, a.shown = .error g → Evades x g) :
    (∃ code reason, f = .refused code reason) ∨ Evades x f := by
  rcases a.objection_cases before with ⟨reason, h⟩ | ⟨g, hg, h⟩
  · exact .inl ⟨_, reason, hf.trans h⟩
  · exact .inr (hf.trans h ▸ unshown g hg)

/-- **Everything that a call of a setter can come to.** -/
theorem call_spec (x : Setter) (s : Session) : Done s x (x.call s) := by
  by_cases hc : s.closed = true
  · rw [call_of_closed x hc]
    exact .refused
  have hopen : s.closed = false := Bool.eq_false_iff.2 hc
  have hbad {f : Fault} (h : badBuffer = f) : ∃ code reason, f = .refused code reason := ⟨_, _, h.symm⟩
  cases x with
  | timeout a =>
    refine done_reading hopen rfl fun f hf => ?_
    rcases a.seconds_cases with ⟨t, y, -, -, hy⟩ | ⟨n, rfl, hpositive, hfar, hy⟩ | ⟨hunfit, hy⟩
    · cases hf.symm.trans hy
    · cases hf.symm.trans hy
      exact .inr (.distant hpositive hfar)
    · exact refused_or_unshown (Except.error.inj (hf.symm.trans hy)) fun g => .unshownTimeout hunfit
  | verifyTls a => exact done_reading hopen rfl fun f hf => .inr (.truthless hf)
  | readSize a =>
    refine done_reading hopen rfl fun f hf => ?_
    rcases a.size_cases with ⟨n, r, -, -, hn⟩ | ⟨hunfit, hn⟩
    · cases hf.symm.trans hn
    · exact refused_or_unshown (Except.error.inj (hf.symm.trans hn)) fun g => .unshownSize hunfit
  | methodGet =>
    have hget : methodGet.call s = (none, { s with method := .get, body := [] }) := tell_needsOpen hopen _
    rw [hget]
    exact .taken
  | methodPost body =>
    rw [call_methodPost hopen]
    rcases h : body.content? with _ | f | b
    · exact .refused
    · exact .halfway hopen h
    · exact .taken
  | url a =>
    refine done_reading hopen rfl fun f hf => ?_
    rcases a.target_cases with ⟨u, hu⟩ | ⟨code, reason, hu⟩
    · cases hf.symm.trans hu
    · exact .inl ⟨code, reason, Except.error.inj (hf.symm.trans hu)⟩
  | headers l => exact done_reading hopen rfl nofun
  | receiver r => exact done_reading hopen rfl nofun
  | collects on => exact done_reading hopen rfl nofun
  | buffer a =>
    refine done_reading hopen rfl fun f hf => ?_
    rcases a.room_cases with ⟨b, hb⟩ | hb
    · cases hf.symm.trans hb
    · exact .inl (hbad (Except.error.inj (hb.symm.trans hf)))
  | knownBuffer id =>
    refine done_reading hopen rfl fun f hf => ?_
    split at hf
    · cases hf
    · exact .inl (hbad (Except.error.inj hf))

theorem Evades.answers {x : Setter} {f : Fault} (h : Evades x f) (opened : s.closed = false) :
    (x.call s).1 = some f := by
  unfold call
  cases h with
  | @distant n positive far =>
    rw [steps, tell_reading opened]
    simp [Argument.seconds, Session.seconds, Value.number?, Int.not_le.2 positive, far]
  | @unshownTimeout a f unfit unshown =>
    rw [steps, tell_reading opened]
    rcases a.seconds_cases with ⟨t, y, ht, hpositive, -⟩ | ⟨n, rfl, hpositive, -, -⟩ | ⟨-, hrefused⟩
    · cases hpositive.symm.trans (unfit t ht)
    · cases (decide_eq_true hpositive).symm.trans (unfit (.whole n) rfl)
    · rw [hrefused, Argument.objection_unshown unshown]
  | @unshownSize a f unfit unshown =>
    rw [steps, tell_reading opened]
    rcases a.size_cases with ⟨n, r, hn, hpositive, -⟩ | ⟨-, hrefused⟩
    · exact absurd hpositive (Int.not_lt.2 (unfit n hn))
    · rw [hrefused, Argument.objection_unshown unshown]
  | truthless truthless => rw [steps, tell_reading opened, truthless]
  | @unreadable body f unreadable =>
    have hcall := call_methodPost opened body
    rw [unreadable] at hcall
    exact congrArg Prod.fst hcall

/-- Whether a call breaks off halfway: an open session is given a body that cannot be read. -/
def breaksHalfway (s : Session) : Setter → Bool
  | methodPost body => !s.closed && body.content?.any (!·.toBool)
  | _ => false

theorem call_halfway {x : Setter} (halfway : x.breaksHalfway s = true) :
    (x.call s).2 = { s with method := .post } := by
  cases x with
  | methodPost body =>
    obtain ⟨hopen, hunreadable⟩ := Bool.and_eq_true_iff.1 halfway
    rw [call_methodPost ((Bool.not_eq_true' _).mp hopen)]
    rcases hcontent : body.content? with _ | f | b
    · rw [hcontent] at hunreadable
      cases hunreadable
    · rfl
    · rw [hcontent] at hunreadable
      cases hunreadable
  | _ => cases halfway

/-- **A call that breaks off says that it refuses, or evades that.** -/
theorem call_breaks_off {x : Setter} {f : Fault} (fails : (x.call s).1 = some f) :
    (∃ code reason, f = .refused code reason) ∨ s.closed = false ∧ x.Evades f := by
  have hspec := x.call_spec s
  generalize x.call s = a at hspec fails
  cases hspec with
  | taken => cases fails
  | @refused x code reason => exact .inl ⟨code, reason, (Option.some.inj fails).symm⟩
  | evaded opened evades =>
    cases fails
    exact .inr ⟨opened, evades⟩
  | halfway opened unreadable =>
    cases fails
    exact .inr ⟨opened, .unreadable unreadable⟩

/-- **A call that breaks off, but not halfway, leaves the session as it was.** -/
theorem call_unchanged {x : Setter} {f : Fault} (fails : (x.call s).1 = some f) (whole : x.breaksHalfway s = false) :
    (x.call s).2 = s := by
  have hspec := x.call_spec s
  generalize x.call s = a at hspec fails
  cases hspec with
  | taken => cases fails
  | refused => rfl
  | evaded => rfl
  | halfway opened unreadable =>
    rw [breaksHalfway, opened, unreadable] at whole
    cases whole

/-! ## The same setters in one step -/

/-- The setter that a setting is made with, for the settings that are made with one. -/
def of? : Setting → Option Setter
  | .timeout v => some (timeout (.value v))
  | .verifyTls v => some (verifyTls (.value v))
  | .readSize v => some (readSize (.value v))
  | .methodGet => some methodGet
  | .methodPost body => some (methodPost (.value body))
  | .url v => some (url (.value v))
  | .headers l => some (headers l)
  | .attach _ => none
  | .receiver r => some (receiver r)
  | .collects on => some (collects on)
  | .buffer v => some (buffer (.value v))

/-- What a caller is left with: the session that is given, or the fault and the session as it was. -/
def left (answer : Except Fault Session) (s : Session) : Option Fault × Session :=
  match answer with
  | .ok t => (none, t)
  | .error f => (some f, s)

theorem call_eq_left_of_closed (closed : s.closed = true) (sound : s.defects = {}) (x : Setter) (y : Setting) :
    x.call s = left (y.apply s) s := by
  rw [call_of_closed x closed, Session.apply_of_closed closed sound]
  rfl

theorem call_of_reading {α : Type} {read : Session → Except Fault α} {put : α → Session → Session} {x : Setter}
    (hx : x.steps = reading read put) {answer : Except Fault Session}
    (hanswer : answer = s.whenOpen ((read s).map (put · s))) : x.call s = left answer s := by
  cases hc : s.closed with
  | true =>
    rw [call_of_closed x hc, hanswer, Session.whenOpen_of_closed hc]
    rfl
  | false =>
    rw [call, hx, tell_reading hc, hanswer, Session.whenOpen, hc]
    cases read s <;> rfl

theorem bindValue_eq (sound : s.defects = {}) (v : Value) :
    s.bindValue v = s.whenOpen ((Argument.value v).room.map (bindNew · s)) := by
  cases hc : s.closed with
  | true => exact (Session.apply_of_closed hc sound (.buffer v)).trans (Session.whenOpen_of_closed hc _).symm
  | false =>
    have hwhen (k : Except Fault Session) : s.whenOpen k = k := if_neg (by rw [hc]; exact Bool.false_ne_true)
    rw [hwhen]
    cases v with
    | none => exact Session.bind_none_eq ⟨hc, sound⟩
    | buffer b =>
      rw [Session.bindValue_buffer ⟨hc, sound⟩, Argument.room]
      by_cases hsize : leastBuffer ≤ b.length
      · rw [if_pos hsize, if_pos hsize]
        rfl
      · rw [if_neg hsize, if_neg hsize]
        rfl
    | _ => exact (Session.whenSound_of_sound sound true _).trans (hwhen _)

/-- **A setter that is carried out step by step ends as the one that takes all of its steps at once.** -/
theorem call_of_setting (sound : s.defects = {}) {y : Setting} {x : Setter} (h : of? y = some x) :
    x.call s = left (y.apply s) s := by
  cases y with
  | attach l => cases h
  | timeout v =>
    cases h
    refine call_of_reading rfl (congrArg s.whenOpen ?_)
    rw [Argument.seconds]
    cases Session.seconds v <;> rfl
  | verifyTls v =>
    cases h
    exact call_of_reading rfl rfl
  | readSize v =>
    cases h
    refine call_of_reading rfl (congrArg s.whenOpen ?_)
    rw [Argument.size, Argument.objection_value, Argument.whole?]
    rcases v.whole? with _ | (_ | n) | n <;> rfl
  | methodGet =>
    cases h
    cases hc : s.closed with
    | true => exact call_eq_left_of_closed hc sound _ _
    | false =>
      have happly : Setting.methodGet.apply s = .ok _ := if_neg (by rw [hc]; exact Bool.false_ne_true)
      rw [happly]
      exact tell_needsOpen hc _
  | methodPost body =>
    cases h
    cases hc : s.closed with
    | true => exact call_eq_left_of_closed hc sound _ _
    | false =>
      have happly : (Setting.methodPost body).apply s = _ := if_neg (by rw [hc]; exact Bool.false_ne_true)
      rw [call_methodPost hc, happly, Argument.content?]
      cases body.bytes? <;> rfl
  | url v =>
    cases h
    refine call_of_reading rfl (congrArg s.whenOpen ?_)
    cases v with
    | text text =>
      dsimp only [Argument.target]
      cases Url.parse text with
      | error f => rfl
      | ok u =>
        dsimp only
        cases Session.speaks u.origin.scheme <;> rfl
    | _ => rfl
  | headers l =>
    cases h
    exact call_of_reading rfl rfl
  | receiver r =>
    cases h
    refine call_of_reading rfl ?_
    exact if_neg (by rw [sound]; exact Bool.false_ne_true)
  | collects on =>
    cases h
    exact call_of_reading rfl rfl
  | buffer v =>
    cases h
    refine call_of_reading rfl ?_
    exact bindValue_eq sound v

end Setter

/-! ## Histories -/

/-- What happens to a session and its network. -/
inductive Deed (ν : Type)
  | set (x : Setter)
  | perform
  | close
  /-- Whatever else happens: a list takes a field, a caller writes into its buffer, the network has more to give. -/
  | meanwhile (f : Session × Recorded ν → Session × Recorded ν)

namespace Deed

variable {ν : Type}

/-- What a deed answers its caller. -/
inductive Answer
  | set (fault : Option Fault)
  | performed (a : Except Fault TransferCode)
  | nothing

/-- A deed in a history: what it found, what it answered, and what it left. -/
structure Entry (ν : Type) where
  deed : Deed ν
  before : Session × Recorded ν
  answer : Answer
  after : Session × Recorded ν

namespace Entry

/-- Whether an entry is a call of a setter that broke off. -/
def isRefused (e : Entry ν) : Bool :=
  match e.answer with
  | .set fault => fault.isSome
  | _ => false

/-- Whether an entry is a call of a setter that broke off halfway. -/
def isHalfway (e : Entry ν) : Bool :=
  match e.deed with
  | .set x => x.breaksHalfway e.before.1
  | _ => false

/-- Whether an entry is a call of a setter that broke off, but not halfway. -/
def isIdle (e : Entry ν) : Bool := e.isRefused && !e.isHalfway

end Entry

section

variable [Network ν]

/-- The answer to a deed, and what it leaves. -/
def take : Deed ν → Session × Recorded ν → Answer × Session × Recorded ν
  | set x, c => (.set (x.call c.1).1, (x.call c.1).2, c.2)
  | perform, c => (.performed (c.1.perform c.2).1, (c.1.perform c.2).2)
  | close, c => (.nothing, c.1.close c.2)
  | meanwhile f, c => (.nothing, f c)

def entry (d : Deed ν) (c : Session × Recorded ν) : Entry ν := ⟨d, c, (d.take c).1, (d.take c).2⟩

/-- Some deeds, one after the other. -/
def history : List (Deed ν) → Session × Recorded ν → List (Entry ν)
  | [], _ => []
  | d :: ds, c => d.entry c :: history ds (d.take c).2

/-- The deeds of a history without those of some entries. -/
def without (p : Entry ν → Bool) (ds : List (Deed ν)) (c : Session × Recorded ν) : List (Deed ν) :=
  ((history ds c).filter (!p ·)).map (·.deed)

/-- **Entries that change nothing may be left out of a history**, and the others stay as they are. -/
theorem history_without {p : Entry ν → Bool} (ds : List (Deed ν)) : ∀ {c : Session × Recorded ν},
    (∀ e ∈ history ds c, p e = true → e.after = e.before) →
      history (without p ds c) c = (history ds c).filter (!p ·) := by
  induction ds with
  | nil => exact fun _ => rfl
  | cons d ds ih =>
    -- the rest begins where the first deed ends, which is where that began if the deed is left out
    intro c idle
    obtain ⟨hfirst, hrest⟩ := List.forall_mem_cons.1 idle
    have ih := ih hrest
    unfold without at ih ⊢
    rw [history]
    cases hp : p (d.entry c) with
    | true =>
      have hsame : (d.take c).2 = c := hfirst hp
      rw [List.filter_cons_of_neg (by rw [hp]; exact Bool.false_ne_true)]
      rwa [hsame] at ih ⊢
    | false =>
      rw [List.filter_cons_of_pos (by rw [hp]; rfl), List.map_cons]
      exact congrArg (d.entry c :: ·) ih

theorem eq_entry_of_mem {ds : List (Deed ν)} {c : Session × Recorded ν} {e : Entry ν} (h : e ∈ history ds c) :
    e = e.deed.entry e.before := by
  induction ds generalizing c with
  | nil => cases h
  | cons d ds ih =>
    rcases List.mem_cons.1 h with rfl | h
    · rfl
    · exact ih h

theorem set_of_mem {ds : List (Deed ν)} {c : Session × Recorded ν} {e : Entry ν} (h : e ∈ history ds c) {x : Setter}
    (hx : e.deed = .set x) :
    e.answer = .set (x.call e.before.1).1 ∧ e.after = ((x.call e.before.1).2, e.before.2) := by
  have heq := eq_entry_of_mem h
  rw [hx] at heq
  exact ⟨congrArg Entry.answer heq, congrArg Entry.after heq⟩

theorem take_of_idle {d : Deed ν} {c : Session × Recorded ν} (idle : (d.entry c).isIdle = true) :
    (d.take c).2 = c := by
  obtain ⟨hrefused, hwhole⟩ := Bool.and_eq_true_iff.1 idle
  cases d with
  | set x =>
    obtain ⟨f, hf⟩ := Option.isSome_iff_exists.1 hrefused
    exact Prod.ext (Setter.call_unchanged hf ((Bool.not_eq_true' _).mp hwhole)) rfl
  | perform => cases hrefused
  | close => cases hrefused
  | meanwhile f => cases hrefused

/-- **A setting that is refused leaves no trace.**  From any history, all calls of setters that break off may be left
out, but for those that break off halfway: every other deed then finds the same session and the same network, with the
same record of the bytes that went over it, and answers and leaves the same.  What breaks off says that it refuses, unless
it evades that; what breaks off halfway leaves another method, and nothing else.  A setter that is given a value of the
library answers and leaves what its setting does. -/
theorem refused_settings_leave_no_trace (ds : List (Deed ν)) (c : Session × Recorded ν) :
    history (without Entry.isIdle ds c) c = (history ds c).filter (!·.isIdle)
      ∧ ∀ e ∈ history ds c, ∀ x, e.deed = .set x →
        (∀ f, e.answer = .set (some f) →
          (∃ code reason, f = .refused code reason) ∨ e.before.1.closed = false ∧ x.Evades f)
        ∧ (∀ f, e.before.1.closed = false → x.Evades f → e.answer = .set (some f))
        ∧ (e.isHalfway = true → e.after = ({ e.before.1 with method := .post }, e.before.2))
        ∧ ∀ y, Setter.of? y = some x → e.before.1.defects = {} →
          let told := Setter.left (y.apply e.before.1) e.before.1
          e.answer = .set told.1 ∧ e.after = (told.2, e.before.2) := by
  refine ⟨history_without ds fun e he hidle => ?_, fun e he x hx => ?_⟩
  · have heq := eq_entry_of_mem he
    rw [heq] at hidle
    rw [heq]
    exact take_of_idle hidle
  · obtain ⟨hanswer, hafter⟩ := set_of_mem he hx
    refine ⟨fun f hf => ?_, fun f hopen hevades => ?_, fun hhalfway => ?_, fun y hy hsound => ?_⟩
    · exact Setter.call_breaks_off (Answer.set.inj (hanswer.symm.trans hf))
    · rw [hanswer, hevades.answers hopen]
    · rw [Entry.isHalfway, hx] at hhalfway
      rw [hafter, Setter.call_halfway hhalfway]
    · rw [hanswer, hafter, Setter.call_of_setting hsound hy]
      exact ⟨rfl, rfl⟩

end

/-! ## What shows -/

/-- The fault of memory that has been given back. -/
def forbidden : Fault := .network { kind := .value, text := some "operation forbidden on released memory" }

/-- A view of memory that has been given back: it counts as bytes, but neither they nor its truth can be told. -/
def gone : Argument := .foreign (.error forbidden) (.ok "<released memory>") (some (.error forbidden))

/-- A new session, and a server that answers one request. -/
def anew : Session × Recorded ScriptedNetwork :=
  ({ readSize_pos := Session.readSize_new_pos },
    { network := ({} : ScriptedNetwork).queueReply { data := Bytes.ofText "HTTP/1.1 204 No Content\r\n\r\n" } })

/-- A transfer among calls that are refused, evade that, or break off halfway, and one more after the end. -/
def mixed : List (Deed ScriptedNetwork) :=
  [.set (.url (.value (.text "http://h/"))), .set (.timeout (.value (.int 0))), .set (.verifyTls gone),
    .set (.methodPost gone), .perform, .close, .set .methodGet]

theorem refused_settings_leave_no_trace_mixed :
    (history mixed anew).map Entry.isRefused = [false, true, true, true, false, false, true]
      ∧ (history mixed anew).map Entry.isIdle = [false, true, true, false, false, false, true]
      ∧ history (without Entry.isIdle mixed anew) anew = (history mixed anew).filter (!·.isIdle)
      ∧ (∃ e ∈ history mixed anew, e.deed = .set (.verifyTls gone) ∧ e.before.1.closed = false
        ∧ (Setter.verifyTls gone).Evades forbidden ∧ e.answer = .set (some forbidden))
      ∧ (∃ e ∈ history mixed anew, e.deed = .set (.methodPost gone) ∧ e.isHalfway = true
        ∧ e.after = ({ e.before.1 with method := .post }, e.before.2))
      ∧ ∃ e ∈ history mixed anew, e.deed = .set .methodGet ∧ e.before.1.defects = {}
        ∧ e.after = ((Setter.left (Setting.methodGet.apply e.before.1) e.before.1).2, e.before.2)
        ∧ ∃ f, e.answer = .set (some f)
          ∧ ((∃ code reason, f = .refused code reason) ∨ e.before.1.closed = false ∧ Setter.methodGet.Evades f) := by
  obtain ⟨hwithout, hset⟩ := refused_settings_leave_no_trace mixed anew
  refine ⟨by decide +kernel, by decide +kernel, hwithout, ?_, ?_, ?_⟩
  · have hthird : _ ∈ history mixed anew := .tail _ (.tail _ (.head _))
    have hevades : (Setter.verifyTls gone).Evades forbidden := .truthless rfl
    have hanswer := (hset _ hthird _ rfl).2.1 forbidden (by decide +kernel) hevades
    exact ⟨_, hthird, rfl, by decide +kernel, hevades, hanswer⟩
  · have hfourth : _ ∈ history mixed anew := .tail _ (.tail _ (.tail _ (.head _)))
    have hafter := (hset _ hfourth _ rfl).2.2.1 (by decide +kernel)
    exact ⟨_, hfourth, rfl, by decide +kernel, hafter⟩
  · have hlast : _ ∈ history mixed anew := .tail _ (.tail _ (.tail _ (.tail _ (.tail _ (.tail _ (.head _))))))
    have hanswer := (set_of_mem hlast rfl).1
    rw [Setter.call_of_closed _ (by decide +kernel)] at hanswer
    have hafter := ((hset _ hlast _ rfl).2.2.2 .methodGet rfl (by decide +kernel)).2
    exact ⟨_, hlast, rfl, by decide +kernel, hafter, _, hanswer, (hset _ hlast _ rfl).1 _ hanswer⟩

/-- A transfer after a body that cannot be read. -/
def unread : List (Deed ScriptedNetwork) :=
  [.set (.url (.value (.text "http://h/"))), .set (.methodPost gone), .perform]

theorem refusals_break_out_and_show :
    (history [.set (.timeout (.value (.int (Int.ofNat (Nat.pow 10 400)))))] anew).map (·.answer)
        = [.set (some .tooLarge)]
      ∧ (history unread anew).map Entry.isRefused = [false, true, false]
      ∧ (history unread anew).getLast?.map (WireEvent.writesTo 0 ·.after.2.wire)
        = some [(Bytes.ofText "POST / HTTP/1.1\r\nHost: h\r\nContent-Length: 0\r\n\r\n", true)]
      ∧ (history (without Entry.isRefused unread anew) anew).getLast?.map (WireEvent.writesTo 0 ·.after.2.wire)
        = some [(Bytes.ofText "GET / HTTP/1.1\r\nHost: h\r\n\r\n", true)] := by
  refine ⟨?_, by decide +kernel, by decide +kernel, by decide +kernel⟩
  have hfar : Decimal.ofInt? (Int.ofNat (Nat.pow 10 400)) = none := Option.isNone_iff_eq_none.1 (by decide +kernel)
  have hevades : (Setter.timeout (.value (.int (Int.ofNat (Nat.pow 10 400))))).Evades .tooLarge :=
    .distant (by decide +kernel) hfar
  exact congrArg ([Answer.set ·]) (hevades.answers (s := anew.1) rfl)

end Deed
end Transport
