import ContentTransport.Proofs.Connection.Answer
/-!
# Making — how a connection is made

Settings are checked twice: for their kinds when they are made, and for their ranges when a session is told them.  A
connection is made with a session that carries them, or it is not made and its session is closed
(`made_or_refused`).

Between the two checks lie the whole numbers of seconds that no floating-point number is near, and those that are not
above zero and have too many digits to be shown.  No connection is made with such a timeout, but neither is it refused:
the fault of the conversion escapes, and the session stays open (`distant_timeout_escapes`).
-/
namespace Transport
namespace Connection

/-! ## The session of a new connection -/

/-- A session that takes its settings takes them one after the other. -/
theorem sessionFor_steps {settings : Settings} {s : Session} (h : sessionFor settings = .ok s) :
    ∃ t v, ({} : Session).setTimeout settings.timeout.toValue = .ok t
      ∧ t.setVerifyTls (.bool settings.verifyTls) = .ok v ∧ v.setReadSize settings.readSize.toValue = .ok s := by
  unfold sessionFor instructions tell at h
  rcases htimeout : ({} : Session).setTimeout settings.timeout.toValue with f | t
  · simp only [htimeout] at h
    cases h
  · simp only [htimeout, tell] at h
    rcases hverify : t.setVerifyTls (.bool settings.verifyTls) with f | v
    · simp only [hverify] at h
      cases h
    · simp only [hverify] at h
      rcases hsize : v.setReadSize settings.readSize.toValue with f | s'
      · simp only [hsize] at h
        cases h
      · simp only [hsize] at h
        cases h
        exact ⟨t, v, rfl, hverify, hsize⟩

variable {ν : Type} [Network ν]

/-- How the making of a session ends, by the fault that there is to begin with, if there is one. -/
inductive Prepared (settings : Settings) (r : Reporter) (w : ν) :
    Option Fault → Except Fault Outcome × Option Session × Reporter × ν → Prop
  | made {s : Session} (session : sessionFor settings = .ok s) : Prepared settings r w none (.ok .ok, some s, r, w)
  | refused {code : TransferCode} {reason : String} {s : Session}
      (told : tell (instructions settings) {} = (some (.refused code reason), s)) :
    Prepared settings r w none ((unusable ("Failed to set up transport session: " ++ reason) r).1, some (s.close w).1,
      (unusable ("Failed to set up transport session: " ++ reason) r).2, (s.close w).2)
  | broken {f : Fault} {s : Session} (told : tell (instructions settings) {} = (some f, s))
      (other : ∀ code reason, f ≠ .refused code reason) : Prepared settings r w none (.error f, some s, r, w)
  | uncreated {f : Fault} (system : f.isSystem = true) :
    Prepared settings r w (some f) ((unusable "Failed to init transport session" r).1, none,
      (unusable "Failed to init transport session" r).2, w)
  | failed {f : Fault} (system : f.isSystem = false) : Prepared settings r w (some f) (.error f, none, r, w)

/-- **Everything that the making of a session can do.** -/
theorem prepare_spec (settings : Settings) (creation : Option Fault) (r : Reporter) (w : ν) :
    Prepared settings r w creation (prepare settings creation r w) := by
  unfold prepare
  cases creation with
  | some f =>
    by_cases hf : f.isSystem = true
    · simp only [if_pos hf]
      exact .uncreated hf
    · simp only [if_neg hf]
      exact .failed (Bool.eq_false_iff.2 hf)
  | none =>
    rcases htold : tell (instructions settings) {} with ⟨_ | f, s⟩
    · simp only [establish, htold]
      refine .made ?_
      unfold sessionFor
      rw [htold]
    · cases f with
      | refused code reason =>
        simp only [establish, htold]
        exact .refused htold
      | _ =>
        simp only [establish, htold]
        exact .broken htold nofun

omit [Network ν] in
/-- Only a failure is told of a session that cannot be used. -/
theorem unusable_fst {r : Reporter} {m : String} {o : Outcome} (h : (unusable m r).1 = .ok o) :
    o = ⟨.connectionSetupFailed, some m⟩ := by
  unfold unusable Reporter.logFailure at h
  dsimp only at h
  generalize (r.log _ _).1 = a at h
  cases a with
  | error f => cases h
  | ok u =>
    cases h
    rfl

omit [Network ν] in
theorem tell_of_sessionFor {settings : Settings} {s : Session} (h : sessionFor settings = .ok s) :
    tell (instructions settings) {} = (none, s) := by
  unfold sessionFor at h
  split at h
  · rename_i t ht
    cases h
    exact ht
  · cases h

theorem make_of_sessionFor {settings : Settings} {s : Session} (h : sessionFor settings = .ok s) (r : Reporter) (w : ν) :
    make settings none r w
      = (.ok (.ok, some { settings := settings, session := some s, reporter := r, network := w }), r) := by
  simp only [make, prepare, establish, tell_of_sessionFor h]
  rfl

/-- What is made is a connection with a new session under the settings. -/
theorem make_ok {settings : Settings} {creation : Option Fault} {r : Reporter} {w : ν}
    {o : Outcome} {c : Connection ν} (made : (make settings creation r w).1 = .ok (o, some c)) :
    ∃ s, sessionFor settings = .ok s
      ∧ c = { settings := settings, session := some s, reporter := (make settings creation r w).2, network := w } := by
  have hspec := prepare_spec settings creation r w
  have hunused {m : String} {s : Option Session} {v : ν}
      (h : prepare settings creation r w = ((unusable m r).1, s, (unusable m r).2, v)) : False := by
    unfold make at made
    rw [h] at made
    rcases ha : (unusable m r).1 with f | o'
    · simp only [ha] at made
      cases made
    · obtain rfl := unusable_fst ha
      simp only [ha] at made
      cases made
  have hbroken {f : Fault} {s : Option Session} (h : prepare settings creation r w = (.error f, s, r, w)) : False := by
    unfold make at made
    rw [h] at made
    cases made
  generalize hp : prepare settings creation r w = p at hspec hunused hbroken
  cases hspec with
  | made hs =>
    unfold make at made ⊢
    rw [hp] at made ⊢
    cases made
    exact ⟨_, hs, rfl⟩
  | refused => exact (hunused rfl).elim
  | uncreated => exact (hunused rfl).elim
  | broken => exact (hbroken rfl).elim
  | failed => exact (hbroken rfl).elim

/-! ## What a session takes -/

/-- A timeout that a session takes, and the seconds that it counts. -/
inductive Granted : Number → Float → Prop
  | real {x : Float} (positive : ¬x ≤ 0) : Granted (.real x) x
  | whole {n : Int} {x : Float} (positive : 0 < n) (near : Decimal.ofInt? n = some x) : Granted (.whole n) x

/-- A timeout that a session neither takes nor refuses, and the fault of it. -/
inductive Unanswerable : Number → Fault → Prop
  | distant {n : Int} (positive : 0 < n) (far : Decimal.ofInt? n = none) : Unanswerable (.whole n) .tooLarge
  | long {n : Int} (negative : n ≤ 0) (digits : Nat.pow 10 Decimal.mostDigits ≤ n.natAbs) :
    Unanswerable (.whole n) .tooManyDigits

theorem isWritable_int (n : Int) : (Value.int n).isWritable = true ↔ n.natAbs < Nat.pow 10 Decimal.mostDigits := by
  rw [Value.isWritable, decide_eq_true_iff]

theorem objection_cases (before : String) (v : Value) :
    (v.isWritable = true ∧ Session.objection before v = Session.refuse (before ++ v.quoted))
      ∨ (v.isWritable = false ∧ Session.objection before v = .tooManyDigits) := by
  unfold Session.objection
  cases hv : v.isWritable with
  | true => exact .inl ⟨rfl, if_pos rfl⟩
  | false => exact .inr ⟨rfl, if_neg Bool.false_ne_true⟩

/-- A session takes a timeout, refuses it, or does neither. -/
theorem seconds_cases (t : Number) :
    (∃ x, Granted t x ∧ Session.seconds t.toValue = .ok x)
      ∨ (∃ f, Unanswerable t f ∧ Session.seconds t.toValue = .error f)
      ∨ ((∀ x, ¬Granted t x) ∧ (∀ f, ¬Unanswerable t f)
        ∧ ∃ reason, Session.seconds t.toValue = .error (Session.refuse reason)) := by
  cases t with
  | real x =>
    by_cases hx : x ≤ 0
    · refine .inr (.inr ⟨?_, ?_, "Invalid timeout: " ++ (Value.float x).quoted, if_pos hx⟩)
      · rintro y ⟨hpositive⟩
        exact hpositive hx
      · rintro f ⟨⟩
    · exact .inl ⟨x, .real hx, if_neg hx⟩
  | whole n =>
    by_cases hn : n ≤ 0
    · have hseconds : Session.seconds (.int n) = .error (Session.objection "Invalid timeout: " (.int n)) := if_pos hn
      rcases objection_cases "Invalid timeout: " (.int n) with ⟨hwritable, hrefusal⟩ | ⟨hlong, hfault⟩
      · rw [isWritable_int] at hwritable
        refine .inr (.inr ⟨?_, ?_, _, hseconds.trans (congrArg Except.error hrefusal)⟩)
        · rintro x (_ | ⟨hpositive, -⟩)
          exact absurd hpositive (Int.not_lt.2 hn)
        · rintro f (⟨hpositive, -⟩ | ⟨-, hdigits⟩)
          · exact absurd hpositive (Int.not_lt.2 hn)
          · exact absurd hwritable (Nat.not_lt.2 hdigits)
      · rw [← Bool.not_eq_true, isWritable_int, Nat.not_lt] at hlong
        exact .inr (.inl ⟨_, .long hn hlong, hseconds.trans (congrArg Except.error hfault)⟩)
    · have hpositive : 0 < n := Int.not_le.1 hn
      cases hnear : Decimal.ofInt? n with
      | some x =>
        refine .inl ⟨x, .whole hpositive hnear, ?_⟩
        simp [Session.seconds, Number.toValue, Value.number?, hn, hnear]
      | none =>
        refine .inr (.inl ⟨_, .distant hpositive hnear, ?_⟩)
        simp [Session.seconds, Number.toValue, Value.number?, hn, hnear]

theorem Granted.not_unanswerable {t : Number} {x : Float} (h : Granted t x) (f : Fault) : ¬Unanswerable t f := by
  rintro (⟨hpositive, hfar⟩ | ⟨hnegative, -⟩)
  · cases h with
    | whole _ near => exact nomatch near.symm.trans hfar
  · cases h with
    | whole positive _ => exact absurd positive (Int.not_lt.2 hnegative)

theorem Unanswerable.unique {t : Number} {f g : Fault} (h : Unanswerable t f) (h' : Unanswerable t g) : f = g := by
  cases h with
  | distant positive _ =>
    cases h' with
    | distant => rfl
    | long negative _ => exact absurd positive (Int.not_lt.2 negative)
  | long negative _ =>
    cases h' with
    | distant positive _ => exact absurd positive (Int.not_lt.2 negative)
    | long => rfl

/-- A live session that carries settings. -/
structure Carries (c : Settings) (s : Session) : Prop where
  opened : s.closed = false
  timeout : Granted c.timeout s.timeout
  verifyTls : s.verifyTls = c.verifyTls
  readSize : c.readSize = .number s.readSize

/-- Settings that a session takes. -/
def Takes (c : Settings) : Prop := (∃ x, Granted c.timeout x) ∧ ∃ n, c.readSize = .number n

/-- How a new session takes settings: it takes them all, refuses one, or breaks off at a timeout that it can do neither
with. -/
inductive Instructed (c : Settings) : Option Fault × Session → Prop
  | taken {s : Session} (carries : Carries c s) : Instructed c (none, s)
  | refused {reason : String} {s : Session} (takes : ¬Takes c) (answerable : ∀ f, ¬Unanswerable c.timeout f) :
    Instructed c (some (Session.refuse reason), s)
  | broken {f : Fault} {s : Session} (unanswerable : Unanswerable c.timeout f) (opened : s.closed = false) :
    Instructed c (some f, s)

/-- **Everything that telling a new session its settings can do.** -/
theorem tell_spec (c : Settings) : Instructed c (tell (instructions c) {}) := by
  have htimeout : ({} : Session).setTimeout c.timeout.toValue
      = (Session.seconds c.timeout.toValue).map fun x => { ({} : Session) with timeout := x } := rfl
  rcases seconds_cases c.timeout with ⟨x, hgranted, hx⟩ | ⟨f, hf, hx⟩ | ⟨hno, hnone, reason, hx⟩
  · rw [hx] at htimeout
    have hpositive := c.readSize_pos
    cases hsize : c.readSize with
    | number n =>
      rw [hsize] at hpositive
      obtain ⟨k, rfl⟩ : ∃ k : Nat, n = .ofNat (k + 1) := by
        cases n with
        | ofNat m =>
          cases m with
          | zero => cases hpositive
          | succ k => exact ⟨k, rfl⟩
        | negSucc m => cases hpositive
      have htold : tell (instructions c) {} = (none,
          { timeout := x, verifyTls := c.verifyTls, readSize := k + 1, readSize_pos := Nat.succ_pos k }) := by
        simp only [tell, instructions, htimeout, hsize, Except.map]
        rfl
      rw [htold]
      exact .taken ⟨rfl, hgranted, rfl, hsize⟩
    | truth b =>
      have htold : tell (instructions c) {} = (some (Session.refuse ("Invalid read size: " ++ (Value.bool b).quoted)),
          { timeout := x, verifyTls := c.verifyTls }) := by
        simp only [tell, instructions, htimeout, hsize, Except.map]
        rfl
      rw [htold]
      refine .refused ?_ hgranted.not_unanswerable
      rintro ⟨-, n, hn⟩
      exact nomatch hsize.symm.trans hn
  · rw [hx] at htimeout
    have htold : tell (instructions c) {} = (some f, {}) := by simp only [tell, instructions, htimeout, Except.map]
    rw [htold]
    exact .broken hf rfl
  · rw [hx] at htimeout
    have htold : tell (instructions c) {} = (some (Session.refuse reason), {}) := by
      simp only [tell, instructions, htimeout, Except.map]
    rw [htold]
    refine .refused ?_ hnone
    rintro ⟨⟨x, hgranted⟩, -⟩
    exact hno x hgranted

theorem Unanswerable.not_refusal {t : Number} {f : Fault} (h : Unanswerable t f) (code : TransferCode) (reason : String) :
    f ≠ .refused code reason := by
  rintro rfl
  cases h

/-! ## Every making -/

/-- What keeps the making of a connection from being answered. -/
inductive Obstacle (c : Settings) : Option Fault → Fault → Prop
  | creation {f : Fault} (system : f.isSystem = false) : Obstacle c (some f) f
  | timeout {f : Fault} (h : Unanswerable c.timeout f) : Obstacle c none f

theorem obstacle_none {c : Settings} {f : Fault} : Obstacle c none f ↔ Unanswerable c.timeout f := by
  refine ⟨fun h => ?_, .timeout⟩
  cases h with
  | timeout h => exact h

theorem obstacle_some {c : Settings} {f g : Fault} : Obstacle c (some g) f ↔ g = f ∧ f.isSystem = false := by
  refine ⟨fun h => ?_, fun ⟨hf, h⟩ => hf ▸ .creation (hf ▸ h)⟩
  cases h with
  | creation h => exact ⟨rfl, h⟩

theorem closed_close (s : Session) (w : ν) : (s.close w).1.closed = true := by
  unfold Session.close
  split
  · assumption
  · rfl

theorem unusable_of_taking {r : Reporter} (taking : r.listener.answer = .ok ()) (m : String) :
    (unusable m r).1 = .ok ⟨.connectionSetupFailed, some m⟩ := by
  simp [unusable, Reporter.logFailure, Reporter.log, taking, Except.map]

theorem make_of_unusable {c : Settings} {creation : Option Fault} {r r' : Reporter} {w w' : ν} {m : String}
    {s : Option Session} (taking : r.listener.answer = .ok ())
    (h : prepare c creation r w = ((unusable m r).1, s, r', w')) :
    (make c creation r w).1 = .ok (⟨.connectionSetupFailed, some m⟩, none) := by
  rw [unusable_of_taking taking] at h
  unfold make
  rw [h]
  rfl

theorem make_of_broken {c : Settings} {creation : Option Fault} {r r' : Reporter} {w w' : ν} {f : Fault}
    {s : Option Session} (h : prepare c creation r w = (.error f, s, r', w')) : (make c creation r w).1 = .error f := by
  unfold make
  rw [h]

/-- How the making of a connection ends that is not kept from being answered. -/
inductive Answered (c : Settings) (creation : Option Fault) (r : Reporter) (w : ν) : Prop
  | live {k : Connection ν} {s : Session} (takes : creation = none ∧ Takes c)
    (made : (make c creation r w).1 = .ok (.ok, some k)) (settings : k.settings = c) (session : k.session = some s)
    (carries : Carries c s)
  | refused {m : String} (takes : ¬(creation = none ∧ Takes c))
    (made : (make c creation r w).1 = .ok (⟨.connectionSetupFailed, some m⟩, none))
    (closed : ∀ s, (prepare c creation r w).2.1 = some s → s.closed = true)

/-- **A connection is made, or refused with its session closed.**  It is made exactly if a session takes the settings, and
then with a live session that carries them.  The one way around an answer is a timeout that a session can neither take
nor refuse: the fault of it escapes, and leaves the session open. -/
theorem made_or_refused {r : Reporter} (taking : r.listener.answer = .ok ()) (c : Settings) (creation : Option Fault) (w : ν) :
    ((∀ f, ¬Obstacle c creation f) → Answered c creation r w)
      ∧ ∀ f, Obstacle c creation f → (make c creation r w).1 = .error f
        ∧ ∀ s, (prepare c creation r w).2.1 = some s → s.closed = false := by
  have hspec := prepare_spec c creation r w
  generalize hp : prepare c creation r w = p at hspec
  have htells := tell_spec c
  cases hspec with
  | @made s hs =>
    rw [tell_of_sessionFor hs] at htells
    cases htells with
    | taken hcarries =>
      have hnone := hcarries.timeout.not_unanswerable
      have htakes : Takes c := ⟨⟨_, hcarries.timeout⟩, _, hcarries.readSize⟩
      have hmade := congrArg Prod.fst (make_of_sessionFor hs r w)
      exact ⟨fun _ => .live ⟨rfl, htakes⟩ hmade rfl rfl hcarries, fun f hf => absurd (obstacle_none.1 hf) (hnone f)⟩
  | @refused code reason s htold =>
    have hmade := make_of_unusable taking hp
    rw [htold] at htells
    generalize hf : Fault.refused code reason = f at htells
    cases htells with
    | refused hno hnone =>
      refine ⟨fun _ => .refused (fun h => hno h.2) hmade ?_, fun f hf => absurd (obstacle_none.1 hf) (hnone f)⟩
      rw [hp]
      rintro t ⟨⟩
      exact closed_close s w
    | broken hunanswerable => exact absurd hf.symm (hunanswerable.not_refusal code reason)
  | @broken f s htold hother =>
    have hmade := make_of_broken hp
    rw [htold] at htells
    cases htells with
    | refused => exact absurd rfl (hother _ _)
    | broken hunanswerable hopen =>
      refine ⟨fun hno => absurd (.timeout hunanswerable) (hno f), fun g hg => ?_⟩
      obtain rfl := hunanswerable.unique (obstacle_none.1 hg)
      refine ⟨hmade, ?_⟩
      rintro t ⟨⟩
      exact hopen
  | @uncreated f hf =>
    have hmade := make_of_unusable taking hp
    refine ⟨fun _ => .refused (fun ⟨h, _⟩ => nomatch h) hmade ?_, fun g hg => ?_⟩
    · rw [hp]
      rintro t ⟨⟩
    · rw [(obstacle_some.1 hg).1] at hf
      exact nomatch hf.symm.trans (obstacle_some.1 hg).2
  | @failed f hf =>
    refine ⟨fun hno => absurd (.creation hf) (hno f), fun g hg => ?_⟩
    rw [← (obstacle_some.1 hg).1]
    refine ⟨make_of_broken hp, ?_⟩
    rintro t ⟨⟩

/-- Settings that allow no time. -/
def timeless : Settings := { Settings.default with timeout := .whole 0 }

theorem made_or_refused_timeless : (∀ f, ¬Obstacle timeless none f) ∧ ¬Takes timeless
    ∧ Answered timeless none {} ({} : ScriptedNetwork) := by
  have hnone : ∀ f, ¬Obstacle timeless none f := by
    intro f hf
    have hpow : ∀ n, 0 < Nat.pow 10 n := fun _ => Nat.pow_pos (Nat.succ_pos 9)
    cases obstacle_none.1 hf with
    | distant positive _ => exact absurd positive (Int.lt_irrefl 0)
    | long _ digits => exact absurd digits (Nat.not_le.2 (hpow _))
  refine ⟨hnone, ?_, (made_or_refused (r := {}) rfl timeless none ({} : ScriptedNetwork)).1 hnone⟩
  rintro ⟨⟨x, hx⟩, -⟩
  cases hx with
  | whole positive _ => exact absurd positive (Int.lt_irrefl 0)

/-- Settings that allow more seconds than there are floating-point numbers for. -/
def distant : Settings := { Settings.default with timeout := .whole (Int.ofNat (Nat.pow 10 400)) }

def isTooLarge {α : Type} : Except Fault α → Bool
  | .error .tooLarge => true
  | _ => false

theorem eq_of_isTooLarge {α : Type} {a : Except Fault α} (h : isTooLarge a = true) : a = .error .tooLarge := by
  unfold isTooLarge at h
  split at h
  · rfl
  · cases h

/-- A timeout that its settings take, and that no session takes or refuses: the fault of it escapes, and the session that
was being made stays open. -/
theorem distant_timeout_escapes :
    Settings.ofValues (.int (Int.ofNat (Nat.pow 10 400))) (.int largestBody) (.bool true) (.int 65536) = .ok distant
    ∧ (make distant none {} ({} : ScriptedNetwork)).1 = .error .tooLarge
    ∧ (prepare distant none {} ({} : ScriptedNetwork)).2.1.map (·.closed) = some false :=
  ⟨rfl, eq_of_isTooLarge (by decide +kernel), by decide +kernel⟩

end Connection
end Transport
