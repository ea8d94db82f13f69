import ContentTransport.Proofs.Connection.Calls
import ContentTransport.Proofs.Session.Descriptions
import ContentTransport.Proofs.Session.Framed
import ContentTransport.Proofs.Session.Run
/-!
# Diagnoses — several diagnoses on one session

A session has one place for a buffer.  A diagnosis that begins takes the place from whatever has it, and a diagnosis that
ends while it counts as bound leaves the place empty, whatever has it by then.  So what a failure says is written to the
diagnosis that began last, but only until any other that counts as bound has ended (`diagnoses_share_one_place`,
`end_of_another_unbinds`).
-/
namespace Transport

open Connection (Sound begin_eq finish_eq)
open Session (readable leastBuffer)

/-! ## What a transfer fails with -/

namespace Session

variable {ν : Type} [Network ν] {s t : Session} {w : ν}

/-- What a transfer of an open session fails with, if it fails. -/
def failure? (s : Session) (w : ν) : Option (TransferCode × Text.Points) :=
  match s.url with
  | none => some (.urlMalformat, "No URL set")
  | some (_, u) =>
    match (s.started.attempt u w).1 with
    | some (.failed code m) => some (code, m)
    | _ => none

theorem buffers_fail_congr (bound : t.bound = s.bound) (buffers : t.buffers = s.buffers) (code : TransferCode)
    (m : Text.Points) : (t.fail code m).2.buffers = (s.fail code m).2.buffers := by
  unfold fail
  rw [bound]
  cases s.bound with
  | none => exact buffers
  | some id => exact congrArg (List.modify · id (describe m)) buffers

/-- **A transfer writes what it fails with into the bound buffer**, and nothing else into any buffer. -/
theorem perform_failure (opened : s.closed = false) {code : TransferCode} {m : Text.Points}
    (fails : s.failure? w = some (code, m)) :
    (s.perform w).1 = .ok code ∧ code ≠ .ok ∧ (s.perform w).2.1.buffers = (s.fail code m).2.buffers := by
  unfold failure? at fails
  cases hurl : s.url with
  | none =>
    rw [hurl] at fails
    cases fails
    rw [perform_of_aimless opened hurl]
    exact ⟨rfl, nofun, buffers_fail_congr (s := s) (t := s.begun) rfl rfl _ _⟩
  | some target =>
    obtain ⟨text, u⟩ := target
    have hkeeps := attempt_keeps s.started u w
    have hspec := attempt_spec u s.started w
    rw [hurl] at fails
    dsimp only at fails
    rw [perform_of_open opened hurl]
    generalize s.started.attempt u w = a at fails hkeeps hspec ⊢
    obtain ⟨_ | ⟨code', m'⟩ | f, t, v⟩ := a
    · cases fails
    · cases fails
      refine ⟨rfl, ?_, ?_⟩
      · rintro rfl
        exact hspec.fails rfl m rfl
      · have hbound : t.bound = s.bound := (congrArg Session.bound hkeeps).trans rfl
        have hbuffers : t.buffers = s.buffers := (congrArg Session.buffers hkeeps).trans rfl
        exact buffers_fail_congr (t := { t with link := none }) hbound hbuffers code m
    · cases fails

theorem perform_success (opened : s.closed = false) (fails : s.failure? w = none) :
    (∀ code, (s.perform w).1 = .ok code → code = .ok) ∧ (s.perform w).2.1.buffers = s.buffers := by
  unfold failure? at fails
  cases hurl : s.url with
  | none =>
    rw [hurl] at fails
    cases fails
  | some target =>
    obtain ⟨text, u⟩ := target
    have hkeeps := attempt_keeps s.started u w
    rw [hurl] at fails
    dsimp only at fails
    rw [perform_of_open opened hurl]
    generalize s.started.attempt u w = a at fails hkeeps ⊢
    obtain ⟨b, t, v⟩ := a
    have hbuffers : t.buffers = s.buffers := (congrArg Session.buffers hkeeps).trans rfl
    obtain _ | ⟨code, m⟩ | f := b
    · exact ⟨fun code h => (Except.ok.inj h).symm, hbuffers⟩
    · cases fails
    · exact ⟨nofun, hbuffers⟩

end Session

/-! ## Binding past a diagnosis -/

/-- A setting that binds a buffer, or none, if the session takes buffers. -/
def Setting.Rebinds : Setting → Prop
  | .buffer .none => True
  | .buffer (.buffer b) => leastBuffer ≤ b.length
  | _ => False

namespace Session

variable {s t : Session}

theorem bind_none_eq (sound : Sound s) : s.bind none = .ok { s with bound := none } := by
  unfold Session.bind
  rw [whenSound_of_sound sound.2]
  exact if_neg (by rw [sound.1]; exact Bool.false_ne_true)

theorem bindValue_buffer (sound : Sound s) (b : Bytes) : s.bindValue (.buffer b)
    = if leastBuffer ≤ b.length then .ok { s with buffers := s.buffers ++ [b], bound := some s.buffers.length }
      else .error badBuffer := by
  have hopen : ¬(s.allocate b).2.closed = true := by
    rw [show (s.allocate b).2.closed = false from sound.1]
    exact Bool.false_ne_true
  have hnew : (s.allocate b).2.buffers[s.buffers.length]? = some b := List.getElem?_concat_length
  change (s.allocate b).2.bind (some s.buffers.length) = _
  unfold Session.bind
  rw [whenSound_of_sound (s := (s.allocate b).2) sound.2, whenOpen, if_neg hopen]
  dsimp only
  rw [hnew]
  by_cases hsize : leastBuffer ≤ b.length
  · rw [if_pos hsize, if_pos (by simpa using hsize)]
    rfl
  · rw [if_neg hsize, if_neg (by simpa using hsize)]

/-- A setting that rebinds puts something new in the place of the buffer, or nothing. -/
theorem apply_rebinds (sound : Sound s) {x : Setting} (rebinds : x.Rebinds) : ∃ t, x.apply s = .ok t
    ∧ (∀ id, id < s.buffers.length → t.bound ≠ some id) ∧ s.buffers.length ≤ t.buffers.length := by
  cases x with
  | buffer v =>
    cases v with
    | none => exact ⟨_, bind_none_eq sound, nofun, Nat.le_refl _⟩
    | buffer b =>
      refine ⟨_, (bindValue_buffer sound b).trans (if_pos rebinds), fun id hid h => ?_, ?_⟩
      · exact Nat.ne_of_gt hid (Option.some.inj h)
      · rw [List.length_append]
        exact Nat.le_add_right _ _
    | _ => exact rebinds.elim
  | _ => exact rebinds.elim

/-- Any other setting leaves the buffers, and what is bound, as they are. -/
theorem apply_keeps (sound : Sound s) {x : Setting} (keeps : ¬x.Rebinds) (h : x.apply s = .ok t) :
    t.bound = s.bound ∧ t.buffers = s.buffers := by
  cases x with
  | timeout v =>
    obtain ⟨-, h⟩ := whenOpen_ok h
    cases hs : seconds v with
    | error f => rw [hs] at h; cases h
    | ok x => rw [hs] at h; cases h; exact ⟨rfl, rfl⟩
  | readSize v =>
    obtain ⟨-, h⟩ := whenOpen_ok h
    split at h
    · cases h; exact ⟨rfl, rfl⟩
    · cases h
  | methodPost body =>
    obtain ⟨-, h⟩ := whenOpen_ok h
    split at h
    · cases h; exact ⟨rfl, rfl⟩
    · cases h
  | url v =>
    obtain ⟨text, u, -, rfl⟩ := Connection.setUrl_aims h
    exact ⟨rfl, rfl⟩
  | attach l =>
    simp only [Setting.apply, attach] at h
    cases hs : s.setHeaders (some l) with
    | error f => rw [hs] at h; cases h
    | ok u =>
      rw [hs] at h
      obtain ⟨-, hu⟩ := whenOpen_ok hs
      cases hu
      cases h
      exact ⟨rfl, rfl⟩
  | receiver r =>
    simp only [Setting.apply, setReceiver] at h
    split at h
    · cases h
    · obtain ⟨-, h⟩ := whenOpen_ok h; cases h; exact ⟨rfl, rfl⟩
  | buffer v =>
    cases v with
    | none => exact absurd trivial keeps
    | buffer b =>
      cases h.symm.trans ((bindValue_buffer sound b).trans (if_neg keeps))
    | _ =>
      have hrefused := (whenSound_of_sound sound.2 true (.error badBuffer)).symm.trans h
      obtain ⟨-, h⟩ := whenOpen_ok hrefused
      cases h
  | _ => obtain ⟨-, h⟩ := whenOpen_ok h; cases h; exact ⟨rfl, rfl⟩

end Session

/-! ## Acts -/

/-- A session, its network, and the diagnoses that have begun on it, in that order. -/
structure Watched (ν : Type) where
  session : Session
  network : ν
  diagnoses : List Diagnosis := []
  reporter : Reporter := {}

/-- What is done with the diagnoses of a session, known by their places in the order, and with the session meanwhile. -/
inductive WatchAct (ν : Type)
  | begin
  | unbind (k : Nat)
  | finish (k : Nat)
  | set (x : Setting)
  | overwrite (data : Bytes)
  | perform
  | turn (f : ν → ν)

/-- The diagnosis that an act ends, if it is one that ends a diagnosis. -/
def WatchAct.ends? {ν : Type} : WatchAct ν → Option Nat
  | unbind k => some k
  | finish k => some k
  | _ => none

namespace Watched

section

variable {ν : Type} {c t : Watched ν} {a : WatchAct ν}

/-- Whether a diagnosis counts as bound. -/
def Counts (c : Watched ν) (k : Nat) : Prop := ∃ d ∈ c.diagnoses[k]?, d.isBound = true

theorem not_counts {k : Nat} {d : Diagnosis} (hd : c.diagnoses[k]? = some d) (ended : d.isBound = false) :
    ¬c.Counts k := by
  rintro ⟨e, he, hbound⟩
  obtain rfl : d = e := Option.some.inj (hd.symm.trans he)
  rw [ended] at hbound
  cases hbound

/-- An act that puts something else in the place of the buffer, or nothing: the end of any diagnosis that counts as
bound is one. -/
def Displaces (c : Watched ν) : WatchAct ν → Prop
  | .begin => True
  | .unbind k => c.Counts k
  | .finish k => c.Counts k
  | .set x => x.Rebinds
  | _ => False

/-- What holds of the diagnoses of a session that is open and takes buffers. -/
structure Sane (c : Watched ν) : Prop where
  sound : Sound c.session
  /-- Every diagnosis has a buffer of the session. -/
  present : ∀ d ∈ c.diagnoses, d.buffer < c.session.buffers.length
  /-- No two of them have one. -/
  distinct : (c.diagnoses.map (·.buffer)).Nodup

/-! ## What an act does -/

/-- How an act goes on a session that is open and takes buffers. -/
inductive Step (c : Watched ν) : WatchAct ν → Watched ν → Prop
  | begun (s : Session) (sound : Sound s) (buffers : s.buffers = c.session.buffers ++ [Session.blankBuffer])
    (bound : s.bound = some c.session.buffers.length) : Step c .begin
      { c with session := s, diagnoses := c.diagnoses ++ [{ buffer := c.session.buffers.length }] }
  | ended {a : WatchAct ν} {k : Nat} {d : Diagnosis} (ends : a.ends? = some k) (diagnosis : c.diagnoses[k]? = some d)
    (bound : d.isBound = true) : Step c a { c with
      session := { c.session with bound := none }, diagnoses := c.diagnoses.set k { d with isBound := false } }
  /-- A diagnosis that does not count as bound is ended, or there is none. -/
  | idle {a : WatchAct ν} {k : Nat} (ends : a.ends? = some k) (ended : ¬c.Counts k) : Step c a c
  /-- The diagnoses stay as they are. -/
  | meanwhile {a : WatchAct ν} {s : Session} {w : ν} (ends : a.ends? = none) (sound : Sound s)
    (longer : c.session.buffers.length ≤ s.buffers.length) (keeps : ¬c.Displaces a → s.bound = c.session.bound)
    (displaces : c.Displaces a → ∀ id, id < c.session.buffers.length → s.bound ≠ some id) :
    Step c a { c with session := s, network := w }

theorem Step.longer (h : c.Step a t) : c.session.buffers.length ≤ t.session.buffers.length := by
  cases h with
  | begun s _ buffers =>
    rw [buffers, List.length_append]
    exact Nat.le_add_right _ _
  | ended => exact Nat.le_refl _
  | idle => exact Nat.le_refl _
  | meanwhile _ _ longer => exact longer

theorem Sane.step (sane : c.Sane) (h : c.Step a t) : t.Sane := by
  have hlonger := h.longer
  cases h with
  | begun s sound buffers bound =>
    have hlength : s.buffers.length = c.session.buffers.length + 1 := by rw [buffers]; exact List.length_append
    refine ⟨sound, fun d hd => ?_, ?_⟩
    · rcases List.mem_append.1 hd with hd | hd
      · exact Nat.lt_of_lt_of_le (sane.present d hd) hlonger
      · rw [List.mem_singleton.1 hd]
        exact Nat.lt_of_lt_of_eq (Nat.lt_succ_self _) hlength.symm
    · rw [List.map_append]
      refine List.nodup_append.2 ⟨sane.distinct, by simp, fun b hb b' hb' => ?_⟩
      obtain ⟨d, hd, rfl⟩ := List.mem_map.1 hb
      rw [List.mem_singleton.1 hb']
      exact Nat.ne_of_lt (sane.present d hd)
  | @ended _ k d ends diagnosis bound =>
    obtain ⟨hlt, hd⟩ := List.getElem?_eq_some_iff.1 diagnosis
    refine ⟨sane.sound, fun e he => ?_, ?_⟩
    · rcases List.mem_or_eq_of_mem_set he with he | rfl
      · exact sane.present e he
      · exact sane.present d (List.mem_of_getElem? diagnosis)
    · have hsame : (c.diagnoses.set k { d with isBound := false }).map (·.buffer) = c.diagnoses.map (·.buffer) := by
        rw [List.map_set]
        subst hd
        exact (@List.set_getElem_self _ (c.diagnoses.map (·.buffer)) k (by rwa [List.length_map])) ▸ (by simp)
      rw [hsame]
      exact sane.distinct
  | idle => exact sane
  | meanwhile _ sound =>
    exact ⟨sound, fun d hd => Nat.lt_of_lt_of_le (sane.present d hd) hlonger, sane.distinct⟩

/-- An act ends the diagnosis that it is about, and no other. -/
theorem Step.diagnosis (h : c.Step a t) {k : Nat} {d : Diagnosis} (hd : c.diagnoses[k]? = some d) :
    t.diagnoses[k]? = some { d with isBound := d.isBound && a.ends? != some k } := by
  obtain ⟨hlt, hget⟩ := List.getElem?_eq_some_iff.1 hd
  cases h with
  | begun =>
    have hother : (WatchAct.begin.ends? (ν := ν) != some k) = true := rfl
    rw [hother, Bool.and_true]
    exact (List.getElem?_append_left hlt).trans hd
  | @ended _ j e ends diagnosis bound =>
    by_cases hj : j = k
    · subst hj
      obtain rfl : e = d := Option.some.inj (diagnosis.symm.trans hd)
      simp [ends, hlt]
    · have hother : (a.ends? != some k) = true := by simpa [ends] using hj
      rw [hother, Bool.and_true, List.getElem?_set_ne hj]
      exact hd
  | @idle _ j ends ended =>
    by_cases hj : j = k
    · subst hj
      have hended : d.isBound = false := Bool.eq_false_iff.2 fun hbound => ended ⟨d, hd, hbound⟩
      rw [hended, Bool.false_and, ← hended]
      exact hd
    · have hother : (a.ends? != some k) = true := by simpa [ends] using hj
      rw [hother, Bool.and_true]
      exact hd
  | meanwhile ends =>
    rw [ends, show (none != some k) = true from rfl, Bool.and_true]
    exact hd

theorem displaces_iff_counts {k : Nat} (ends : a.ends? = some k) : c.Displaces a ↔ c.Counts k := by
  cases a with
  | unbind j => cases ends; exact .rfl
  | finish j => cases ends; exact .rfl
  | _ => cases ends

/-- A buffer keeps its place if no act displaces it, and no act puts it back. -/
theorem Step.bound (h : c.Step a t) {id : BufferId} (present : id < c.session.buffers.length) :
    t.session.bound = some id ↔ c.session.bound = some id ∧ ¬c.Displaces a := by
  cases h with
  | begun s _ _ bound =>
    rw [bound]
    exact ⟨fun h => absurd (Option.some.inj h) (Nat.ne_of_gt present), fun h => absurd trivial h.2⟩
  | @ended _ k d ends diagnosis bound =>
    exact ⟨nofun, fun h => absurd ((displaces_iff_counts ends).2 ⟨d, diagnosis, bound⟩) h.2⟩
  | @idle _ k ends ended =>
    rw [displaces_iff_counts ends, and_iff_left ended]
  | meanwhile _ _ _ keeps displaces =>
    by_cases hdisplaces : c.Displaces a
    · exact ⟨fun h => absurd h (displaces hdisplaces id present), fun h => absurd hdisplaces h.2⟩
    · rw [keeps hdisplaces, and_iff_left hdisplaces]

end

section

variable {ν : Type} [Network ν] {c : Watched ν}

def after (c : Watched ν) : WatchAct ν → Watched ν
  | .begin =>
    match Diagnosis.begin c.session c.reporter with
    | (.ok d, s, r) => { c with session := s, diagnoses := c.diagnoses ++ [d], reporter := r }
    | (.error _, s, r) => { c with session := s, reporter := r }
  | .unbind k =>
    match c.diagnoses[k]? with
    | some d =>
      let (_, d, s) := d.unbind c.session
      { c with session := s, diagnoses := c.diagnoses.set k d }
    | none => c
  | .finish k =>
    match c.diagnoses[k]? with
    | some d =>
      let (_, d, s, r) := d.finish c.session c.reporter
      { c with session := s, diagnoses := c.diagnoses.set k d, reporter := r }
    | none => c
  | .set x =>
    match x.apply c.session with
    | .ok s => { c with session := s }
    | .error _ => c
  | .overwrite data =>
    match c.session.overwrite data with
    | some s => { c with session := s }
    | none => c
  | .perform => { c with session := (c.session.perform c.network).2.1, network := (c.session.perform c.network).2.2 }
  | .turn f => { c with network := f c.network }

/-! ## The end of a diagnosis -/

theorem unbind_eq {d : Diagnosis} {s : Session} (sound : Sound s) (bound : d.isBound = true) :
    d.unbind s = (.ok, { d with isBound := false }, { s with bound := none }) := by
  unfold Diagnosis.unbind
  rw [bound, Session.bind_none_eq sound]
  rfl

theorem unbind_of_ended {d : Diagnosis} (ended : d.isBound = false) (s : Session) : d.unbind s = (.ok, d, s) := by
  unfold Diagnosis.unbind
  rw [ended]
  rfl

theorem finish_of_ended {d : Diagnosis} (ended : d.isBound = false) (s : Session) (r : Reporter) :
    d.finish s r = (.ok (), d, s, r) := by
  unfold Diagnosis.finish
  rw [unbind_of_ended ended]
  rfl

/-- To end a diagnosis that does not count as bound does nothing. -/
theorem after_of_ended {a : WatchAct ν} {k : Nat} (ends : a.ends? = some k) (ended : ¬c.Counts k) : c.after a = c := by
  have hended {d : Diagnosis} (hd : c.diagnoses[k]? = some d) : d.isBound = false ∧ c.diagnoses.set k d = c.diagnoses := by
    obtain ⟨hlt, rfl⟩ := List.getElem?_eq_some_iff.1 hd
    exact ⟨Bool.eq_false_iff.2 fun hbound => ended ⟨_, hd, hbound⟩, List.set_getElem_self hlt⟩
  cases a with
  | unbind j =>
    obtain rfl : j = k := Option.some.inj ends
    unfold after
    dsimp only
    cases hd : c.diagnoses[j]? with
    | none => rfl
    | some d =>
      dsimp only
      rw [unbind_of_ended (hended hd).1, (hended hd).2]
  | finish j =>
    obtain rfl : j = k := Option.some.inj ends
    unfold after
    dsimp only
    cases hd : c.diagnoses[j]? with
    | none => rfl
    | some d =>
      dsimp only
      rw [finish_of_ended (hended hd).1, (hended hd).2]
  | _ => cases ends

/-- The end of a diagnosis that counts as bound empties the place of the buffer, whatever has it. -/
theorem after_of_counts (sound : Sound c.session) {a : WatchAct ν} {k : Nat} {d : Diagnosis} (ends : a.ends? = some k)
    (hd : c.diagnoses[k]? = some d) (bound : d.isBound = true) : c.after a = { c with
      session := { c.session with bound := none }, diagnoses := c.diagnoses.set k { d with isBound := false } } := by
  cases a with
  | unbind j =>
    obtain rfl : j = k := Option.some.inj ends
    simp only [after, hd, unbind_eq sound bound]
  | finish j =>
    obtain rfl : j = k := Option.some.inj ends
    simp only [after, hd, finish_eq sound bound]
  | _ => cases ends

theorem length_buffers_perform (opened : c.session.closed = false) :
    (c.session.perform c.network).2.1.buffers.length = c.session.buffers.length := by
  cases hfailure : c.session.failure? c.network with
  | none => exact congrArg List.length (Session.perform_success opened hfailure).2
  | some told =>
    obtain ⟨code, m⟩ := told
    rw [(Session.perform_failure opened hfailure).2.2]
    unfold Session.fail
    split
    · exact List.length_modify _ _ _
    · rfl

theorem step_after (sound : Sound c.session) (a : WatchAct ν) : c.Step a (c.after a) := by
  have hends {k : Nat} (ends : a.ends? = some k) : c.Step a (c.after a) := by
    by_cases hcounts : c.Counts k
    · obtain ⟨d, hd, hbound⟩ := hcounts
      rw [after_of_counts sound ends hd hbound]
      exact .ended ends hd hbound
    · rw [after_of_ended ends hcounts]
      exact .idle ends hcounts
  cases a with
  | begin =>
    unfold after
    rw [begin_eq sound]
    exact .begun _ sound rfl rfl
  | unbind k => exact hends rfl
  | finish k => exact hends rfl
  | set x =>
    unfold after
    dsimp only
    by_cases hrebinds : x.Rebinds
    · obtain ⟨t, ht, hnew, hlonger⟩ := Session.apply_rebinds sound hrebinds
      rw [ht]
      exact .meanwhile rfl (sound.same (Session.sameStream_apply ht)) hlonger (absurd hrebinds) fun _ => hnew
    · cases hx : x.apply c.session with
      | error f => exact .meanwhile rfl sound (Nat.le_refl _) (fun _ => rfl) hrebinds.elim
      | ok t =>
        obtain ⟨hbound, hbuffers⟩ := Session.apply_keeps sound hrebinds hx
        exact .meanwhile rfl (sound.same (Session.sameStream_apply hx)) (Nat.le_of_eq (congrArg List.length hbuffers.symm))
          (fun _ => hbound) hrebinds.elim
  | overwrite data =>
    unfold after Session.overwrite
    cases hbound : c.session.bound with
    | none => exact .meanwhile rfl sound (Nat.le_refl _) (fun _ => rfl) False.elim
    | some id =>
      refine .meanwhile rfl sound ?_ (fun _ => hbound.symm) False.elim
      exact Nat.le_of_eq (List.length_modify _ _ _).symm
  | perform =>
    have hoptions := Session.options_perform c.session c.network
    have hbound := congrArg Session.bound hoptions
    refine .meanwhile rfl ⟨?_, ?_⟩ (Nat.le_of_eq (length_buffers_perform sound.1).symm) (fun _ => hbound) False.elim
    · exact (Session.closed_of_options hoptions).trans sound.1
    · exact (Session.defects_of_options hoptions).trans sound.2
  | turn f => exact .meanwhile rfl sound (Nat.le_refl _) (fun _ => rfl) False.elim

/-! ## One act after another -/

def run (acts : List (WatchAct ν)) (c : Watched ν) : Watched ν := acts.foldl after c

/-- None of some acts displaces the buffer. -/
def Undisturbed : List (WatchAct ν) → Watched ν → Prop
  | [], _ => True
  | a :: acts, c => ¬c.Displaces a ∧ Undisturbed acts (c.after a)

theorem Sane.run {acts : List (WatchAct ν)} : ∀ {c : Watched ν}, c.Sane → (c.run acts).Sane := by
  induction acts with
  | nil => exact id
  | cons a acts ih => exact fun sane => ih (sane.step (step_after sane.sound a))

/-- A diagnosis keeps its buffer, and counts as bound until an act ends it. -/
theorem diagnosis_run {k : Nat} {acts : List (WatchAct ν)} : ∀ {c : Watched ν} {d : Diagnosis}, c.Sane →
    c.diagnoses[k]? = some d → ∃ e, (c.run acts).diagnoses[k]? = some e ∧ e.buffer = d.buffer
      ∧ (e.isBound = true ↔ d.isBound = true ∧ ∀ a ∈ acts, a.ends? ≠ some k) := by
  induction acts with
  | nil => exact fun {c d} _ hd => ⟨d, hd, rfl, by simp⟩
  | cons a acts ih =>
    intro c d sane hd
    have hstep := step_after sane.sound a
    obtain ⟨e, he, hbuffer, hbound⟩ := ih (sane.step hstep) (hstep.diagnosis hd)
    refine ⟨e, he, hbuffer, hbound.trans ?_⟩
    simp [and_assoc]

/-- A buffer is bound after some acts if it was before, and none of them displaces it. -/
theorem bound_run {id : BufferId} {acts : List (WatchAct ν)} : ∀ {c : Watched ν}, c.Sane →
    id < c.session.buffers.length →
      ((c.run acts).session.bound = some id ↔ c.session.bound = some id ∧ Undisturbed acts c) := by
  induction acts with
  | nil => exact fun _ _ => (and_iff_left trivial).symm
  | cons a acts ih =>
    intro c sane present
    have hstep := step_after sane.sound a
    refine (ih (sane.step hstep) (Nat.lt_of_lt_of_le present hstep.longer)).trans ?_
    rw [hstep.bound present, and_assoc]
    rfl

/-! ## What is told -/

omit [Network ν] in
theorem text_congr {d : Diagnosis} {s t : Session} (h : s.buffers[d.buffer]? = t.buffers[d.buffer]?) :
    d.text s = d.text t := by
  unfold Diagnosis.text Session.described
  rw [h]

/-- A transfer that fails is told to the diagnosis whose buffer is bound, and to no other. -/
theorem text_perform (sane : c.Sane) {d : Diagnosis} (mem : d ∈ c.diagnoses) {code : TransferCode} {m : Text.Points}
    (fails : c.session.failure? c.network = some (code, m)) : d.text (c.session.perform c.network).2.1
      = if c.session.bound = some d.buffer then String.ofList (readable m) else d.text c.session := by
  have hbuffers := (Session.perform_failure sane.sound.1 fails).2.2
  have hcontent := List.getElem?_eq_getElem (sane.present d mem)
  rw [text_congr (t := (c.session.fail code m).2) (congrArg (·[d.buffer]?) hbuffers)]
  by_cases hbound : c.session.bound = some d.buffer
  · rw [if_pos hbound]
    exact Session.text_fail hbound hcontent
  · rw [if_neg hbound]
    exact text_congr (Session.buffer_fail_of_ne hbound)

/-- What there is to know of diagnosis `k`, from its beginning at `c` up to `t`, some acts later. -/
structure Attends (k : Nat) (d : Diagnosis) (c : Watched ν) (acts : List (WatchAct ν)) (t : Watched ν) : Prop where
  /-- It counts as bound until it is ended. -/
  counts : d.isBound = true ↔ ∀ a ∈ acts, a.ends? ≠ some k
  /-- Its buffer is bound until it is displaced. -/
  bound : t.session.bound = some d.buffer ↔ Undisturbed acts c
  own : ∀ {j : Nat} {e : Diagnosis}, t.diagnoses[j]? = some e → e.buffer = d.buffer → j = k
  ends : (d.unbind t.session).1 = .ok ∧ (d.finish t.session t.reporter).1 = .ok ()
  /-- To end it twice is to end it once. -/
  once : ∀ {a b : WatchAct ν}, a.ends? = some k → b.ends? = some k → (t.after a).after b = t.after a
  /-- It reads what a transfer fails with, if its buffer is bound, and what it read before otherwise. -/
  fails : ∀ {code : TransferCode} {m : Text.Points}, t.session.failure? t.network = some (code, m) →
    (t.session.perform t.network).1 = .ok code ∧ code ≠ .ok
      ∧ d.text (t.after .perform).session
        = if t.session.bound = some d.buffer then String.ofList (readable m) else d.text t.session
  succeeds : t.session.failure? t.network = none → (∀ code, (t.session.perform t.network).1 = .ok code → code = .ok)
    ∧ d.text (t.after .perform).session = d.text t.session

theorem attends {k : Nat} {d : Diagnosis} (sane : c.Sane) (hd : c.diagnoses[k]? = some d) (counts : d.isBound = true)
    (bound : c.session.bound = some d.buffer) (acts : List (WatchAct ν)) :
    ∃ e, (c.run acts).diagnoses[k]? = some e ∧ Attends k e c acts (c.run acts) := by
  obtain ⟨e, he, hbuffer, hcounts⟩ := @diagnosis_run _ _ k acts c d sane hd
  have hsane : (c.run acts).Sane := sane.run
  generalize ht : c.run acts = t at he hsane
  refine ⟨e, he, hcounts.trans (and_iff_right counts), ?_, ?_, ?_, ?_, ?_, ?_⟩
  · rw [← ht, hbuffer, bound_run sane (sane.present d (List.mem_of_getElem? hd)), and_iff_right bound]
  · intro j e' he' hsame
    obtain ⟨hlt, -⟩ := List.getElem?_eq_some_iff.1 he'
    refine (List.getElem?_inj (by rwa [List.length_map]) hsane.distinct).1 ?_
    rw [List.getElem?_map, List.getElem?_map, he', he, Option.map_some, Option.map_some, hsame]
  · cases hbound : e.isBound with
    | true => rw [unbind_eq hsane.sound hbound, finish_eq hsane.sound hbound]; exact ⟨rfl, rfl⟩
    | false => rw [unbind_of_ended hbound, finish_of_ended hbound]; exact ⟨rfl, rfl⟩
  · intro a b ha hb
    refine after_of_ended hb (not_counts ((step_after hsane.sound a).diagnosis he) ?_)
    simp [ha]
  · intro code m fails
    obtain ⟨hanswer, hcode, -⟩ := Session.perform_failure hsane.sound.1 fails
    exact ⟨hanswer, hcode, text_perform hsane (List.mem_of_getElem? he) fails⟩
  · intro fails
    obtain ⟨hanswer, hbuffers⟩ := Session.perform_success hsane.sound.1 fails
    exact ⟨hanswer, text_congr (congrArg (·[e.buffer]?) hbuffers)⟩

/-- **The diagnoses of a session share one place.**  Whatever is done with any number of diagnoses on an open session, a
diagnosis counts as bound until it is ended, and ending it again does nothing; but its buffer is bound only until another
diagnosis begins, or any that counts as bound is ended.  What a transfer fails with is told to the diagnosis whose buffer
is bound, and to no other. -/
theorem diagnoses_share_one_place {start : Watched ν} (sound : Sound start.session) (unwatched : start.diagnoses = [])
    (pre post : List (WatchAct ν)) :
    let c := start.run pre
    ∃ d, (c.run (.begin :: post)).diagnoses[c.diagnoses.length]? = some d
      ∧ Attends c.diagnoses.length d (c.after .begin) post (c.run (.begin :: post)) := by
  intro c
  have hsane : c.Sane := Sane.run ⟨sound, by rw [unwatched]; exact nofun, by rw [unwatched]; exact List.nodup_nil⟩
  have hbegin : c.after .begin = { c with
      session := { c.session with
        buffers := c.session.buffers ++ [Session.blankBuffer], bound := some c.session.buffers.length }
      diagnoses := c.diagnoses ++ [{ buffer := c.session.buffers.length }] } := by
    unfold after
    rw [begin_eq hsane.sound]
  refine attends (hsane.step (step_after hsane.sound .begin)) (d := { buffer := c.session.buffers.length }) ?_ rfl ?_ post
  · rw [hbegin]
    exact List.getElem?_concat_length
  · rw [hbegin]

/-- A new session over an empty script, without a URL: every transfer fails. -/
def unaimed : Watched ScriptedNetwork := { session := { readSize_pos := Session.readSize_new_pos }, network := {} }

/-- A diagnosis that begins after another has ended. -/
theorem diagnoses_share_one_place_in_turn : Sound unaimed.session ∧ unaimed.diagnoses = []
    ∧ ∃ d, ((unaimed.run [.begin, .unbind 0]).run [.begin, .perform, .unbind 0]).diagnoses[1]? = some d
      ∧ d.isBound = true
      ∧ ((unaimed.run [.begin, .unbind 0]).run [.begin, .perform, .unbind 0]).session.bound = some d.buffer := by
  have hsound : Sound unaimed.session := ⟨rfl, rfl⟩
  have hlength : (unaimed.run [.begin, .unbind 0]).diagnoses.length = 1 := by decide +kernel
  have hshare := diagnoses_share_one_place hsound rfl [.begin, .unbind 0] [.perform, .unbind 0]
  dsimp only at hshare
  rw [hlength] at hshare
  obtain ⟨d, hd, hattends⟩ := hshare
  have hfirst : (((unaimed.run [.begin, .unbind 0]).after .begin).after .perform).diagnoses[0]?
      = some { buffer := 0, isBound := false } := by decide +kernel
  have hends : ∀ a ∈ ([.perform, .unbind 0] : List (WatchAct ScriptedNetwork)), a.ends? ≠ some 1 := by
    simp [WatchAct.ends?]
  exact ⟨hsound, rfl, d, hd, hattends.counts.2 hends, hattends.bound.2 ⟨id, not_counts hfirst rfl, trivial⟩⟩

/-- The end of one diagnosis unbinds the buffer of another that has begun since and still counts as bound, which is not
told of the next failure. -/
theorem end_of_another_unbinds :
    let c := unaimed.run [.begin, .begin, .unbind 0]
    c.diagnoses[1]? = some { buffer := 1 } ∧ c.session.bound = none
      ∧ c.session.failure? c.network = some (.urlMalformat, ("No URL set" : Text.Points))
      ∧ ({ buffer := 1 } : Diagnosis).text (c.after .perform).session = "" := by
  decide +kernel

end

end Watched
end Transport
