import ContentTransport.Proofs.Http.Lines
/-!
# Request — what is written of a request

A request that is not refused is written in at least one piece, which holds the head.  A request without a body, or with
a body of a length that can be declared, is written to its end if its host and its target can be written
(`write_get`, `write_post`).  A head names one host (`Passed.namesHost`), and a host that can be the value of a field is
never what a request is refused for (`hostHarmless`).
-/
namespace Transport

theorem bind_ok {ε α β : Type} {x : Except ε α} {k : α → Except ε β} {b : β} (h : x >>= k = .ok b) :
    ∃ a, x = .ok a ∧ k a = .ok b := by
  cases x with
  | error e => cases h
  | ok a => exact ⟨a, rfl, h⟩

theorem bind_error {ε α β : Type} {x : Except ε α} {k : α → Except ε β} {e : ε} (h : x >>= k = .error e) :
    x = .error e ∨ ∃ a, x = .ok a ∧ k a = .error e := by
  cases x with
  | error e' =>
    cases h
    exact .inl rfl
  | ok a => exact .inr ⟨a, rfl, h⟩

theorem map_eq_error {ε α β : Type} {g : α → β} {x : Except ε α} {e : ε} : x.map g = .error e ↔ x = .error e := by
  cases x with
  | error e' =>
    change (Except.error e' : Except ε β) = .error e ↔ _
    rw [Except.error.injEq, Except.error.injEq]
  | ok a => exact ⟨nofun, nofun⟩

theorem mapError_ok {ε ε' α : Type} {x : Except ε α} {g : ε → ε'} {a : α} (h : x.mapError g = .ok a) : x = .ok a := by
  cases x with
  | error e => cases h
  | ok a =>
    cases h
    rfl

theorem ok_mapError {ε ε' α : Type} (g : ε → ε') (a : α) : (Except.ok a : Except ε α).mapError g = .ok a := rfl

theorem mapError_error {ε ε' α : Type} {x : Except ε α} {g : ε → ε'} {e' : ε'} (h : x.mapError g = .error e') :
    ∃ e, x = .error e ∧ g e = e' := by
  cases x with
  | error e => exact ⟨e, rfl, Except.error.inj h⟩
  | ok a => cases h

namespace Http

/-- The same fields, and others that were accepted before them. -/
def Accepted.following (base : List Field) (a : Accepted) : Accepted := { a with fields := a.fields ++ base }

theorem Accepted.add_following (base : List Field) (a : Accepted) (f : Field) :
    (a.following base).add f = (a.add f).map (·.following base) := by
  obtain ⟨fields, length, coding⟩ := a
  unfold Accepted.add
  split
  · rcases lengthOf f.value with e | l
    · rfl
    · cases length with
      | none => rfl
      | some seen => cases hsame : seen == l <;> simp [following, bind, Except.bind, Except.map, hsame]
  · split
    · cases coding with
      | true => rfl
      | false =>
        simp only [following, Bool.false_eq_true, if_false]
        split <;> rfl
    · rfl

namespace Request

/-- What a request that is not refused has passed: its host, its fields and its target are such as can be written. -/
structure Passed (r : Request) (host target : Bytes) (fields : List Field) : Prop where
  hostText : HostName.toAscii r.host.toList = .ok host
  checked : checkFields (r.allFields host) = .ok fields
  targetText : targetBytes r.target.toList = .ok target
  single : ¬(fields.filter (·.isNamed "host")).length > 1
  graphic : target.all (fun b => 0x21 ≤ b && b ≤ 0x7e) = true

/-- What is written of a request with a target and fields that have passed. -/
def written (r : Request) (target : Bytes) (fields : List Field) : Written :=
  let (body, fault) := if isChunked fields then (chunkedPieces r.body, none)
    else countedPieces ((contentLength? fields).getD 0) r.body
  { pieces := headBytes r.method target fields :: body, fault := fault, keepAlive := !asksToClose fields,
    proposes := !(members "upgrade" fields).isEmpty }

theorem passed_of_write {r : Request} {out : Written} (h : r.write = .ok out) :
    ∃ host target fields, r.Passed host target fields ∧ out = r.written target fields := by
  unfold write at h
  obtain ⟨host, hhost, h⟩ := bind_ok h
  obtain ⟨fields, hfields, h⟩ := bind_ok h
  obtain ⟨target, htarget, h⟩ := bind_ok h
  dsimp only at h
  split at h
  · cases h
  · rename_i hsingle
    split at h
    · cases h
    · rename_i hgraphic
      cases h
      exact ⟨host, target, fields, ⟨mapError_ok hhost, mapError_ok hfields, htarget, hsingle, by simpa using hgraphic⟩, rfl⟩

/-- A request that declares the length of its body, or has none, is written as its head and then its body. -/
theorem pieces_written {r : Request} {target : Bytes} {fields : List Field} (plain : isChunked fields = false)
    (length : (contentLength? fields).getD 0 = r.body.length) :
    (r.written target fields).pieces = headBytes r.method target fields :: [r.body].filter (!·.isEmpty) := by
  have hcounted : (countedPieces r.body.length r.body).1 = [r.body].filter (!·.isEmpty) := by
    cases r.body <;> simp [countedPieces]
  simp only [written, plain, length, Bool.false_eq_true, if_false, hcounted]

theorem head_of_write {r : Request} {out : Written} (h : r.write = .ok out) :
    ∃ target fields body, out.pieces = headBytes r.method target fields :: body := by
  obtain ⟨host, target, fields, -, rfl⟩ := passed_of_write h
  exact ⟨target, fields, _, rfl⟩

/-! ## Requests that are written to their end -/

/-- A field to be sent is checked, and then accepted as a received one is. -/
def addChecked (a : Accepted) (f : Field) : Except FieldFault Accepted := do
  checkField f
  a.add f

theorem checkFields_of_fold {fields : List Field} {a : Accepted} (h : fields.foldlM addChecked {} = .ok a) :
    checkFields fields = .ok a.fields.reverse := by
  have h' : fields.foldlM (fun (a : Accepted) f => do checkField f; a.add f) {} = .ok a := h
  unfold checkFields
  rw [h']
  rfl

theorem checkField_ok {f : Field} (hn : isToken f.name = true) (hv : isFieldValue f.value = true) :
    checkField f = .ok () := by
  simp [checkField, hn, hv]

theorem foldlM_addChecked : ∀ (fields : List Field) (a : Accepted),
    (∀ f ∈ fields, checkField f = .ok () ∧ f.frames = false) →
      fields.foldlM addChecked a = .ok { a with fields := fields.reverse ++ a.fields }
  | [], _, _ => rfl
  | f :: fields, a, h => by
    obtain ⟨hc, hp⟩ := h f List.mem_cons_self
    have hadd : addChecked a f = .ok { a with fields := f :: a.fields } := by
      simp only [addChecked, hc, bind, Except.bind, add_plain hp]
    rw [List.foldlM_cons, hadd]
    have ht := foldlM_addChecked fields { a with fields := f :: a.fields } fun g hg => h g (List.mem_cons_of_mem _ hg)
    simp only [bind, Except.bind, ht]
    simp

theorem checkFields_plain {fields : List Field} (h : ∀ f ∈ fields, checkField f = .ok () ∧ f.frames = false) :
    checkFields fields = .ok fields := by
  rw [checkFields_of_fold (foldlM_addChecked fields {} h)]
  simp

theorem write_whole {r : Request} {host target : Bytes} {fields : List Field}
    (hhost : HostName.toAscii r.host.toList = .ok host) (hfields : checkFields (r.allFields host) = .ok fields)
    (htarget : targetBytes r.target.toList = .ok target) (hone : ¬ (fields.filter (·.isNamed "host")).length > 1)
    (hgraphic : target.all (fun b => 0x21 ≤ b && b ≤ 0x7e) = true) (hplain : isChunked fields = false)
    (hlength : (contentLength? fields).getD 0 = r.body.length) : ∃ out, r.write = .ok out ∧ out.fault = none := by
  have hhost' : (HostName.toAscii r.host.toList).mapError RequestFault.host = .ok host := by
    rw [hhost]
    rfl
  have hfields' : (checkFields (r.allFields host)).mapError RequestFault.field = .ok fields := by
    rw [hfields]
    rfl
  unfold write
  simp only [hhost', hfields', htarget, bind, Except.bind, if_neg hone, hgraphic, hplain, hlength, Bool.not_true,
    Bool.false_eq_true, if_false]
  refine ⟨_, rfl, ?_⟩
  simp [countedPieces]

/-- The host and the target of a request can be written. -/
def Writable (host target : String) : Prop :=
  ∃ h t, HostName.toAscii host.toList = .ok h ∧ isFieldValue h = true ∧ targetBytes target.toList = .ok t
    ∧ t.all (fun b => 0x21 ≤ b && b ≤ 0x7e) = true

def hostLine (host : Bytes) : Field := ⟨Bytes.ofText "Host", host⟩

theorem hostLine_ok {host : Bytes} (h : isFieldValue host = true) :
    checkField (hostLine host) = .ok () ∧ (hostLine host).frames = false :=
  ⟨checkField_ok (show isToken (Bytes.ofText "Host") = true by decide) h, rfl⟩

theorem fold_of_checkFields {fields checked : List Field} (h : checkFields fields = .ok checked) :
    ∃ a, fields.foldlM addChecked {} = .ok a := by
  unfold checkFields at h
  obtain ⟨a, ha, -⟩ := bind_ok h
  exact ⟨a, ha⟩

theorem checkField_of_fold {fields : List Field} {a a' : Accepted} (h : fields.foldlM addChecked a = .ok a') :
    ∀ f ∈ fields, checkField f = .ok () := by
  induction fields generalizing a with
  | nil => exact nofun
  | cons g fields ih =>
    rw [List.foldlM_cons] at h
    obtain ⟨b, hb, h⟩ := bind_ok h
    obtain ⟨_, hcheck, -⟩ := bind_ok hb
    intro f hf
    rcases List.mem_cons.1 hf with rfl | hf
    · exact hcheck
    · exact ih h f hf

/-- Fields that have passed have been checked one by one. -/
theorem checkField_of_checkFields {fields checked : List Field} (h : checkFields fields = .ok checked) :
    ∀ f ∈ fields, checkField f = .ok () := by
  obtain ⟨a, ha⟩ := fold_of_checkFields h
  exact checkField_of_fold ha

/-- Fields that do not pass hold one that does not. -/
theorem fault_of_fold {fields : List Field} {a : Accepted} {e : FieldFault} (h : fields.foldlM addChecked a = .error e) :
    ∃ f ∈ fields, ∃ b, addChecked b f = .error e := by
  induction fields generalizing a with
  | nil => cases h
  | cons g fields ih =>
    rw [List.foldlM_cons] at h
    rcases hg : addChecked a g with e' | b
    · rw [hg] at h
      cases h
      exact ⟨g, List.mem_cons_self, a, hg⟩
    · rw [hg] at h
      obtain ⟨f, hf, hfault⟩ := ih h
      exact ⟨f, List.mem_cons_of_mem g hf, hfault⟩

theorem fault_of_checkFields {fields : List Field} {e : FieldFault} (h : checkFields fields = .error e) :
    ∃ f ∈ fields, ∃ b, addChecked b f = .error e := by
  rcases ha : fields.foldlM addChecked {} with e' | a
  · have h' : checkFields fields = .error e' := by
      unfold checkFields
      change (fields.foldlM addChecked {} >>= _) = _
      rw [ha]
      rfl
    rw [h'] at h
    cases h
    exact fault_of_fold ha
  · rw [checkFields_of_fold ha] at h
    cases h

theorem lengthOf_fault {value : Bytes} {e : FieldFault} (h : lengthOf value = .error e) :
    e = .conflictingLengths ∨ e = .length := by
  unfold lengthOf at h
  dsimp only at h
  repeat' split at h
  all_goals cases h
  · exact .inl rfl
  · exact .inl rfl
  · exact .inr rfl

/-- Accepting a field never finds fault with its grammar. -/
theorem add_fault {a : Accepted} {f : Field} {e : FieldFault} (h : a.add f = .error e) (x : Bytes) :
    e ≠ .name x ∧ e ≠ .value x := by
  unfold Accepted.add at h
  split at h
  · rcases hl : lengthOf f.value with e' | l
    · rw [hl] at h
      cases h
      rcases lengthOf_fault hl with rfl | rfl <;> exact ⟨nofun, nofun⟩
    · rw [hl] at h
      simp only [bind, Except.bind] at h
      repeat' split at h
      all_goals cases h
      exact ⟨nofun, nofun⟩
  · repeat' split at h
    all_goals cases h
    all_goals exact ⟨nofun, nofun⟩

theorem fault_of_checkField {f : Field} {e : FieldFault} (h : checkField f = .error e) :
    (e = .name f.name ∧ isToken f.name = false) ∨ (e = .value f.value ∧ isFieldValue f.value = false) := by
  unfold checkField at h
  split at h
  · rename_i hname
    cases h
    exact .inl ⟨rfl, by simpa using hname⟩
  · split at h
    · rename_i hvalue
      cases h
      exact .inr ⟨rfl, by simpa using hvalue⟩
    · cases h

/-- A name or a value that is found fault with is the one of a field that is at fault. -/
theorem fault_of_addChecked {a : Accepted} {f : Field} {e : FieldFault} (h : addChecked a f = .error e) :
    (∀ x, e = .name x → x = f.name ∧ isToken f.name = false)
      ∧ ∀ x, e = .value x → x = f.value ∧ isFieldValue f.value = false := by
  unfold addChecked at h
  rcases hf : checkField f with e' | u
  · rw [hf] at h
    cases h
    rcases fault_of_checkField hf with ⟨rfl, hname⟩ | ⟨rfl, hvalue⟩
    · exact ⟨fun x hx => ⟨by cases hx; rfl, hname⟩, nofun⟩
    · exact ⟨nofun, fun x hx => ⟨by cases hx; rfl, hvalue⟩⟩
  · rw [hf] at h
    exact ⟨fun x hx => absurd hx (add_fault h x).1, fun x hx => absurd hx (add_fault h x).2⟩

theorem fault_of_targetBytes {cs : List Char} {f : RequestFault} (h : targetBytes cs = .error f) (e : FieldFault) :
    f ≠ .field e := by
  unfold targetBytes at h
  split at h
  · cases h
  · cases h
    exact nofun

/-- A request that is refused for its fields is refused for those that it has with its host in ASCII. -/
theorem fault_of_write {r : Request} {e : FieldFault} (h : r.write = .error (.field e)) :
    ∃ host, HostName.toAscii r.host.toList = .ok host ∧ checkFields (r.allFields host) = .error e := by
  unfold write at h
  rcases bind_error h with h | ⟨host, hhost, h⟩
  · obtain ⟨f, -, hf⟩ := mapError_error h
    cases hf
  rcases bind_error h with h | ⟨fields, hfields, h⟩
  · obtain ⟨f, hf, heq⟩ := mapError_error h
    cases heq
    exact ⟨host, mapError_ok hhost, hf⟩
  rcases bind_error h with h | ⟨target, htarget, h⟩
  · exact absurd rfl (fault_of_targetBytes h e)
  · dsimp only at h
    repeat' split at h
    all_goals cases h

/-- A request that is refused for its host has one that cannot be written in ASCII. -/
theorem refused_host_iff {r : Request} {f : HostName.Fault} :
    r.write = .error (.host f) ↔ HostName.toAscii r.host.toList = .error f := by
  constructor
  · intro h
    unfold write at h
    rcases bind_error h with h | ⟨host, hhost, h⟩
    · obtain ⟨e, he, hf⟩ := mapError_error h
      cases hf
      exact he
    rcases bind_error h with h | ⟨fields, hfields, h⟩
    · obtain ⟨e, -, hf⟩ := mapError_error h
      cases hf
    rcases bind_error h with h | ⟨target, htarget, h⟩
    · unfold targetBytes at h
      split at h <;> cases h
    · dsimp only at h
      repeat' split at h
      all_goals cases h
  · intro h
    unfold write
    rw [h]
    rfl

/-! ## The Host field -/

theorem addChecked_following (base : List Field) (a : Accepted) (f : Field) :
    addChecked (a.following base) f = (addChecked a f).map (·.following base) := by
  unfold addChecked
  rcases checkField f with e | u
  · rfl
  · exact a.add_following base f

theorem foldlM_addChecked_following (base fields : List Field) (a : Accepted) :
    fields.foldlM addChecked (a.following base) = (fields.foldlM addChecked a).map (·.following base) := by
  induction fields generalizing a with
  | nil => rfl
  | cons f fields ih =>
    rw [List.foldlM_cons, List.foldlM_cons, addChecked_following]
    rcases addChecked a f with e | b
    · rfl
    · exact ih b

/-- A Host field that passes is accepted, and leaves it to the other fields whether they are. -/
theorem checkFields_hostLine {host : Bytes} (h : isFieldValue host = true) (rest : List Field) :
    checkFields (hostLine host :: rest) = (checkFields rest).map (hostLine host :: ·) := by
  obtain ⟨hcheck, hplain⟩ := hostLine_ok h
  have hadd : addChecked {} (hostLine host) = .ok (Accepted.following [hostLine host] {}) := by
    simp only [addChecked, hcheck, bind, Except.bind, add_plain hplain]
    rfl
  change ((hostLine host :: rest).foldlM addChecked {} >>= fun a => .ok a.fields.reverse)
    = (rest.foldlM addChecked {} >>= fun a => .ok a.fields.reverse).map (hostLine host :: ·)
  rw [List.foldlM_cons, hadd]
  change (rest.foldlM addChecked (Accepted.following [hostLine host] {}) >>= _) = _
  rw [foldlM_addChecked_following]
  rcases rest.foldlM addChecked {} with e | a
  · rfl
  · change Except.ok (a.fields ++ [hostLine host]).reverse = _
    rw [List.reverse_append]
    rfl

/-- The fields of a request behind Host. -/
def behindHost (r : Request) : List Field := (r.allFields []).tail

/-- Whether a request is refused for anything behind its host: another field, the target, or a second Host. -/
def refusedBehindHost (r : Request) : Except RequestFault Unit := do
  let fields ← (checkFields r.behindHost).mapError .field
  let target ← targetBytes r.target.toList
  if fields.any (·.isNamed "host") then .error .manyHosts
  if !target.all (fun b => 0x21 ≤ b && b ≤ 0x7e) then .error .target

/-- A Host field that passes leaves it to the rest of a request whether it is refused. -/
theorem write_behindHost {r : Request} {host : Bytes} (htext : HostName.toAscii r.host.toList = .ok host)
    (value : isFieldValue host = true) : r.write.map (fun _ => ()) = r.refusedBehindHost := by
  have hhost : (HostName.toAscii r.host.toList).mapError RequestFault.host = .ok host := by
    rw [htext]
    rfl
  have hall : r.allFields host = hostLine host :: r.behindHost := rfl
  have hnamed : (hostLine host).isNamed "host" = true := rfl
  have hmany (fields : List Field) : (((hostLine host :: fields).filter (·.isNamed "host")).length > 1)
      ↔ fields.any (·.isNamed "host") = true := by
    rw [List.filter_cons, if_pos hnamed, List.length_cons, List.any_eq_true]
    simp [List.length_pos_iff]
  unfold write refusedBehindHost
  rw [hhost]
  simp only [bind, Except.bind, hall, checkFields_hostLine value]
  rcases checkFields r.behindHost with e | fields
  · rfl
  · simp only [Except.map]
    rw [ok_mapError, ok_mapError]
    dsimp only
    rcases targetBytes r.target.toList with e | target
    · rfl
    · simp only [hmany]
      by_cases hsecond : fields.any (·.isNamed "host") = true
      · rw [if_pos hsecond, if_pos hsecond]
      · rw [if_neg hsecond, if_neg hsecond]
        cases target.all (fun b => 0x21 ≤ b && b ≤ 0x7e) <;> rfl

/-- The host of a request does no harm: if at all, the request is refused for what the same request to the host `h` is
refused for. -/
def HostHarmless (r : Request) : Prop :=
  ∀ f, r.write = .error f ↔ ({ r with host := "h" } : Request).write = .error f

theorem hostHarmless {r : Request} {host : Bytes} (text : HostName.toAscii r.host.toList = .ok host)
    (value : isFieldValue host = true) : r.HostHarmless := by
  have hplain : HostName.toAscii "h".toList = .ok (Bytes.ofText "h") := by rfl
  have hbehind : ({ r with host := "h" } : Request).write.map (fun _ => ()) = r.refusedBehindHost :=
    write_behindHost hplain (by decide)
  intro f
  rw [← map_eq_error (g := fun _ => ()), write_behindHost text value, ← hbehind, map_eq_error]

theorem checkField_of_illegal_host {host : Bytes} (illegal : isFieldValue host = false) :
    checkField (hostLine host) = .error (.value host) := by
  have hname : isToken (Bytes.ofText "Host") = true := by decide
  simp [checkField, hostLine, hname, illegal]

/-- A Host field that does not pass refuses a request. -/
theorem write_of_illegal_host {r : Request} {host : Bytes} (text : HostName.toAscii r.host.toList = .ok host)
    (illegal : isFieldValue host = false) : r.write = .error (.field (.value host)) := by
  have hfields : checkFields (r.allFields host) = .error (.value host) := by
    change ((hostLine host :: r.behindHost).foldlM addChecked {} >>= _) = _
    rw [List.foldlM_cons, addChecked, checkField_of_illegal_host illegal]
    rfl
  unfold write
  rw [text]
  change ((checkFields (r.allFields host)).mapError RequestFault.field >>= _) = _
  rw [hfields]
  rfl

/-- A host that has passed is the value of a field. -/
theorem isFieldValue_of_checkFields {host : Bytes} {rest fields : List Field}
    (h : checkFields (hostLine host :: rest) = .ok fields) : isFieldValue host = true := by
  have hcheck := checkField_of_checkFields h (hostLine host) List.mem_cons_self
  cases hv : isFieldValue host with
  | true => rfl
  | false =>
    rw [checkField_of_illegal_host hv] at hcheck
    cases hcheck

/-- A get that brings no fields and no body along has nothing but the one field. -/
theorem Passed.get {r : Request} {host target : Bytes} {fields : List Field} (h : r.Passed host target fields)
    (hm : r.method = .get) (hf : r.fields = []) : fields = [hostLine host] ∧ isFieldValue host = true := by
  have hall : r.allFields host = [hostLine host] := by simp [allFields, hm, hf, hostLine]
  have hfields := h.checked
  rw [hall] at hfields
  have hvalue := isFieldValue_of_checkFields hfields
  rw [checkFields_plain fun f hf => List.mem_singleton.1 hf ▸ hostLine_ok hvalue] at hfields
  cases hfields
  exact ⟨rfl, hvalue⟩

theorem write_get {r : Request} (h : Writable r.host r.target) (hm : r.method = .get) (hf : r.fields = [])
    (hb : r.body = []) : ∃ out, r.write = .ok out ∧ out.fault = none := by
  obtain ⟨host, target, hhost, hvalue, htarget, hgraphic⟩ := h
  have hall : r.allFields host = [hostLine host] := by simp [allFields, hm, hf, hostLine]
  have hcheck : checkFields (r.allFields host) = .ok [hostLine host] := by
    rw [hall]
    exact checkFields_plain fun f hf => List.mem_singleton.1 hf ▸ hostLine_ok hvalue
  refine write_whole hhost hcheck htarget (Nat.not_lt.2 (List.length_filter_le _ _)) hgraphic rfl ?_
  rw [hb]
  rfl

def lengthLine (body : Bytes) : Field := ⟨Bytes.ofText "Content-Length", Bytes.decimal body.length⟩

theorem lengthLine_isNamed (body : Bytes) : (lengthLine body).isNamed "content-length" = true :=
  show (Bytes.lower (Bytes.ofText "Content-Length") == Bytes.ofText "content-length") = true by decide

theorem isFieldValue_digits {b : Bytes} (h : b.all Bytes.isDigit = true) : isFieldValue b = true := by
  have hvisible : b.all isVisible = true := by
    rw [List.all_eq_true] at h ⊢
    exact fun x hx => isVisible_of_isDigit (h x hx)
  have hline : b.all isLineByte = true := by
    rw [List.all_eq_true] at hvisible ⊢
    exact fun x hx => by simp [isLineByte, hvisible x hx]
  obtain ⟨hh, hl⟩ := Bytes.all_ends hvisible
  simp [isFieldValue, hline, hh, hl]

theorem addChecked_lengthLine {body : Bytes} (h : (Bytes.decimal body.length).length ≤ 20)
    (a : Accepted) (ha : a.length = none) :
    addChecked a (lengthLine body)
      = .ok { a with fields := lengthLine body :: a.fields, length := some (Bytes.decimal body.length) } := by
  have hdigits := Bytes.all_isDigit_decimal body.length
  have hcheck : checkField (lengthLine body) = .ok () :=
    checkField_ok (show isToken (Bytes.ofText "Content-Length") = true by decide) (isFieldValue_digits hdigits)
  have hlength : lengthOf (lengthLine body).value = .ok (Bytes.decimal body.length) :=
    lengthOf_digits hdigits (Bytes.decimal_ne_nil _) h
  simp only [addChecked, hcheck, bind, Except.bind, Accepted.add, lengthLine_isNamed, if_true, hlength, ha]
  rfl

/-- The fields of a post: Host, the fields that it brings along, and the length of its body. -/
def postFields (host : Bytes) (fields : List Field) (body : Bytes) : List Field :=
  hostLine host :: fields ++ [lengthLine body]

section

variable {host body : Bytes} {fields : List Field}

theorem checked_host (hv : isFieldValue host = true) (hf : ∀ f ∈ fields, checkField f = .ok () ∧ f.frames = false) :
    ∀ f ∈ hostLine host :: fields, checkField f = .ok () ∧ f.frames = false := by
  intro f hmem
  rcases List.mem_cons.1 hmem with rfl | hmem
  · exact hostLine_ok hv
  · exact hf f hmem

theorem checkFields_post (hv : isFieldValue host = true) (hf : ∀ f ∈ fields, checkField f = .ok () ∧ f.frames = false)
    (hb : (Bytes.decimal body.length).length ≤ 20) :
    checkFields (postFields host fields body) = .ok (postFields host fields body) := by
  have hplain := checked_host hv hf
  have hfold : (postFields host fields body).foldlM addChecked {}
      = .ok ⟨lengthLine body :: ((hostLine host :: fields).reverse ++ []), some (Bytes.decimal body.length), false⟩ := by
    rw [postFields, List.foldlM_append, foldlM_addChecked _ _ hplain]
    have hadd := addChecked_lengthLine hb ⟨(hostLine host :: fields).reverse ++ [], none, false⟩ rfl
    simp only [bind, Except.bind, List.foldlM_cons, List.foldlM_nil, hadd]
    rfl
  rw [checkFields_of_fold hfold]
  simp [postFields]

/-- The length of a body that passes has at most 20 digits. -/
theorem few_of_checkFields {passed : List Field} (hv : isFieldValue host = true)
    (hf : ∀ f ∈ fields, checkField f = .ok () ∧ f.frames = false)
    (h : checkFields (postFields host fields body) = .ok passed) : (Bytes.decimal body.length).length ≤ 20 := by
  have hplain := checked_host hv hf
  have hfold : checkFields (postFields host fields body)
      = ((postFields host fields body).foldlM addChecked {}).map (·.fields.reverse) := by
    unfold checkFields
    rfl
  rw [hfold, postFields, List.foldlM_append, foldlM_addChecked _ _ hplain] at h
  simp only [bind, Except.bind, List.foldlM_cons, List.foldlM_nil, addChecked, Accepted.add, lengthLine_isNamed,
    if_true] at h
  cases hl : lengthOf (lengthLine body).value with
  | ok l => exact few_of_lengthOf (Bytes.all_isDigit_decimal body.length) hl
  | error f =>
    rw [hl] at h
    cases hc : checkField (lengthLine body) with
    | error g =>
      rw [hc] at h
      cases h
    | ok _ =>
      rw [hc] at h
      cases h

/-- A post says how long its body is, and not that it comes in chunks. -/
theorem framing_post (host body : Bytes) (hf : ∀ f ∈ fields, f.frames = false) : isChunked (postFields host fields body) = false
    ∧ (contentLength? (postFields host fields body)).getD 0 = body.length := by
  have hnamed := lengthLine_isNamed body
  have hframes : ∀ f ∈ hostLine host :: fields, f.frames = false := by
    intro f hmem
    rcases List.mem_cons.1 hmem with rfl | hmem
    · rfl
    · exact hf f hmem
  constructor
  · have hno : ∀ f ∈ postFields host fields body, f.isNamed "transfer-encoding" = false := by
      intro f hmem
      rcases List.mem_append.1 hmem with hmem | hmem
      · exact (frames_eq_false (hframes f hmem)).2
      · rw [List.mem_singleton.1 hmem]
        exact not_named_of_named hnamed (by decide)
    rw [isChunked, members_none hno]
    rfl
  · have hothers : ∀ g ∈ hostLine host :: fields ++ [], g.isNamed "content-length" = false := by
      intro g hmem
      rw [List.append_nil] at hmem
      exact (frames_eq_false (hframes g hmem)).1
    have hdigits := Bytes.all_isDigit_decimal body.length
    have hvalue : (lengthLine body).value = Bytes.decimal body.length := rfl
    unfold contentLength? postFields
    rw [members_one hothers hnamed, hvalue, lower_of_digits hdigits, parts_of_digits hdigits]
    simp [Bytes.decimal_ne_nil, Bytes.number_decimal]

end

/-- A post is written to its end if the length of its body has at most 20 digits. -/
theorem write_post {r : Request} (h : Writable r.host r.target) (hm : r.method = .post)
    (hf : ∀ f ∈ r.fields, checkField f = .ok () ∧ f.frames = false ∧ f.isNamed "host" = false)
    (hb : (Bytes.decimal r.body.length).length ≤ 20) : ∃ out, r.write = .ok out ∧ out.fault = none := by
  obtain ⟨host, target, hhost, hvalue, htarget, hgraphic⟩ := h
  have hall : r.allFields host = postFields host r.fields r.body := by
    simp [allFields, hm, hostLine, lengthLine, postFields]
  have hcheck := hall ▸ checkFields_post hvalue (fun f hmem => ⟨(hf f hmem).1, (hf f hmem).2.1⟩) hb
  obtain ⟨hplain, hlength⟩ := framing_post host r.body fun f hmem => (hf f hmem).2.1
  refine write_whole hhost hcheck htarget ?_ hgraphic (hall ▸ hplain) (hall ▸ hlength)
  have hno : r.fields.filter (·.isNamed "host") = [] :=
    List.filter_eq_nil_iff.2 fun f hmem => by simp [(hf f hmem).2.2]
  have hlast : (lengthLine r.body).isNamed "host" = false := not_named_of_named (lengthLine_isNamed r.body) (by decide)
  rw [hall, postFields, List.filter_append, List.filter_cons, hno, List.filter_cons, hlast]
  split <;> simp

/-- A post that passes has its fields just as they are listed. -/
theorem Passed.post {r : Request} {host target : Bytes} {fields : List Field} (h : r.Passed host target fields)
    (hm : r.method = .post) (hf : ∀ f ∈ r.fields, checkField f = .ok () ∧ f.frames = false) :
    fields = postFields host r.fields r.body ∧ isFieldValue host = true := by
  have hall : r.allFields host = postFields host r.fields r.body := by
    simp [allFields, hm, hostLine, lengthLine, postFields]
  have hchecked := h.checked
  rw [hall] at hchecked
  have hvalue := isFieldValue_of_checkFields hchecked
  rw [checkFields_post hvalue hf (few_of_checkFields hvalue hf hchecked)] at hchecked
  cases hchecked
  exact ⟨rfl, hvalue⟩

/-! ## The lines of a head -/

/-- The head of a request whose first field is Host, and none of the others. -/
theorem headBytes_host (m : Method) (target host : Bytes) {fields : List Field}
    (others : ∀ f ∈ fields, f.isNamed "host" = false) : headBytes m target (hostLine host :: fields)
      = Bytes.ofText m.text ++ [Bytes.space] ++ target ++ Bytes.ofText " HTTP/1.1" ++ crlf
        ++ (hostLine host).line ++ fields.flatMap Field.line ++ crlf := by
  have hhost : (hostLine host).isNamed "host" = true := rfl
  have hnone : fields.filter (·.isNamed "host") = [] := List.filter_eq_nil_iff.2 fun f hf => by simp [others f hf]
  have hall : fields.filter (!·.isNamed "host") = fields := List.filter_eq_self.2 fun f hf => by simp [others f hf]
  have hfirst : (hostLine host :: fields).filter (·.isNamed "host") = [hostLine host] := by
    rw [List.filter_cons, if_pos hhost, hnone]
  have hrest : (hostLine host :: fields).filter (!·.isNamed "host") = fields := by
    rw [List.filter_cons, hhost, hall]
    rfl
  unfold headBytes
  rw [hfirst, hrest, List.flatMap_singleton]

end Request

/-- No line ends within. -/
def Unbroken (line : Bytes) : Prop := ∀ b ∈ line, b ≠ Bytes.cr ∧ b ≠ Bytes.lf

theorem Unbroken.append {a b : Bytes} (ha : Unbroken a) (hb : Unbroken b) : Unbroken (a ++ b) := fun x hx =>
  (List.mem_append.1 hx).elim (ha x) (hb x)

theorem unbroken_of_all {b : Bytes} {p : UInt8 → Bool} (h : b.all p = true) (hcr : p Bytes.cr = false)
    (hlf : p Bytes.lf = false) : Unbroken b := by
  intro x hx
  have hp := List.all_eq_true.1 h x hx
  refine ⟨?_, ?_⟩
  · rintro rfl
    rw [hcr] at hp
    cases hp
  · rintro rfl
    rw [hlf] at hp
    cases hp

theorem unbroken_of_isFieldValue {b : Bytes} (h : isFieldValue b = true) : Unbroken b := by
  unfold isFieldValue at h
  rw [Bool.and_eq_true, Bool.and_eq_true] at h
  exact unbroken_of_all h.1.1 rfl rfl

/-- Bytes begin with one line at the most. -/
theorem line_unique {a b x y : Bytes} (ha : Unbroken a) (hb : Unbroken b) (h : a ++ crlf ++ x = b ++ crlf ++ y) :
    a = b ∧ x = y := by
  induction a generalizing b with
  | nil =>
    cases b with
    | nil => exact ⟨rfl, List.append_cancel_left h⟩
    | cons d b => exact absurd (List.cons.inj h).1.symm (hb d List.mem_cons_self).1
  | cons c a ih =>
    cases b with
    | nil => exact absurd (List.cons.inj h).1 (ha c List.mem_cons_self).1
    | cons d b =>
      obtain ⟨rfl, hrest⟩ := List.cons.inj h
      obtain ⟨rfl, rfl⟩ := ih (fun x hx => ha x (List.mem_cons_of_mem _ hx))
        (fun x hx => hb x (List.mem_cons_of_mem _ hx)) hrest
      exact ⟨rfl, rfl⟩

/-! ## The Host field of a head -/

/-- The first field of a head is Host, with this value. -/
def NamesHost (host head : Bytes) : Prop :=
  Unbroken host ∧ ∃ line rest, Unbroken line ∧ head = line ++ crlf ++ ((Request.hostLine host).line ++ rest)

/-- A head names one host at the most. -/
theorem NamesHost.unique {host other head : Bytes} (h : NamesHost host head) (h' : NamesHost other head) :
    host = other := by
  obtain ⟨hhost, line, rest, hline, rfl⟩ := h
  obtain ⟨hother, line', rest', hline', he⟩ := h'
  have hfield := (line_unique hline hline' he).2
  simp only [Field.line, Request.hostLine, List.append_assoc] at hfield
  have hvalue : host ++ crlf ++ rest = other ++ crlf ++ rest' := by
    simp only [List.append_assoc]
    exact List.append_cancel_left (List.append_cancel_left hfield)
  exact (line_unique hhost hother hvalue).1

namespace Request

theorem add_grows {a a' : Accepted} {f : Field} (h : a.add f = .ok a') : a.fields <:+ a'.fields := by
  unfold Accepted.add at h
  split at h
  · obtain ⟨l, -, h⟩ := bind_ok h
    split at h
    · cases h
      exact List.suffix_cons _ _
    · split at h
      · cases h
        exact List.suffix_refl _
      · cases h
  · split at h
    · split at h
      · cases h
      · split at h
        · cases h
        · cases h
          exact List.suffix_cons _ _
    · cases h
      exact List.suffix_cons _ _

theorem fold_grows {fields : List Field} {a a' : Accepted} (h : fields.foldlM addChecked a = .ok a') :
    a.fields <:+ a'.fields := by
  induction fields generalizing a with
  | nil =>
    cases h
    exact List.suffix_refl _
  | cons f fields ih =>
    rw [List.foldlM_cons] at h
    obtain ⟨b, hb, h⟩ := bind_ok h
    obtain ⟨_, -, hadd⟩ := bind_ok hb
    exact (add_grows hadd).trans (ih h)

/-- The Host field stays the first. -/
theorem host_first {host : Bytes} {rest fields : List Field} (h : checkFields (hostLine host :: rest) = .ok fields) :
    ∃ others, fields = hostLine host :: others := by
  obtain ⟨a, ha⟩ := fold_of_checkFields h
  obtain rfl : a.fields.reverse = fields := Except.ok.inj ((checkFields_of_fold ha).symm.trans h)
  rw [List.foldlM_cons] at ha
  obtain ⟨b, hb, ha⟩ := bind_ok ha
  obtain ⟨_, -, hadd⟩ := bind_ok hb
  obtain ⟨before, hbefore⟩ := fold_grows ha
  cases hadd
  refine ⟨before.reverse, ?_⟩
  rw [← hbefore, List.reverse_append]
  rfl

theorem Passed.namesHost {r : Request} {host target : Bytes} {fields : List Field} (h : r.Passed host target fields) :
    NamesHost host (headBytes r.method target fields) := by
  have hchecked : checkFields (hostLine host :: _) = .ok fields := h.checked
  obtain ⟨others, rfl⟩ := host_first hchecked
  have hnone : ∀ f ∈ others, f.isNamed "host" = false := by
    have hfew := Nat.not_lt.1 h.single
    rw [List.filter_cons, if_pos (show (hostLine host).isNamed "host" = true from rfl), List.length_cons] at hfew
    have hnil := List.length_eq_zero_iff.1 (Nat.le_zero.1 (Nat.le_of_succ_le_succ hfew))
    exact fun f hf => Bool.eq_false_iff.2 (List.filter_eq_nil_iff.1 hnil f hf)
  have hline : Unbroken (Bytes.ofText r.method.text ++ [Bytes.space] ++ target ++ Bytes.ofText " HTTP/1.1") := by
    have htext {text : String} (h : (Bytes.ofText text).all (fun b => 0x20 ≤ b) = true) : Unbroken (Bytes.ofText text) :=
      unbroken_of_all h rfl rfl
    have hmethod : Unbroken (Bytes.ofText r.method.text) := by cases r.method <;> exact htext (by decide)
    have hspace : Unbroken (Bytes.ofText " ") := htext (by decide)
    exact ((hmethod.append hspace).append (unbroken_of_all h.graphic rfl rfl)).append (htext (by decide))
  refine ⟨unbroken_of_isFieldValue (isFieldValue_of_checkFields hchecked), _, others.flatMap Field.line ++ crlf, hline, ?_⟩
  rw [headBytes_host r.method target host hnone]
  simp only [List.append_assoc]

end Request
end Http
end Transport
